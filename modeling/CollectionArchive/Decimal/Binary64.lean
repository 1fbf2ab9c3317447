/-!
# Binary floating-point numbers

A finite number is `±m · 2^e`; the others are the infinities and the value that is no number.

* `Finite`: the finite numbers of 64 bits, each in one form.
* `Finite.round?`: the number nearest to a fraction, a tie going to the even significand.
* `Finite.mul?`, `Finite.div?`, `Finite.ofNat?`: the exact result, rounded once.
* `Finite.floor`, `Finite.isWhole`: exact questions about the value.
-/

namespace CollectionArchive.Binary64

/-- The pairs of significand and exponent in use: the significand has 53 bits, or fewer at the
least exponent. -/
def Canonical (significand : Nat) (exponent : Int) : Prop :=
  significand < 0x20000000000000 ∧ -1074 ≤ exponent ∧ exponent ≤ 971 ∧
    (0x10000000000000 ≤ significand ∨ exponent = -1074)

instance (significand : Nat) (exponent : Int) : Decidable (Canonical significand exponent) :=
  inferInstanceAs (Decidable (_ ∧ _))

/-- A finite number: `significand · 2 ^ exponent`, with a sign that zero has too. -/
structure Finite where
  negative : Bool
  significand : Nat
  exponent : Int
  canonical : Canonical significand exponent
deriving DecidableEq

namespace Finite

/-- The number of given parts, unless they are out of range. -/
def ofParts? (negative : Bool) (significand : Nat) (exponent : Int) : Option Finite :=
  if h : Canonical significand exponent then some ⟨negative, significand, exponent, h⟩ else none

/-- Zero, of either sign. -/
def zero (negative : Bool) : Finite :=
  ⟨negative, 0, -1074, by decide⟩

/-- The magnitude's numerator over `denominator`. -/
def magnitude (x : Finite) : Nat :=
  x.significand * Nat.pow 2 x.exponent.toNat

/-- A power of two. -/
def denominator (x : Finite) : Nat :=
  Nat.pow 2 (-x.exponent).toNat

/-- The value is `numerator / denominator`. -/
def numerator (x : Finite) : Int :=
  if x.negative then -(x.magnitude : Int) else x.magnitude

/-- The whole number nearest to `num / den`; halfway the even one. -/
def nearestEven (num den : Nat) : Nat :=
  let whole := num / den
  let twice := 2 * (num % den)
  if twice < den then whole
  else if den < twice then whole + 1
  else whole + whole % 2

/-- The largest `k` with `2 ^ k ≤ num / den`, for a positive fraction. -/
def binaryOrder (num den : Nat) : Int :=
  let k : Int := (Nat.log2 num : Int) - Nat.log2 den
  if den * Nat.pow 2 k.toNat ≤ num * Nat.pow 2 (-k).toNat then k else k - 1

/-- The number nearest to `num / den` in magnitude, a tie going to the even significand; none
beyond the largest finite number. -/
def round? (negative : Bool) (num den : Nat) : Option Finite :=
  if num == 0 then some (zero negative)
  else
    let exponent := max (binaryOrder num den - 52) (-1074)
    let significand := nearestEven (num * Nat.pow 2 (-exponent).toNat)
      (den * Nat.pow 2 exponent.toNat)
    if significand == 0x20000000000000 then ofParts? negative 0x10000000000000 (exponent + 1)
    else ofParts? negative significand exponent

/-- The number nearest to a natural number. -/
def ofNat? (n : Nat) : Option Finite :=
  round? false n 1

/-- The number nearest to an integer. -/
def ofInt? (i : Int) : Option Finite :=
  round? (i < 0) i.natAbs 1

/-- The product, rounded; none on overflow. -/
def mul? (x y : Finite) : Option Finite :=
  round? (x.negative != y.negative) (x.magnitude * y.magnitude) (x.denominator * y.denominator)

/-- The quotient by a number other than zero, rounded; none on overflow. -/
def div? (x y : Finite) : Option Finite :=
  round? (x.negative != y.negative) (x.magnitude * y.denominator) (x.denominator * y.magnitude)

/-- The number with the other sign. -/
def neg (x : Finite) : Finite :=
  { x with negative := !x.negative }

/-- The largest integer that is not above the value. -/
def floor (x : Finite) : Int :=
  x.numerator / (x.denominator : Int)

/-- Whether the value is an integer. -/
def isWhole (x : Finite) : Bool :=
  x.magnitude % x.denominator == 0

/-- The integer that a whole value is; a fraction loses its digits after the point. -/
def truncate (x : Finite) : Int :=
  Int.tdiv x.numerator x.denominator

/-- The value less its floor, rounded: between zero and one, both included. -/
def fraction? (x : Finite) : Option Finite :=
  round? false (x.numerator % (x.denominator : Int)).toNat x.denominator

/-- Whether two numbers have the same value; both zeros do. -/
def equal (x y : Finite) : Bool :=
  x.significand == y.significand && x.exponent == y.exponent &&
    (x.negative == y.negative || x.significand == 0)

end Finite

end CollectionArchive.Binary64

namespace CollectionArchive

/-- A number of 64 bits. -/
inductive Binary64 where
  | finite (x : Binary64.Finite)
  | infinite (negative : Bool)
  | nan
deriving DecidableEq

namespace Binary64

/-- Whether two numbers compare equal: both zeros do, and what is no number equals nothing. -/
def equal : Binary64 → Binary64 → Bool
  | finite x, finite y => x.equal y
  | infinite a, infinite b => a == b
  | _, _ => false

/-- The finite number, if it is one. -/
def finite? : Binary64 → Option Finite
  | finite x => some x
  | _ => none

end Binary64

end CollectionArchive
