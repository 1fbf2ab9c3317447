import CollectionArchive.Decimal.Shortest

/-!
# JSON numbers

A number is an integer if its literal has neither point nor exponent and fits 64 bits; any other is
a double.

* `Json.Literal`: the parts of a number literal.
* `Json.Literal.number?`: the number that it denotes, unless that is out of range.
* `Json.Number.chars`: the text of a number.
-/

namespace CollectionArchive

open Binary64 (Finite)

namespace Json

/-- An integer of 64 bits, with or without sign, or a finite double. -/
inductive Number where
  | integer (value : Int)
  | double (value : Finite)
deriving DecidableEq

namespace Number

/-- Doubles are written without an exponent from `0.00001` on, below `10 ^ 16`. -/
def layout : Decimal.Layout :=
  { least := -4, most := 16 }

/-- The text of a number. -/
def chars : Number → List Char
  | integer i => Decimal.intChars i
  | double x => layout.chars x

/-- The text of a number. -/
def text (n : Number) : String :=
  String.ofList n.chars

/-- The nearest double. -/
def toDouble? : Number → Option Finite
  | integer i => Finite.ofInt? i
  | double x => some x

/-- Integers and doubles differ; doubles are compared by value. -/
def equal : Number → Number → Bool
  | integer i, integer j => i == j
  | double x, double y => x.equal y
  | _, _ => false

end Number

/-- The parts of a number literal: its digits before and after the point, and its exponent. -/
structure Literal where
  negative : Bool
  whole : List Nat
  fraction : Option (List Nat)
  exponent : Option Int
deriving DecidableEq

namespace Literal

/-- The significands in use are below this bound. -/
def significandBound : Nat :=
  0x10000000000000000

/-- Digits collected into a significand. Those that no longer fit are counted, not collected. -/
def collect (significand : Nat) : List Nat → Nat × Nat
  | [] => (significand, 0)
  | d :: ds =>
    if significand * 10 + d < significandBound then collect (significand * 10 + d) ds
    else (significand, (d :: ds).length)

/-- A power of ten as a double. -/
def tenPower? (k : Nat) : Option Finite :=
  Finite.ofNat? (Nat.pow 10 k)

/-- One rounded multiplication or division by a power of ten. A power below `10 ^ -308` is divided
off in steps of that size. -/
def scale? (x : Finite) : (steps : Nat) → (exponent : Int) → Option Finite
  | 0, _ => if x.significand == 0 then some x else none
  | steps + 1, exponent =>
    if exponent.natAbs ≤ 308 then do
      let power ← tenPower? exponent.natAbs
      if 0 ≤ exponent then x.mul? power else x.div? power
    else if x.significand == 0 then some x
    else if 0 ≤ exponent then none
    else do
      let power ← tenPower? 308
      scale? (← x.div? power) steps (exponent + 308)

/-- The double that a significand and a power of ten denote: the significand is rounded first, then
scaled. After four steps any significand is zero. -/
def double? (negative : Bool) (significand : Nat) (exponent : Int) : Option Finite := do
  let x ← scale? (← Finite.ofNat? significand) 5 exponent
  return if negative then x.neg else x

/-- The exponents in use fit 32 bits. -/
def exponentBound : Int :=
  0x80000000

/-- The double that a literal denotes, none if it is too large. -/
def toDouble? (l : Literal) : Option Finite :=
  let (whole, dropped) := collect 0 l.whole
  let digits := l.fraction.getD []
  let (significand, uncounted) := collect whole digits
  let shift : Int := (dropped : Int) - (digits.length - uncounted : Nat)
  match l.exponent with
  | none => double? l.negative significand shift
  | some e =>
    if exponentBound ≤ e.natAbs then
      if significand != 0 && 0 < e then none else some (Finite.zero l.negative)
    else double? l.negative significand (shift + e)

/-- The number that a literal denotes, none if it is too large. A zero with a minus sign is a
double, as is an integer that does not fit 64 bits. -/
def number? (l : Literal) : Option Number :=
  let integral := l.fraction.isNone && l.exponent.isNone
  let n := Decimal.ofDigits l.whole
  if integral && !l.negative && n < 0x10000000000000000 then some (.integer n)
  else if integral && l.negative && 0 < n && n ≤ 0x8000000000000000 then some (.integer (-n))
  else l.toDouble?.map .double

end Literal

end Json

end CollectionArchive
