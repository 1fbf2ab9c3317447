import CollectionArchive.Decimal.Binary64
import CollectionArchive.Decimal.Digits

/-!
# The shortest decimal of a binary number

Each finite number is the nearest one to all decimals of an interval. Among them those with the
fewest digits are its shortest decimals, and the one nearest to the number is written.

* `Decimal.shortest`: its coefficient and power of ten.
* `Decimal.Layout`, `Decimal.Layout.chars`: where the point of such a decimal is written.
-/

namespace CollectionArchive

open Binary64 (Finite)

namespace Decimal

/-- The decimals that read as `x` are those between `low / unit` and `high / unit`, about
`value / unit`; the ends belong to them if `closed`. -/
structure Interval where
  low : Nat
  value : Nat
  high : Nat
  unit : Nat
  closed : Bool

/-- Half way to the neighbours on both sides. The lower neighbour of a power of two is nearer. -/
def interval (x : Finite) : Interval :=
  let m := x.significand
  let scale := Nat.pow 2 x.exponent.toNat
  let below := if m == 0x10000000000000 && x.exponent != -1074 then 1 else 2
  { low := (4 * m - below) * scale
    value := 4 * m * scale
    high := (4 * m + 2) * scale
    unit := 4 * Nat.pow 2 (-x.exponent).toNat
    closed := m % 2 == 0 }

/-- A power of ten as a fraction. -/
def tenPower (k : Int) : Nat × Nat :=
  (Nat.pow 10 k.toNat, Nat.pow 10 (-k).toNat)

/-- The number of digits before the point of a positive `num / den`; zero or less if it is below a
tenth. -/
def decimalOrder (num den : Nat) : Int :=
  let estimate := Finite.binaryOrder num den * 30103 / 100000
  let below (p : Int) : Bool := num * (tenPower p).2 < (tenPower p).1 * den
  if below estimate then estimate
  else if below (estimate + 1) then estimate + 1
  else estimate + 2

/-- Whether `c · 10 ^ k` lies in the interval. -/
def Interval.contains (i : Interval) (c : Nat) (k : Int) : Bool :=
  let (num, den) := tenPower k
  let point := c * num * i.unit
  if i.closed then i.low * den ≤ point && point ≤ i.high * den
  else i.low * den < point && point < i.high * den

/-- The multiple of `10 ^ k` in the interval that is nearest to its value, if there is one; of two
at the same distance the even one. -/
def Interval.nearest? (i : Interval) (k : Int) : Option (Nat × Int) :=
  let (num, den) := tenPower k
  let best := Finite.nearestEven (i.value * den) (num * i.unit)
  let lower := i.value * den / (num * i.unit)
  let other := if best == lower then lower + 1 else lower
  if i.contains best k then some (best, k)
  else if i.contains other k then some (other, k)
  else none

/-- All digits of a number: its coefficient and power of ten. -/
def exact (x : Finite) : Nat × Int :=
  if 0 ≤ x.exponent then (x.magnitude, 0)
  else (x.significand * Nat.pow 5 (-x.exponent).toNat, x.exponent)

/-- The coefficient and power of ten of the shortest decimal of a number other than zero. -/
def shortest (x : Finite) : Nat × Int :=
  let i := interval x
  let order := decimalOrder i.value i.unit
  ((List.range 17).findSome? fun n => i.nearest? (order - (n + 1 : Nat))).getD (exact x)

/-- Between which positions of the point a number is written without an exponent. The position
counts the digits before the point, and is below zero for zeros after it. -/
structure Layout where
  least : Int
  most : Int

/-- Digits with the point at a position, without an exponent. -/
def positional (ds : List Char) (point : Int) : List Char :=
  let whole := point.toNat
  if point ≤ 0 then '0' :: '.' :: List.replicate (-point).toNat '0' ++ ds
  else if ds.length ≤ whole then ds ++ List.replicate (whole - ds.length) '0' ++ ['.', '0']
  else ds.take whole ++ '.' :: ds.drop whole

/-- Digits with the point after the first of them, and an exponent with its sign. -/
def scientific (ds : List Char) (point : Int) : List Char :=
  let exponent := point - 1
  let sign := if exponent < 0 then '-' else '+'
  let fraction := if ds.length ≤ 1 then [] else '.' :: ds.drop 1
  ds.take 1 ++ fraction ++ 'e' :: sign :: natChars exponent.natAbs

/-- The text of a finite number: its shortest digits, in the layout that its size asks for. -/
def Layout.chars (layout : Layout) (x : Finite) : List Char :=
  let sign := if x.negative then ['-'] else []
  if x.significand == 0 then sign ++ ['0', '.', '0']
  else
    let (c, k) := shortest x
    let all := natChars c
    let ds := (all.reverse.dropWhile (· == '0')).reverse
    let point := (all.length : Int) + k
    if layout.least ≤ point && point ≤ layout.most then sign ++ positional ds point
    else sign ++ scientific ds point

end Decimal

end CollectionArchive
