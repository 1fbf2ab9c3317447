import CollectionArchive.Decimal.Binary64
import CollectionArchive.Decimal.Digits

/-!
# Reading decimals

* `Decimal.nearest?`: the finite number nearest to a coefficient times a power of ten.
* `Decimal.readFinite?`: the number that a decimal text writes, correctly rounded.
-/

namespace CollectionArchive

open Binary64 (Finite)

namespace Decimal

/-- The finite number nearest to `c · 10 ^ k`; none beyond the largest. Powers that are surely out
of range are not computed. -/
def nearest? (negative : Bool) (c : Nat) (k : Int) : Option Finite :=
  let order := ((natChars c).length : Int) + k
  if c == 0 || order < -330 then some (Finite.zero negative)
  else if 310 < order then none
  else Finite.round? negative (c * Nat.pow 10 k.toNat) (Nat.pow 10 (-k).toNat)

/-- The exponent that a text is made of, after its mark: an optional sign and digits. -/
def readExponent? : List Char → Option Int
  | [] => some 0
  | c :: cs => if c == 'e' || c == 'E' then readInt? cs else none

/-- The finite number that a text writes: an optional sign, digits with an optional point among
them, and an optional exponent. -/
def readFinite? (cs : List Char) : Option Finite :=
  let (negative, body) := splitSign cs
  let (whole, afterWhole) := spanDigits body
  let (fraction, afterFraction) :=
    match afterWhole with
    | '.' :: rest => spanDigits rest
    | rest => ([], rest)
  if whole.isEmpty && fraction.isEmpty then none
  else do
    let exponent ← readExponent? afterFraction
    nearest? negative (ofDigits (whole ++ fraction)) (exponent - fraction.length)

end Decimal

end CollectionArchive
