/-!
# Decimal digits

* `Decimal.natChars`, `Decimal.intChars`: the digits of a number.
* `Decimal.spanDigits`: the digits that a text starts with, and the rest.
* `Decimal.readInt?`: an optional sign and digits.
-/

namespace CollectionArchive.Decimal

/-- The decimal digits of a natural number. -/
def natChars (n : Nat) : List Char :=
  Nat.toDigits 10 n

/-- The decimal digits of an integer, after a minus sign if it is negative. -/
def intChars (i : Int) : List Char :=
  if i < 0 then '-' :: natChars i.natAbs else natChars i.natAbs

/-- The value of a decimal digit. -/
def digit? (c : Char) : Option Nat :=
  if '0' ≤ c && c ≤ '9' then some (c.toNat - 48) else none

/-- The digits that a text starts with, and the rest of it. -/
def spanDigits : List Char → List Nat × List Char
  | [] => ([], [])
  | c :: cs =>
    match digit? c with
    | none => ([], c :: cs)
    | some d => (d :: (spanDigits cs).1, (spanDigits cs).2)

/-- The number that digits write. -/
def ofDigits (ds : List Nat) : Nat :=
  ds.foldl (fun n d => n * 10 + d) 0

/-- A sign, if the text starts with one, and whether it is a minus. -/
def splitSign : List Char → Bool × List Char
  | '-' :: cs => (true, cs)
  | '+' :: cs => (false, cs)
  | cs => (false, cs)

/-- The magnitude with the sign. -/
def signed (negative : Bool) (n : Nat) : Int :=
  if negative then -(n : Int) else n

/-- The integer that an optional sign and at least one digit write. -/
def readInt? (cs : List Char) : Option Int :=
  let (negative, body) := splitSign cs
  match spanDigits body with
  | ([], _) => none
  | (ds, []) => some (signed negative (ofDigits ds))
  | _ => none

end CollectionArchive.Decimal
