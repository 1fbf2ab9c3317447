/-!
# Sets of characters

A property of characters is a table of ranges, written in hexadecimal: `41-5a 5f` holds the capital
letters and the underscore.

* `CodeSet`: the ranges, in ascending order.
* `CodeSet.contains`: whether a character lies in one of them, by bisection.
-/

namespace CollectionArchive.Text

/-- The value of a hexadecimal digit of either case. -/
def hexValue? (c : Char) : Option Nat :=
  if '0' ≤ c && c ≤ '9' then some (c.toNat - 48)
  else if 'a' ≤ c && c ≤ 'f' then some (c.toNat - 87)
  else if 'A' ≤ c && c ≤ 'F' then some (c.toNat - 55)
  else none

/-- The number that the hexadecimal digits of a text write; other characters count as zeros. -/
def hexNumber (cs : List Char) : Nat :=
  cs.foldl (fun n c => n * 16 + (hexValue? c).getD 0) 0

/-- The pieces of `cs` between separators, without the empty ones. -/
def fields (separates : Char → Bool) (cs : List Char) : List (List Char) :=
  (cs.splitBy fun a b => separates a == separates b).filter fun piece => !piece.all separates

/-- Ranges of code points, in ascending order. -/
structure CodeSet where
  ranges : Array (Nat × Nat)

namespace CodeSet

/-- One range of a table: `41-5a`, or `5f` for a single character. -/
def readRange (cs : List Char) : Nat × Nat :=
  match fields (· == '-') cs with
  | [low] => (hexNumber low, hexNumber low)
  | [low, high] => (hexNumber low, hexNumber high)
  | _ => (1, 0)

/-- The set that a table of ranges writes. -/
def ofTable (table : String) : CodeSet :=
  ⟨((fields (fun c => c == ' ' || c == '\n') table.toList).map readRange).toArray⟩

/-- Bisection among the ranges from `low` on, before `high`. -/
def search (ranges : Array (Nat × Nat)) (n low high : Nat) : Bool :=
  if _h : low < high then
    let middle := (low + high) / 2
    match ranges[middle]? with
    | none => false
    | some (first, last) =>
      if n < first then search ranges n low middle
      else if last < n then search ranges n (middle + 1) high
      else true
  else false
termination_by high - low
decreasing_by all_goals omega

/-- Whether the set has the character. -/
def contains (s : CodeSet) (c : Char) : Bool :=
  search s.ranges c.toNat 0 s.ranges.size

end CodeSet

end CollectionArchive.Text
