import CollectionArchive.Text.CodeSet

/-!
# Maps of characters

What characters stand for is a table of ranges too, written in hexadecimal. `41-5a=61` maps the
capital letters to the small ones, `100~12e=101` every second character of a range, and `df=73+73`
one character to two.

* `CodeMap`: the ranges, in ascending order.
* `CodeMap.get?`: what a character is mapped to, by bisection.
-/

namespace CollectionArchive.Text

namespace CodeMap

/-- A range of which each `step`th character is mapped: the first one to `target`, and where that is
a single character, those after it to the ones after that. -/
structure Entry where
  first : Nat
  last : Nat
  step : Nat
  target : List Nat

/-- The range that the left side of an entry writes. -/
def readRange (cs : List Char) (target : List Nat) : Entry :=
  let step := if cs.contains '~' then 2 else 1
  match (fields (fun c => c == '-' || c == '~') cs).map hexNumber with
  | [first, last] => ⟨first, last, step, target⟩
  | [only] => ⟨only, only, 1, target⟩
  | _ => ⟨1, 0, 1, []⟩

/-- One entry of a table. -/
def readEntry (cs : List Char) : Entry :=
  match fields (· == '=') cs with
  | [range, target] => readRange range ((fields (· == '+') target).map hexNumber)
  | _ => ⟨1, 0, 1, []⟩

/-- What the entry maps a character of its range to. -/
def Entry.image? (e : Entry) (n : Nat) : Option (List Char) :=
  if (n - e.first) % e.step == 0 then
    match e.target with
    | [single] => some [Char.ofNat (single + (n - e.first))]
    | several => some (several.map Char.ofNat)
  else none

end CodeMap

/-- What characters stand for. -/
structure CodeMap where
  entries : Array CodeMap.Entry

namespace CodeMap

/-- The map that a table writes. -/
def ofTable (table : String) : CodeMap :=
  ⟨((fields (fun c => c == ' ' || c == '\n') table.toList).map readEntry).toArray⟩

/-- Bisection among the entries from `low` on, before `high`. -/
def search (entries : Array Entry) (n low high : Nat) : Option (List Char) :=
  if _h : low < high then
    let middle := (low + high) / 2
    match entries[middle]? with
    | none => none
    | some e =>
      if n < e.first then search entries n low middle
      else if e.last < n then search entries n (middle + 1) high
      else e.image? n
  else none
termination_by high - low
decreasing_by all_goals omega

/-- What a character is mapped to. -/
def get? (m : CodeMap) (c : Char) : Option (List Char) :=
  search m.entries c.toNat 0 m.entries.size

end CodeMap

end CollectionArchive.Text
