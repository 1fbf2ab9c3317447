import CollectionArchive.Toml.Value

/-!
# Filling TOML tables

A table is filled by assignments to keys with dots and by headers. What one of them has completed
the next may not change.

* `Toml.Members.assign?`: a value under a key.
* `Toml.Members.openTable?`, `Toml.Members.openElement?`: what a header opens.
* `Toml.Members.inside?`: a change within what a header has opened.
-/

namespace CollectionArchive.Toml.Members

/-- A change of the members of a table, which may be refused. -/
abbrev Change := Members → Option Members

/-- A change of the last of several tables. -/
def changeLast (change : Change) : List Members → Option (List Members)
  | [] => none
  | [ms] => return [← change ms]
  | ms :: rest => return ms :: (← changeLast change rest)

/-- Something under a key that is free. -/
def assignNew (key : String) (v : Value) : Change := fun ms =>
  if ms.has key then none else some (ms.insert key v)

/-- A value under a key with dots. Only tables that keys with dots have made are filled in this way,
and what is within tables that headers have implied. -/
def assign? (v : Value) : List String → Change
  | [], _ => none
  | [key], ms => assignNew key v ms
  | key :: rest, ms =>
    match ms.get? key with
    | none => return ms.insert key (.table .dotted (← assign? v rest []))
    | some (.table .dotted inner) => return ms.insert key (.table .dotted (← assign? v rest inner))
    | some (.table .implied inner) =>
      if rest.length ≤ 1 then none
      else return ms.insert key (.table .implied (← assign? v rest inner))
    | some (.tables elements) =>
      if rest.length ≤ 1 then none
      else return ms.insert key (.tables (← changeLast (assign? v rest) elements))
    | some _ => none

/-- A change within what the names of a header lead to. Tables that are not there are implied. -/
def descend (change : Change) : List String → Change
  | [], ms => change ms
  | key :: rest, ms =>
    match ms.get? key with
    | none => return ms.insert key (.table .implied (← descend change rest []))
    | some (.table .inline _) => none
    | some (.table origin inner) =>
      return ms.insert key (.table origin (← descend change rest inner))
    | some (.tables elements) =>
      return ms.insert key (.tables (← changeLast (descend change rest) elements))
    | some _ => none

/-- The table of a header. It is new or has only been implied. -/
def openNew (key : String) : Change := fun ms =>
  match ms.get? key with
  | none => some (ms.insert key (.table .header []))
  | some (.table .implied inner) => some (ms.insert key (.table .header inner))
  | some _ => none

/-- One more table of a header that may be repeated. -/
def appendNew (key : String) : Change := fun ms =>
  match ms.get? key with
  | none => some (ms.insert key (.tables [[]]))
  | some (.tables elements) => some (ms.insert key (.tables (elements ++ [[]])))
  | some _ => none

/-- A change at the last name of a header. -/
def atLast (change : String → Change) (header : List String) : Change := fun ms => do
  descend (change (← header.getLast?)) header.dropLast ms

/-- Opens the table of a header. -/
def openTable? : (header : List String) → Change :=
  atLast openNew

/-- Opens one more table of a header that may be repeated. -/
def openElement? : (header : List String) → Change :=
  atLast appendNew

end CollectionArchive.Toml.Members
