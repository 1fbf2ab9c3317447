import CollectionArchive.Pack.Path

/-!
# Entries

* `Entry`: data under a path.
* `Entry.put`: adds an entry to others, or replaces the data of one of them in its place.
-/

namespace CollectionArchive

/-- Data under a path. -/
structure Entry where
  path : String
  data : Bytes
deriving DecidableEq

namespace Entry

/-- The data under a path. -/
def get? (entries : List Entry) (path : String) : Option Bytes :=
  (entries.find? fun e => e.path == path).map data

/-- The paths in the order of the entries. -/
def paths (entries : List Entry) : List String :=
  entries.map path

/-- The entries with data under a path: in the place of what was there, or at the end. -/
def insert (entries : List Entry) (path : String) (data : Bytes) : List Entry :=
  match entries with
  | [] => [⟨path, data⟩]
  | e :: rest => if e.path = path then ⟨path, data⟩ :: rest else e :: insert rest path data

/-- The entries with data under a path, which has to be valid. -/
def put (entries : List Entry) (path : String) (data : Bytes) : Except PackError (List Entry) := do
  checkPath path
  return insert entries path data

end Entry

end CollectionArchive
