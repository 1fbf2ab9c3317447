import CollectionArchive.Schema.Leaves
import CollectionArchive.Schema.Outline

/-!
# Schemata

The schema of a collection has two trees: the full one, and a compact one for previews. Properties
are looked up among the leaves of the full one.

* `Schema`: the two trees, and the look-up table of the full one.
* `Schema.ofTrees`, `Schema.ofDefinition`, `Schema.parse`: the ways to build one. The roots are
  boxes and no two leaves of the full tree share an identifier.
* `Schema.find`: the leaf of an identifier.
* `Schema.json`: the text, from which the schema can be read back.
-/

namespace CollectionArchive

/-- The declarative form of a schema. -/
structure SchemaDefinition where
  main : Definition
  mini : Definition

/-- Leaves under their identifiers, the one added last at the front. -/
abbrev LeafTable := List (Identifier × Property)

namespace LeafTable

/-- The leaf of an identifier. -/
def get? (t : LeafTable) (i : Identifier) : Option Property :=
  (t.find? fun e => e.1 == i).map Prod.snd

/-- The table with leaves added in their order. A leaf whose identifier is there already is
refused. -/
def addAll : LeafTable → List Property → Except SchemaError LeafTable
  | t, [] => .ok t
  | t, p :: ps =>
    match p.ident? with
    | none => addAll t ps
    | some i =>
      match get? t i with
      | some earlier => .error (.duplicateIdentifier i earlier.title p.title)
      | none => addAll ((i, p) :: t) ps

end LeafTable

/-- The schema of a collection. -/
structure Schema where
  main : Property
  mini : Property
  /-- The leaves of the full tree. -/
  table : LeafTable
  main_isBox : main.isBox = true
  mini_isBox : mini.isBox = true
  addAll_main : LeafTable.addAll [] main.walk.toList = .ok table

namespace Schema

/-- The error of a root that is a leaf. -/
def rootError (root : Property) : SchemaError :=
  .invalidDefinition root.title .rootNotBox

/-- The schema of two trees. -/
def ofTrees (main mini : Property) : Except SchemaError Schema :=
  if hmain : main.isBox = true then
    if hmini : mini.isBox = true then
      match h : LeafTable.addAll [] main.walk.toList with
      | .ok table => .ok ⟨main, mini, table, hmain, hmini, h⟩
      | .error e => .error e
    else .error (rootError mini)
  else .error (rootError main)

/-- The schema of a declarative form. -/
def ofDefinition (d : SchemaDefinition) : Except SchemaError Schema := do
  let main ← Property.ofDefinition d.main
  let mini ← Property.ofDefinition d.mini
  ofTrees main mini

/-- The schema of two empty boxes. -/
def empty : Schema :=
  ⟨.boxed "" [], .boxed "" [], [], rfl, rfl, by rw [Leaves.toList_walk]; rfl⟩

/-- Two schemata are equal if their trees are; their tables follow from the trees. -/
def equal (a b : Schema) : Bool :=
  a.main.equal b.main && a.mini.equal b.mini

/-! ## Look-up -/

/-- Whether a leaf of the full tree has the identifier. -/
def contains (s : Schema) (i : Identifier) : Bool :=
  (s.table.get? i).isSome

/-- The leaf of an identifier. -/
def find (s : Schema) (i : Identifier) : Except SchemaError Property :=
  (s.table.get? i).elim (.error (.propertyNotFound i)) .ok

/-- The leaf of an identifier in its written form. -/
def findText (s : Schema) (text : String) : Except SchemaError Property := do
  s.find (← (Identifier.parse text).mapError SchemaError.identifier)

/-- The number of leaves of the full tree. -/
def size (s : Schema) : Nat :=
  s.table.length

/-! ## Text -/

/-- The declarative form. -/
def definition (s : Schema) : SchemaDefinition :=
  ⟨s.main.definition, s.mini.definition⟩

/-- The text of a declarative form. -/
def definitionChars (d : SchemaDefinition) : List Char :=
  Json.braced [("main", d.main.json), ("mini", d.mini.json)]

/-- The text of a schema. -/
def json (s : Schema) : String :=
  String.ofList (definitionChars s.definition)

/-- The record of a schema. -/
def record : Json.Record (Option Definition × Option Definition) SchemaDefinition where
  fields :=
    [⟨"main", fun s room t => return (some (← Definition.reader room t), s.2)⟩,
      ⟨"mini", fun s room t => return (s.1, some (← Definition.reader room t))⟩]
  start := (none, none)
  build? := fun s => return ⟨← s.1, ← s.2⟩

/-- Reads a schema from its text. -/
def parse (text : String) : Except SchemaError Schema := do
  ofDefinition (← (record.reader.parse text).mapError SchemaError.json)

/-- The outline of the full tree. -/
def outline (s : Schema) : String :=
  s.main.outline

end Schema

end CollectionArchive
