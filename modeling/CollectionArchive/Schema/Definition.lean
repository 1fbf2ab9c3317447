import CollectionArchive.Json.Reader
import CollectionArchive.Json.Writer

/-!
# Definitions of properties

The declarative form of a property, as schemata hold it.

* `Definition`: the form.
* `Definition.json`: its text, with all fields.
* `Definition.reader`: reads it from JSON.
-/

namespace CollectionArchive

/-- The declarative form of a property. A box names its kind as `type`, a leaf as `propType`. The
children are there if the value of the definition is a list of definitions; any other value counts
for nothing. -/
structure Definition where
  title : String
  ident : Option String
  children : Option (List Definition)
  config : Option Json.Object
  hidden : Option Bool
  type : Option String
  propType : Option String

namespace Definition

open Json (Value)

/-- Something that may be missing, as JSON. -/
def orNull (chars : Option (List Char)) : List Char :=
  chars.getD Value.null.chars

mutual

/-- The text of a definition: all fields in their order, null for what is missing. -/
def json : Definition → List Char
  | ⟨title, ident, children, config, hidden, type, propType⟩ =>
    Json.braced
      [("title", Json.quotedChars title),
        ("ident", orNull (ident.map Json.quotedChars)),
        ("value", jsonChildren children),
        ("config", orNull (config.map fun o => (Value.object o).chars)),
        ("hidden", orNull (hidden.map Json.boolChars)),
        ("type", orNull (type.map Json.quotedChars)),
        ("prop_type", orNull (propType.map Json.quotedChars))]

def jsonChildren : Option (List Definition) → List Char
  | none => Value.null.chars
  | some ds => Json.bracketed (jsonList ds)

def jsonList : List Definition → List (List Char)
  | [] => []
  | d :: ds => json d :: jsonList ds

end

/-! ## Reading -/

/-- The fields of a definition that are read so far. -/
structure Draft where
  title : Option String := none
  ident : Option String := none
  children : Option (List Definition) := none
  config : Option Json.Object := none
  hidden : Option Bool := none
  type : Option String := none
  propType : Option String := none

/-- The definition, which must have a title. -/
def Draft.build? (d : Draft) : Option Definition :=
  d.title.map fun title => ⟨title, d.ident, d.children, d.config, d.hidden, d.type, d.propType⟩

/-- The value of a definition. It has to be JSON of any shape; the list of definitions that it holds
is kept, and anything else counts for nothing. -/
def childrenReader (child : Json.Reader Definition) : Json.Reader (Option (List Definition)) :=
  fun room t =>
    match t with
    | .null => .ok none
    | _ => do
      let _ ← Json.Reader.value room t
      return ((Json.Reader.list child) room t).toOption

/-- The record of a definition, given how its children are read. -/
def record (child : Json.Reader Definition) : Json.Record Draft Definition where
  fields :=
    [⟨"title", fun d room t => return { d with title := some (← Json.Reader.text room t) }⟩,
      ⟨"ident", fun d room t => return { d with ident := ← Json.Reader.text.optional room t }⟩,
      ⟨"value", fun d room t => return { d with children := ← childrenReader child room t }⟩,
      ⟨"config", fun d room t => return { d with config := ← Json.Reader.object.optional room t }⟩,
      ⟨"hidden", fun d room t => return { d with hidden := ← Json.Reader.bool.optional room t }⟩,
      ⟨"type", fun d room t => return { d with type := ← Json.Reader.text.optional room t }⟩,
      ⟨"prop_type", fun d room t =>
        return { d with propType := ← Json.Reader.text.optional room t }⟩]
  start := {}
  build? := Draft.build?

/-- Reads a definition where so many levels of brackets may still be opened. A definition opens one
for itself and one for the list of its children. -/
def readWithin : (levels : Nat) → Json.Reader Definition
  | 0 => (record fun _ _ => .error .malformed).reader
  | levels + 1 => (record (readWithin levels)).reader

/-- Reads a definition. -/
def reader : Json.Reader Definition := fun room t =>
  readWithin room room t

end Definition

end CollectionArchive
