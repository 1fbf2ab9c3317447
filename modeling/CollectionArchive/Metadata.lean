import CollectionArchive.Json.Reader
import CollectionArchive.Json.Writer

/-!
# Metadata of archives

An archive says what it is and where its data comes from. Some members of this are recommended and
have a fixed form; any others are kept as they are.

* `Metadata`, `Attribution`: the recommended members, and the others.
* `Metadata.json`: the text, without what is missing.
* `Metadata.reader`, `Metadata.ofJson?`: reading it from JSON.
-/

namespace CollectionArchive

open Json (Reader Value)

/-- The source of the data of an archive. -/
structure Attribution where
  name : String
  url : Option String := none
  logo : Option String := none
deriving DecidableEq

/-- What an archive says about itself. -/
structure Metadata where
  ident : Option String := none
  /-- The collection that is shown first. -/
  defaultTag : Option String := none
  attribution : Option Attribution := none
  isPublic : Option Bool := none
  others : Json.Object := []

/-- A member that may be missing. -/
def optionalMember {α : Type} (key : String) (f : α → List Char) (x : Option α) :
    List (String × List Char) :=
  x.toList.map fun a => (key, f a)

namespace Attribution

/-- The text of an attribution. -/
def chars (a : Attribution) : List Char :=
  Json.braced
    (("name", Json.quotedChars a.name) ::
      (optionalMember "url" Json.quotedChars a.url ++
        optionalMember "logo" Json.quotedChars a.logo))

/-- The members of an attribution that are read so far. -/
structure Draft where
  name : Option String := none
  url : Option String := none
  logo : Option String := none

/-- The record of an attribution, which must have a name. -/
def record : Json.Record Draft Attribution where
  fields :=
    [⟨"name", fun d room t => return { d with name := some (← Reader.text room t) }⟩,
      ⟨"url", fun d room t => return { d with url := ← Reader.text.optional room t }⟩,
      ⟨"logo", fun d room t => return { d with logo := ← Reader.text.optional room t }⟩]
  start := {}
  build? := fun d => d.name.map fun name => ⟨name, d.url, d.logo⟩

end Attribution

namespace Metadata

/-- The text of metadata: the recommended members that are there, and then the others. -/
def chars (m : Metadata) : List Char :=
  Json.braced
    (optionalMember "kubun_ident" Json.quotedChars m.ident ++
      optionalMember "default_tag" Json.quotedChars m.defaultTag ++
      optionalMember "attribution" Attribution.chars m.attribution ++
      optionalMember "public" Json.boolChars m.isPublic ++ Value.memberChars m.others)

/-- The text of metadata. -/
def json (m : Metadata) : String :=
  String.ofList m.chars

/-- Equality up to the sign of zeros in members that are not recommended. -/
def equal (a b : Metadata) : Bool :=
  a.ident == b.ident && a.defaultTag == b.defaultTag && a.attribution == b.attribution &&
    a.isPublic == b.isPublic && Json.Object.equal a.others b.others

/-! ## Reading -/

/-- The record of the recommended members. -/
def record : Json.Record Metadata Metadata where
  fields :=
    [⟨"kubun_ident", fun m room t => return { m with ident := ← Reader.text.optional room t }⟩,
      ⟨"default_tag", fun m room t =>
        return { m with defaultTag := ← Reader.text.optional room t }⟩,
      ⟨"attribution", fun m room t =>
        return { m with attribution := ← Reader.optional Attribution.record.reader room t }⟩,
      ⟨"public", fun m room t => return { m with isPublic := ← Reader.bool.optional room t }⟩]
  start := {}
  build? := some

/-- Keeps a member that is not recommended. -/
def keep (key : String) (m : Metadata) : Reader Metadata := fun room t =>
  return { m with others := m.others.insert key (← Reader.value room t) }

/-- Reads metadata, which is an object. -/
def reader : Reader Metadata :=
  record.openReader keep

/-- A text, or null in its place. -/
def textOrNull? : Option Value → Option (Option String)
  | none | some .null => some none
  | some v => some <$> v.text?

/-- A truth value, or null in its place. -/
def boolOrNull? : Option Value → Option (Option Bool)
  | none | some .null => some none
  | some (.bool b) => some (some b)
  | some _ => none

/-- The attribution that a value is: an object, or an array of the members in their order. -/
def attribution? : Value → Option Attribution
  | .object o => do
    return ⟨← Table.get? o "name" >>= Value.text?, ← textOrNull? (Table.get? o "url"),
      ← textOrNull? (Table.get? o "logo")⟩
  | .array (name :: rest) => do
    if 2 < rest.length then none
    else return ⟨← name.text?, ← textOrNull? rest[0]?, ← textOrNull? rest[1]?⟩
  | _ => none

/-- An attribution, or null in its place. -/
def attributionOrNull? : Option Value → Option (Option Attribution)
  | none | some .null => some none
  | some v => some <$> attribution? v

/-- The names of the recommended members. -/
def recommended : List String :=
  record.fields.map fun f => f.name

/-- The metadata that a value is. -/
def ofJson? (v : Value) : Option Metadata := do
  let o ← v.object?
  let ident ← textOrNull? (o.get? "kubun_ident")
  let defaultTag ← textOrNull? (o.get? "default_tag")
  let attribution ← attributionOrNull? (o.get? "attribution")
  let isPublic ← boolOrNull? (o.get? "public")
  return ⟨ident, defaultTag, attribution, isPublic, o.filter fun e => !recommended.contains e.1⟩

/-- Reads metadata from its text. -/
def parse (text : String) : Except Json.Fault Metadata :=
  reader.parse text

end Metadata

end CollectionArchive
