import CollectionArchive.Files.Path
import CollectionArchive.Metadata
import CollectionArchive.Pack.Config
import CollectionArchive.Toml.Document

/-!
# Manifests

A manifest tells where the schemata and records of collections are, and where the archive of them
is to be written.

* `Manifest`, `CollectionSource`: the type.
* `Manifest.parse?`: reads one from TOML.
* `Manifest.rebase`: its paths, seen from where the manifest is.
-/

namespace CollectionArchive

/-- Where a collection comes from. -/
structure CollectionSource where
  name : String
  schema : String
  /-- The file with a record on each line. -/
  records : Option String
deriving DecidableEq

/-- What an archive is built from. -/
structure Manifest where
  archive : String
  compressionLevel : Option Int
  rejectNull : Bool
  metadata : Metadata
  collections : List CollectionSource

/-! ## Reading -/

/-- Something that may be missing, but is of the right kind if it is there. -/
def ifPresent {α β : Type} (read : α → Option β) : Option α → Option (Option β)
  | none => some none
  | some a => some <$> read a

/-- The attribution that a TOML value is: a table, or an array of the members in their order. -/
def Attribution.ofToml? : Toml.Value → Option Attribution
  | .table _ ms => do
    return ⟨← Table.get? ms "name" >>= Toml.Value.text?,
      ← ifPresent Toml.Value.text? (Table.get? ms "url"),
      ← ifPresent Toml.Value.text? (Table.get? ms "logo")⟩
  | .array (name :: rest) => do
    return ⟨← name.text?, ← ifPresent Toml.Value.text? rest[0]?,
      ← ifPresent Toml.Value.text? rest[1]?⟩
  | _ => none

/-- The metadata that a TOML value is. A date or time is a table of one member. -/
def Metadata.ofToml? : Toml.Value → Option Metadata
  | .table _ ms => do
    let ident ← ifPresent Toml.Value.text? (Table.get? ms "kubun_ident")
    let defaultTag ← ifPresent Toml.Value.text? (Table.get? ms "default_tag")
    let attribution ← ifPresent Attribution.ofToml? (Table.get? ms "attribution")
    let isPublic ← ifPresent Toml.Value.boolean? (Table.get? ms "public")
    let others := ms.filter fun e => !Metadata.recommended.contains e.1
    return ⟨ident, defaultTag, attribution, isPublic, Toml.Value.membersJson others⟩
  | .moment s => some { others := [(Toml.Value.momentKey, .text s)] }
  | _ => none

namespace CollectionSource

/-- The source that the members of a table describe. -/
def ofMembers? (ms : Toml.Members) : Option CollectionSource := do
  if !ms.keys.all ["name", "schema", "records"].contains then none
  else
    return ⟨← ms.get? "name" >>= Toml.Value.text?, ← ms.get? "schema" >>= Toml.Value.text?,
      ← ifPresent Toml.Value.text? (ms.get? "records")⟩

/-- The source that a TOML value is: a table, or an array of the members in their order. -/
def ofToml? : Toml.Value → Option CollectionSource
  | .table _ ms => ofMembers? ms
  | .array (name :: schema :: rest) => do
    return ⟨← name.text?, ← schema.text?, ← ifPresent Toml.Value.text? rest.head?⟩
  | _ => none

/-- The sources that a TOML value lists. -/
def listOfToml? : Toml.Value → Option (List CollectionSource)
  | .tables elements => elements.mapM ofMembers?
  | .array items => items.mapM ofToml?
  | _ => none

end CollectionSource

namespace Manifest

/-- The level of compression that a TOML value is. -/
def level? : Toml.Value → Option Int
  | .integer i => if -0x80000000 ≤ i && i < 0x80000000 then some i else none
  | _ => none

/-- The names of the members of a manifest. -/
def members : List String :=
  ["archive", "compression_level", "reject_null", "meta", "collection"]

/-- The manifest that a TOML table is. It has no other members. -/
def ofToml? (ms : Toml.Members) : Option Manifest := do
  if !ms.keys.all members.contains then none
  else
    let archive ← ms.get? "archive" >>= Toml.Value.text?
    let compressionLevel ← ifPresent level? (ms.get? "compression_level")
    let rejectNull ← ifPresent Toml.Value.boolean? (ms.get? "reject_null")
    let metadata ← ifPresent Metadata.ofToml? (ms.get? "meta")
    let collections ← ifPresent CollectionSource.listOfToml? (ms.get? "collection")
    return ⟨archive, compressionLevel, rejectNull.getD false, metadata.getD {}, collections.getD []⟩

/-- Reads a manifest from its text. -/
def parse? (text : String) : Option Manifest :=
  Toml.parse? text >>= ofToml?

/-- How the archive is written. -/
def packConfig (m : Manifest) : PackConfig :=
  m.compressionLevel.elim .standard .mk

/-- The manifest with its paths seen from a directory. -/
def rebase (base : String) (m : Manifest) : Manifest :=
  { m with
    archive := FilePath.join base m.archive
    collections := m.collections.map fun c =>
      { c with
        schema := FilePath.join base c.schema
        records := c.records.map (FilePath.join base) } }

end Manifest

end CollectionArchive
