import CollectionArchive.Archive.Pack
import CollectionArchive.Command.Error
import CollectionArchive.Command.Report
import CollectionArchive.Json.Bytes
import CollectionArchive.Text.Lines

/-!
# Looking into an archive

* `Inventory.ofFile`: what the pack in a file holds.
-/

namespace CollectionArchive

open CommandError

namespace Inventory

/-- The number of nodes that the data under a path holds, if it holds nodes. -/
def nodeCount? (path : String) (data : Bytes) : Option Nat :=
  if path.startsWith "data/" then some (data.pieces.countP fun p => !p.isEmpty) else none

variable [Codec]

/-- The path of an entry, its size, and the number of its nodes if it holds nodes. -/
def entry (e : StoredEntry) : Except PackError (String × Nat × Option Nat) := do
  let data ← Pack.dataOf e
  return (e.path, data.length, nodeCount? e.path data)

/-- The metadata of a pack; null if there is none. -/
def metadataOf (p : Pack) : Except CommandError Json.Value := do
  match ← (p.read metadataPath).mapError fun e => of (.pack e) with
  | none => return .null
  | some data => causedBy .json "parsing meta.json" (Json.parseBytes data)

/-- What the pack in a file holds. -/
def ofFile (f : Files) (path : String) : Except CommandError Inventory := do
  let p ← causedBy .pack s!"opening archive {path}" (PackArchive.readPack f path)
  let entries ← (p.entries.mapM entry).mapError fun e => of (.pack e)
  return ⟨p.checksum, entries, ← metadataOf p⟩

end Inventory

end CollectionArchive
