import CollectionArchive.Node
import CollectionArchive.Registry.Error
import CollectionArchive.Text.Lines

/-!
# Staging

The nodes of a collection wait in a buffer until everything is finalized, each on a line of its own.
Buffers are temporary files. So to make one, to add a node to it and to take back what is in it can
all fail, and then the system tells why.

* `nodeLines`: the texts of nodes, a line each.
* `BufferSource`, `Buffer`: what a registry needs in order to stage nodes.
* `TemporaryFile`, `StagingFile`: buffers that are temporary files.
* Nodes that wait in memory are a buffer of which nothing fails.
-/

namespace CollectionArchive

/-- The texts of nodes, a line each. -/
def nodeLines (nodes : List Node) : Bytes :=
  nodes.flatMap fun n => Bytes.ofText n.json ++ [Bytes.lineFeed]

/-- Where buffers are made. -/
class BufferSource (δ : Type) (β : outParam Type) where
  /-- A buffer that is empty. -/
  create : δ → Except String β × δ

/-- Where the nodes of a collection wait. -/
class Buffer (β : Type) where
  /-- Adds the line of a node. Some of it may be left behind where this fails. -/
  append : β → Node → Except RegistryError Unit × β
  /-- The lines of all nodes. -/
  content : β → Except String Bytes

/-! ## Nodes in memory -/

instance : BufferSource Unit (List Node) where
  create source := (.ok [], source)

instance : Buffer (List Node) where
  append ns n := (.ok (), ns ++ [n])
  content ns := .ok (nodeLines ns)

/-! ## Temporary files -/

/-- A file that is written from its start on, and then read as a whole. -/
class TemporaryFile (φ : Type) where
  /-- Writes at the end. Some of it may be written where this fails. -/
  write : φ → Bytes → Except String Unit × φ
  /-- All that is written. -/
  read : φ → Except String Bytes

/-- A buffer that is a temporary file. -/
structure StagingFile (φ : Type) where
  file : φ

namespace StagingFile

variable {φ : Type} [TemporaryFile φ]

/-- Writes the text of a node, and then the end of the line. -/
def append (b : StagingFile φ) (n : Node) : Except RegistryError Unit × StagingFile φ :=
  match TemporaryFile.write b.file (Bytes.ofText n.json) with
  | (.error e, file) => (.error (.serialization e), ⟨file⟩)
  | (.ok (), file) =>
    let (outcome, file) := TemporaryFile.write file [Bytes.lineFeed]
    (outcome.mapError .io, ⟨file⟩)

instance : Buffer (StagingFile φ) where
  append := append
  content b := TemporaryFile.read b.file

end StagingFile

end CollectionArchive
