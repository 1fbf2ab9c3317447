import CollectionArchive.Archive.Pack
import CollectionArchive.Build.Manifest
import CollectionArchive.Build.RecordLine
import CollectionArchive.Command.Check
import CollectionArchive.Text.Blank
import CollectionArchive.Text.Lines

/-!
# Building an archive from a manifest

* `Manifest.load`: the manifest in a file.
* `CheckedRegistry.addRecords`: adds the nodes that the records of a collection describe.
* `Manifest.collect`: the registry of all that a manifest names.
* `Manifest.build`: writes the archive.
-/

namespace CollectionArchive

open CommandError

/-- The record in a line of a file, unless the line is blank. -/
def RecordLine.ofLine? (place : String) (line : Bytes) :
    Except CommandError (Option RecordLine) := do
  let text ← orNoFile (Bytes.text? line)
  if (Text.trim text).isEmpty then return none
  else return some (← causedBy .json place (parse text))

/-- The lines of a file of records, counted from 1. -/
def Files.recordLines (f : Files) (path : String) : Except CommandError (List (Bytes × Nat)) := do
  let found ← within s!"opening records {path}" (orNoFile (f.find? path))
  return (← orNoFile found.content?).lines.zipIdx 1

namespace CheckedRegistry

variable {σ δ β : Type} [BufferSource δ β] [Buffer β]

/-- Adds the node that a record describes. The first assignment that fails is told. -/
def addRecord (r : CheckedRegistry σ δ β) (collection : String) (rejectNull : Bool)
    (line : RecordLine) : Except RegistryError Unit × CheckedRegistry σ δ β :=
  let start := Node.ofTitle line.title line.coverImages
  let values := line.properties.map fun e => (e.1, Input.ofJson e.2)
  match r.assignAll collection rejectNull start values with
  | (.error e, _) => (.error e, r)
  | (.ok (), n) => r.addNode collection n

/-- Adds the node of a line, unless the line is blank. -/
def addLine (collection : String) (rejectNull : Bool) (path : String) (r : CheckedRegistry σ δ β)
    (line : Bytes × Nat) : Except CommandError Unit × CheckedRegistry σ δ β :=
  let place := s!"{path}:{line.2}"
  match RecordLine.ofLine? place line.1 with
  | .error e => (.error e, r)
  | .ok none => (.ok (), r)
  | .ok (some record) =>
    let (outcome, r) := r.addRecord collection rejectNull record
    (causedBy .registry place outcome, r)

/-- Adds the nodes of a collection. -/
def addRecords (f : Files) (rejectNull : Bool) (r : CheckedRegistry σ δ β) (c : CollectionSource) :
    Except CommandError Unit × CheckedRegistry σ δ β :=
  match c.records with
  | none => (.ok (), r)
  | some path =>
    match f.recordLines path with
    | .error e => (.error e, r)
    | .ok lines => Steps.run (addLine c.name rejectNull path) r lines

end CheckedRegistry

namespace Manifest

/-- The manifest that a text holds. -/
def read (text : String) : Except CommandError Manifest :=
  within "invalid build manifest" ((parse? text).elim (.error (of .manifest)) .ok)

/-- The manifest in a file, with its paths seen from there. -/
def load (f : Files) (path : String) : Except CommandError Manifest := do
  let text ← within s!"reading manifest {path}" (orNoFile (f.readText? path))
  let m ← within s!"parsing manifest {path}" (read text)
  return m.rebase ((FilePath.parent? path).getD "")

section

variable {σ δ β : Type} [BufferSource δ β] [Buffer β]

/-- Collects the schemata and records of a manifest in a new registry. All schemata come before all
records. The archive is told as it is left, whatever fails. -/
def collect [Archive σ] (f : Files) (archive : σ) (buffers : δ) (m : Manifest) :
    Except CommandError (CheckedRegistry σ δ β) × σ :=
  let register (r : Registry σ δ β) (c : CollectionSource) := r.registerFile f c.name c.schema
  let (registered, r) := Steps.run (Steps.keeping register) (.new archive buffers) m.collections
  match registered >>= fun () => r.checkAll with
  | .error e => (.error e, r.archive)
  | .ok r =>
    let (added, r) := Steps.run (CheckedRegistry.addRecords f m.rejectNull) r m.collections
    (added.map fun () => r, r.archive)

/-- Writes the archive of a manifest to a file. The directory of the file is made first, and stays
whatever fails later. -/
def build [Codec] (f : Files) (path : String) (buffers : δ) (m : Manifest) :
    Except CommandError Summary × Files :=
  match causedBy (fun e => .registry (.archive e)) s!"creating archive {path}"
    (PackArchive.create f path m.packConfig) with
  | .error e => (.error e, f)
  | .ok a =>
    match m.collect a.files a buffers with
    | (.error e, a) => (.error e, a.files)
    | (.ok r, _) =>
      let (outcome, a) := r.toRegistry.finalize m.metadata.json
      (causedBy .registry "finalizing archive" outcome, a.files)

end

end Manifest

end CollectionArchive
