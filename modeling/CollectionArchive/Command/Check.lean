import CollectionArchive.Archive.Memory
import CollectionArchive.Command.Error
import CollectionArchive.Files.Basic
import CollectionArchive.Registry.Basic

/-!
# Checking schemata in files

* `Registry.registerFile`: registers the schema in a file.
* `CheckedRegistry.ofFiles`: registers the schemata in several files, each under the name of its
  file, and resolves their links.
-/

namespace CollectionArchive

open CommandError

/-- The schema in a file. -/
def Schema.load (f : Files) (path : String) : Except CommandError Schema :=
  within s!"loading schema {path}" do
    (parse (← orNoFile (f.readText? path))).mapError fun e => of (.schema e)

/-- The name of the collection whose schema is in a file. -/
def collectionName (path : String) : Except CommandError String :=
  (FilePath.stem? path).elim
    (.error ⟨[s!"cannot derive a collection name from {path}"], none⟩) .ok

namespace Registry

variable {σ δ β : Type}

/-- The registry with the schema in a file for a name. -/
def registerFile [Archive σ] (f : Files) (r : Registry σ δ β) (name path : String) :
    Except CommandError (Registry σ δ β) := do
  let schema ← Schema.load f path
  causedBy .registry s!"registering collection {name}" (r.register name schema)

/-- The registry with all links resolved. -/
def checkAll (r : Registry σ δ β) : Except CommandError (CheckedRegistry σ δ β) :=
  causedBy (fun e => .registry (.unresolvedLink e)) "checking schemata" r.check

end Registry

/-- A registry of the schemata in files. -/
def CheckedRegistry.ofFiles (f : Files) (paths : List String) :
    Except CommandError (CheckedRegistry MemoryArchive) := do
  let register (r : Registry MemoryArchive) (path : String) := do
    r.registerFile f (← collectionName path) path
  (← paths.foldlM register (.ofArchive .empty)).checkAll

end CollectionArchive
