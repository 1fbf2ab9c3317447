import CollectionArchive.Archive.Basic
import CollectionArchive.Registry.Assignment
import CollectionArchive.Registry.Staging
import CollectionArchive.Steps
import CollectionArchive.Text.Padding

/-!
# Registries

A registry takes the schemata of collections, and then their nodes. Schemata are written to the
archive right away, nodes wait until everything is finalized.

* `Registry`: the state while schemata are registered; `Registry.register` adds one.
* `CheckedRegistry`: the state after `Registry.check`, when all links are resolved and nodes are
  taken. Registering one more schema leads back.
* `CheckedRegistry.addNode`, `CheckedRegistry.addNodes`: nodes are staged and counted.
* `Registry.finalize`: writes the nodes and the metadata, and closes the archive.
-/

namespace CollectionArchive

/-- The schemata of collections, the nodes that wait for each, and the archive. Unless it is said
otherwise, nodes wait in memory. -/
structure Registry (σ : Type) (δ : Type := Unit) (β : Type := List Node) where
  schemata : Schemata
  /-- The nodes of each collection that has any, in the order in which they were added. -/
  staged : Table String β
  /-- The number of nodes of each collection that has any. -/
  nodeCounts : Table String Nat
  /-- Where buffers for nodes are made. -/
  buffers : δ
  archive : σ
  schemata_ascending : Table.Ascending schemata
  staged_ascending : Table.Ascending staged
  nodeCounts_ascending : Table.Ascending nodeCounts

/-- A registry whose links are resolved. -/
structure CheckedRegistry (σ : Type) (δ : Type := Unit) (β : Type := List Node) extends
    Registry σ δ β where
  /-- The kinds to which the links resolve. -/
  kinds : LinkKinds

/-- What a finalized registry has written. -/
structure Summary where
  /-- The number of nodes of each collection that has any. -/
  nodeCounts : Table String Nat
  /-- The paths of all entries, in ascending order. -/
  entries : List String
deriving DecidableEq

/-- The number of all nodes. -/
def Summary.total (s : Summary) : Nat :=
  s.nodeCounts.foldl (fun n e => n + e.2) 0

/-- The path of the schema of a collection. -/
def schemaPath (collection : String) : String :=
  "schemata/" ++ collection ++ ".json"

/-- The path of the nodes of a collection. -/
def dataPath (collection : String) : String :=
  "data/" ++ collection ++ ".json"

/-- The path of the metadata. -/
def metadataPath : String :=
  "meta.json"

/-- What can be written as JSON. That can fail, and then it is told why. -/
class Serializable (μ : Type) where
  serialize : μ → Except String Bytes

/-- A text that is JSON is written as it is. -/
instance : Serializable String where
  serialize text := .ok (Bytes.ofText text)

namespace Registry

variable {σ δ β μ : Type}

/-- A registry without collections. -/
def new (archive : σ) (buffers : δ) : Registry σ δ β :=
  ⟨[], [], [], buffers, archive, .nil, .nil, .nil⟩

/-- A registry without collections, whose nodes wait in memory. -/
def ofArchive (archive : σ) : Registry σ :=
  new archive ()

/-- The number of nodes of a collection. -/
def nodeCount (r : Registry σ δ β) (collection : String) : Nat :=
  (r.nodeCounts.get? collection).getD 0

/-- The registry with another archive. -/
def withArchive (r : Registry σ δ β) (archive : σ) : Registry σ δ β :=
  { r with archive }

/-! ## Registration -/

/-- The registry with a schema for a name. The name must be free, or have an equal schema. -/
def register [Archive σ] (r : Registry σ δ β) (name : String) (schema : Schema) :
    Except RegistryError (Registry σ δ β) :=
  if (r.schemata.get? name).any fun known => !known.equal schema then
    .error (.duplicateCollection name)
  else do
    let archive ← (Archive.write r.archive (schemaPath name) (Bytes.ofText schema.json)).mapError
      .archive
    return { r with
      schemata := r.schemata.insert name schema
      archive
      schemata_ascending := Table.ascending_insert r.schemata_ascending name schema }

/-- The registry with all links resolved. -/
def check (r : Registry σ δ β) : Except UnresolvedLink (CheckedRegistry σ δ β) := do
  return { r with kinds := ← LinkKinds.ofSchemata r.schemata }

/-! ## Finalization -/

/-- Writes data under paths in their order, each also if one before it failed. Where the data could
not be made, nothing is written and this is the failure. The first failure is kept. -/
def writeAll [Archive σ] :
    σ → List (String × Except RegistryError Bytes) → Option RegistryError × σ
  | a, [] => (none, a)
  | a, (path, data) :: rest =>
    match data >>= fun data => (Archive.write a path data).mapError .archive with
    | .ok a => writeAll a rest
    | .error e => ((some e), (writeAll a rest).2)

/-- What is written at the end: the nodes of each collection, and the metadata. -/
def lastWrites [Buffer β] [Serializable μ] (r : Registry σ δ β) (metadata : μ) :
    List (String × Except RegistryError Bytes) :=
  (r.staged.map fun e => (dataPath e.1, (Buffer.content e.2).mapError .io)) ++
    [(metadataPath, (Serializable.serialize metadata).mapError .serialization)]

/-- Writes what is left to write and closes the archive, whatever fails. The first failure is
told. -/
def writeOut [Archive σ] [Buffer β] [Serializable μ] (r : Registry σ δ β) (metadata : μ) :
    Except RegistryError Unit × σ :=
  let (failure?, archive) := writeAll r.archive (r.lastWrites metadata)
  let (closed, archive) := Archive.close archive
  (failure?.elim (closed.mapError .archive) .error, archive)

/-- Writes what is left to write, closes the archive, and tells what is in it. -/
def finalize [Archive σ] [Buffer β] [Serializable μ] (r : Registry σ δ β) (metadata : μ) :
    Except RegistryError Summary × σ :=
  let (outcome, archive) := r.writeOut metadata
  let summary : Except RegistryError Summary := do
    outcome
    return ⟨r.nodeCounts, ← (Archive.list archive "**").mapError .archive⟩
  (summary, archive)

/-! ## Texts -/

/-- The lines of the collections that have links. -/
def linkLines (graph : Table String (List String)) : List String :=
  let names := graph.flatMap fun e => e.1 :: e.2
  let width := (names.map String.utf8ByteSize).foldl max 0 + 5
  graph.map fun e => Text.padEnd width e.1 ++ " -> " ++ ", ".intercalate e.2 ++ "\n"

/-- The outline of a collection under its name. -/
def schemaSection (name : String) (schema : Schema) : String :=
  "\n" ++ name ++ "\n" ++ String.ofList (List.replicate 25 '-') ++ "\n" ++ schema.outline

/-- An overview of the links and the schemata. -/
def outline (r : Registry σ δ β) : String :=
  "Links:\n" ++ String.join (linkLines r.schemata.linkGraph) ++ "\nSchemata:\n" ++
    String.join (r.schemata.map fun e => schemaSection e.1 e.2)

/-- A summary in one line. -/
def description (stage : String) (r : Registry σ δ β) : String :=
  let names := r.schemata.keys.map Text.quoted
  let counts := r.nodeCounts.map fun e => Text.quoted e.1 ++ ": " ++ toString e.2
  "Confector \x7b stage: " ++ Text.quoted stage ++ ", collections: [" ++ ", ".intercalate names ++
    "], node_counts: \x7b" ++ ", ".intercalate counts ++ "\x7d \x7d"

/-- A summary of a registry that is not checked. -/
def buildingDescription (r : Registry σ δ β) : String :=
  r.description "building"

end Registry

namespace CheckedRegistry

variable {σ δ β : Type}

/-- The registry with one more schema. It has to be checked again. -/
def register [Archive σ] (r : CheckedRegistry σ δ β) (name : String) (schema : Schema) :
    Except RegistryError (Registry σ δ β) :=
  r.toRegistry.register name schema

/-- The buffer of a collection. It is made with the first node. -/
def buffer [BufferSource δ β] (r : CheckedRegistry σ δ β) (collection : String) :
    Except String β × δ :=
  match r.staged.get? collection with
  | some b => (.ok b, r.buffers)
  | none => BufferSource.create r.buffers

/-- The registry with another buffer for a collection. -/
def withBuffer (r : CheckedRegistry σ δ β) (collection : String) (b : β) : CheckedRegistry σ δ β :=
  { r with
    staged := r.staged.insert collection b
    staged_ascending := Table.ascending_insert r.staged_ascending collection b }

/-- The registry with one more node counted. -/
def count (r : CheckedRegistry σ δ β) (collection : String) : CheckedRegistry σ δ β :=
  { r with
    nodeCounts := r.nodeCounts.insert collection (r.nodeCount collection + 1)
    nodeCounts_ascending :=
      Table.ascending_insert r.nodeCounts_ascending collection (r.nodeCount collection + 1) }

section

variable [BufferSource δ β] [Buffer β]

/-- Adds a node to a collection. A node that is not staged is not counted. -/
def addNode (r : CheckedRegistry σ δ β) (collection : String) (n : Node) :
    Except RegistryError Unit × CheckedRegistry σ δ β :=
  if r.schemata.has collection then
    match r.buffer collection with
    | (.error e, buffers) => (.error (.io e), { r with buffers })
    | (.ok b, buffers) =>
      match Buffer.append b n with
      | (.error e, b) => (.error e, { r with buffers }.withBuffer collection b)
      | (.ok (), b) => (.ok (), ({ r with buffers }.withBuffer collection b).count collection)
  else (.error (.unknownCollection collection), r)

/-- Several nodes in their order, up to the first that is refused. Those before it are added. -/
def addNodes (collection : String) :
    CheckedRegistry σ δ β → List Node → Except RegistryError Unit × CheckedRegistry σ δ β :=
  Steps.run fun r n => r.addNode collection n

end

/-- The node with a value for a property of a collection. -/
def assign (r : CheckedRegistry σ δ β) (collection : String) (rejectNull : Bool) (property : Identifier)
    (n : Node) (v : Input) : Except RegistryError Node :=
  Assignment.assign r.schemata r.kinds collection rejectNull property n v

/-- The node with a value for a property whose identifier is written out. -/
def assignText (r : CheckedRegistry σ δ β) (collection : String) (rejectNull : Bool) (n : Node)
    (property : String) (v : Input) : Except RegistryError Node :=
  Assignment.assignText r.schemata r.kinds collection rejectNull n property v

/-- Several assignments in their order, up to the first that fails. -/
def assignAll (r : CheckedRegistry σ δ β) (collection : String) (rejectNull : Bool) (n : Node)
    (values : List (String × Input)) : Except RegistryError Unit × Node :=
  Assignment.assignAll r.schemata r.kinds collection rejectNull n values

/-- A summary in one line. -/
def checkedDescription (r : CheckedRegistry σ δ β) : String :=
  r.description "checked"

end CheckedRegistry

end CollectionArchive
