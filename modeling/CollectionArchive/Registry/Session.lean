import CollectionArchive.Registry.Basic

/-!
# Sessions

A session is a registry in any of its stages. What the stage does not allow is refused.

* `Session`: the stages.
* `Session.register`, `Session.check`, `Session.finalize`: the operations that change the stage.
* `Session.addNodes`, `Session.assignAll`: the operations that need a checked registry.
-/

namespace CollectionArchive

/-- A registry in any of its stages. -/
inductive Session (σ : Type) (δ : Type := Unit) (β : Type := List Node) where
  | building (r : Registry σ δ β)
  | checked (r : CheckedRegistry σ δ β)
  /-- Everything has been written, or should have been. -/
  | closed (archive : σ)

namespace Session

variable {σ δ β μ : Type}

/-- A session without collections. -/
def ofArchive (archive : σ) : Session σ :=
  building (.ofArchive archive)

def isChecked : Session σ δ β → Bool
  | checked _ => true
  | _ => false

def isClosed : Session σ δ β → Bool
  | closed _ => true
  | _ => false

/-- The archive of a session. -/
def archive : Session σ δ β → σ
  | building r => r.archive
  | checked r => r.archive
  | closed a => a

/-- The session with its archive as someone else has left it. -/
def withArchive (s : Session σ δ β) (a : σ) : Session σ δ β :=
  match s with
  | building r => building (r.withArchive a)
  | checked r => checked { r with toRegistry := r.toRegistry.withArchive a }
  | closed _ => closed a

/-- The registry, unless the session is closed. -/
def registry : Session σ δ β → Except RegistryError (Registry σ δ β)
  | building r => .ok r
  | checked r => .ok r.toRegistry
  | closed _ => .error .alreadyFinalized

/-- The registry, if it is checked. -/
def checkedRegistry : Session σ δ β → Except RegistryError (CheckedRegistry σ δ β)
  | building _ => .error .notReady
  | checked r => .ok r
  | closed _ => .error .alreadyFinalized

/-! ## Changes of the stage -/

/-- Registers a schema. A checked session has to be checked again. -/
def register [Archive σ] (s : Session σ δ β) (name : String) (schema : Schema) :
    Except RegistryError Unit × Session σ δ β :=
  match s with
  | building r =>
    match r.register name schema with
    | .ok r => (.ok (), building r)
    | .error e => (.error e, building r)
  | checked r =>
    match r.register name schema with
    | .ok r => (.ok (), building r)
    | .error e => (.error e, checked r)
  | closed a => (.error .alreadyFinalized, closed a)

/-- Resolves all links. A session that is checked stays so. -/
def check (s : Session σ δ β) : Except RegistryError Unit × Session σ δ β :=
  match s with
  | building r =>
    match r.check with
    | .ok c => (.ok (), checked c)
    | .error e => (.error (.unresolvedLink e), building r)
  | checked r => (.ok (), checked r)
  | closed a => (.error .alreadyFinalized, closed a)

/-- Writes everything and closes the archive. The session is closed, whatever fails. -/
def finalize [Archive σ] [Buffer β] [Serializable μ] (s : Session σ δ β) (metadata : μ) :
    Except RegistryError Summary × Session σ δ β :=
  match s.registry with
  | .error e => (.error e, s)
  | .ok r =>
    let (outcome, a) := r.finalize metadata
    (outcome, closed a)

/-! ## Nodes -/

/-- Adds a node to a collection. -/
def addNode [BufferSource δ β] [Buffer β] (s : Session σ δ β) (collection : String) (n : Node) :
    Except RegistryError Unit × Session σ δ β :=
  match s.checkedRegistry with
  | .error e => (.error e, s)
  | .ok r =>
    let (outcome, r) := r.addNode collection n
    (outcome, checked r)

/-- Adds several nodes to a collection, up to the first that is refused. -/
def addNodes [BufferSource δ β] [Buffer β] (s : Session σ δ β) (collection : String)
    (ns : List Node) : Except RegistryError Unit × Session σ δ β :=
  match s.checkedRegistry with
  | .error e => (.error e, s)
  | .ok r =>
    let (outcome, r) := r.addNodes collection ns
    (outcome, checked r)

/-- The node with a value for a property of a collection. -/
def assignText (s : Session σ δ β) (collection : String) (rejectNull : Bool) (n : Node)
    (property : String) (v : Input) : Except RegistryError Node := do
  (← s.checkedRegistry).assignText collection rejectNull n property v

/-- Several assignments in their order, up to the first that fails. -/
def assignAll (s : Session σ δ β) (collection : String) (rejectNull : Bool) (n : Node)
    (values : List (String × Input)) : Except RegistryError Unit × Node :=
  match s.checkedRegistry with
  | .error e => (.error e, n)
  | .ok r => r.assignAll collection rejectNull n values

/-! ## Questions -/

/-- The schema of a collection, if it is registered. -/
def schema? (s : Session σ δ β) (collection : String) : Except RegistryError (Option Schema) := do
  return (← s.registry).schemata.get? collection

/-- The number of nodes of each collection that has any. -/
def nodeCounts (s : Session σ δ β) : Except RegistryError (Table String Nat) := do
  return (← s.registry).nodeCounts

/-- The collections to which each collection leads. -/
def linkGraph (s : Session σ δ β) : Except RegistryError (Table String (List String)) := do
  return (← s.registry).schemata.linkGraph

/-- An overview of the links and the schemata. -/
def outline (s : Session σ δ β) : Except RegistryError String := do
  return (← s.registry).outline

/-- A summary in one line. -/
def description (s : Session σ δ β) : String :=
  let stage := match s with
    | building r => r.buildingDescription
    | checked r => r.checkedDescription
    | closed _ => "Closed"
  "Session \x7b stage: " ++ stage ++ " \x7d"

end Session

end CollectionArchive
