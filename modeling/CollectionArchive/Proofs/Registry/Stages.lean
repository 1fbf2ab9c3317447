import CollectionArchive.Proofs.Registry.Calls
import CollectionArchive.Proofs.Registry.Staging

/-!
# Sessions follow registries

A registry is used up by what leads it to another stage, and has only the operations of its stage. A
session is kept in one place: what leads to another stage takes the registry out, leaves a mark that
it is out, and has to put one back, however it ends.

* `Operation`, `Response`: all operations, and what they give back.
* `Staged.perform?`, `Held.perform`: what a registry does, and what is made of an operation that its
  stage does not have; `Session.perform`: what a session does.
* `Slot`, `Slot.perform`: a session that takes its registry out and puts it back.
* `Held.perform_toSession`, `Slot.perform_ofSession`: one operation does the same to all three.
* `Operation.all_map`: so do several.
* `Session.KeepsStages`: how a session answers in each stage.
* **`session_follows_registry`**: any sequence of operations on a session.
-/

namespace CollectionArchive

variable {σ : Type}

/-! ## Operations -/

/-- An operation on a registry or a session. -/
inductive Operation where
  | call (c : Call)
  | schema (collection : String)
  | nodeCounts
  | linkGraph
  | outline
  | finalize (metadata : String)

/-- What an operation yields that succeeds. -/
inductive Reply where
  | done
  | schema (found : Option Schema)
  | nodeCounts (counts : Table String Nat)
  | linkGraph (graph : Table String (List String))
  | outline (text : String)
  | summary (s : Summary)

/-- How an operation ends, and how it leaves the node of the caller, if it has one. -/
structure Response where
  answer : Except RegistryError Reply
  node : Option Node

/-- The node of the caller to which a call assigns. -/
def Call.node? : Call → Option Node
  | assign _ _ n _ _ => some n
  | assignAll _ _ n _ => some n
  | _ => none

namespace Operation

/-- The node of the caller to which an operation assigns. -/
def node? : Operation → Option Node
  | call c => c.node?
  | _ => none

/-- Whether an operation adds nodes or assigns to them. -/
def isOnNodes : Operation → Bool
  | call (.addNode _ _) | call (.addNodes _ _) => true
  | call (.assign ..) | call (.assignAll ..) => true
  | _ => false

def isFinalize : Operation → Bool
  | finalize _ => true
  | _ => false

/-- Several operations in their order. -/
def all {τ : Type} (step : τ → Operation → Response × τ) : τ → List Operation → List Response × τ
  | t, [] => ([], t)
  | t, op :: ops =>
    let (response, t) := step t op
    let (responses, t) := all step t ops
    (response :: responses, t)

/-- **What one operation does alike, several do.** -/
theorem all_map {τ τ' : Type} {step : τ → Operation → Response × τ}
    {step' : τ' → Operation → Response × τ'} (f : τ → τ')
    (h : ∀ t op, step' (f t) op = ((step t op).1, f (step t op).2)) (t : τ) (ops : List Operation) :
    all step' (f t) ops = ((all step t ops).1, f (all step t ops).2) := by
  induction ops generalizing t with
  | nil => rfl
  | cons op ops ih => simp only [all, h, ih]

end Operation

/-- What an operation gives back that is refused. -/
def Response.refusal (op : Operation) (e : RegistryError) : Response :=
  ⟨.error e, op.node?⟩

/-! ## Registries -/

/-- How a call leaves the node of the caller. -/
def CheckedRegistry.nodeAfter (r : CheckedRegistry σ) : Call → Option Node
  | .assign collection rejectNull n property v =>
    some ((r.assignText collection rejectNull n property v).toOption.getD n)
  | .assignAll collection rejectNull n values => some (r.assignAll collection rejectNull n values).2
  | _ => none

namespace Staged

/-- The registry without its stage. -/
def registry : Staged σ → Registry σ
  | building r => r
  | checked r => r.toRegistry

/-- How a call leaves the node of the caller. -/
def nodeAfter : Staged σ → Call → Option Node
  | building _, c => c.node?
  | checked r, c => r.nodeAfter c

end Staged

/-- What is left of a registry: the registry in its stage or, when it is finalized, its archive. -/
inductive Held (σ : Type) where
  | staged (s : Staged σ)
  | gone (archive : σ)

/-- The session with the same content. -/
def Held.toSession : Held σ → Session σ
  | staged s => s.toSession
  | gone a => .closed a

/-- An operation on a registry, if its stage has it. -/
def Staged.perform? [Archive σ] (s : Staged σ) : Operation → Option (Response × Held σ)
  | .call c => (s.call? c).map fun (answer, next) =>
    (⟨answer.map fun _ => .done, s.nodeAfter c⟩, .staged next)
  | .schema collection =>
    some (⟨.ok (.schema (s.registry.schemata.get? collection)), none⟩, .staged s)
  | .nodeCounts => some (⟨.ok (.nodeCounts s.registry.nodeCounts), none⟩, .staged s)
  | .linkGraph => some (⟨.ok (.linkGraph s.registry.schemata.linkGraph), none⟩, .staged s)
  | .outline => some (⟨.ok (.outline s.registry.outline), none⟩, .staged s)
  | .finalize metadata =>
    let (outcome, a) := s.registry.finalize metadata
    some (⟨outcome.map .summary, none⟩, .gone a)

/-- What is made of an operation that the stage does not have. A registry that is not checked has no
operations on nodes; one that is checked has no check, and needs none. -/
def Staged.missing (s : Staged σ) (op : Operation) : Response :=
  match s with
  | building _ => .refusal op .notReady
  | checked _ => ⟨.ok .done, op.node?⟩

/-- An operation on what is left of a registry. -/
def Held.perform [Archive σ] (h : Held σ) (op : Operation) : Response × Held σ :=
  match h with
  | staged s => (s.perform? op).getD (s.missing op, staged s)
  | gone a => (.refusal op .alreadyFinalized, gone a)

/-! ## Sessions -/

namespace Session

/-- How a call leaves the node of the caller. -/
def nodeAfter (s : Session σ) : Call → Option Node
  | .assign collection rejectNull n property v =>
    some ((s.assignText collection rejectNull n property v).toOption.getD n)
  | .assignAll collection rejectNull n values => some (s.assignAll collection rejectNull n values).2
  | _ => none

/-- An operation on a session. -/
def perform [Archive σ] (s : Session σ) : Operation → Response × Session σ
  | .call c => (⟨(s.call c).1.map fun _ => .done, s.nodeAfter c⟩, (s.call c).2)
  | .schema collection => (⟨(s.schema? collection).map .schema, none⟩, s)
  | .nodeCounts => (⟨s.nodeCounts.map .nodeCounts, none⟩, s)
  | .linkGraph => (⟨s.linkGraph.map .linkGraph, none⟩, s)
  | .outline => (⟨s.outline.map .outline, none⟩, s)
  | .finalize metadata =>
    (⟨(s.finalize metadata).1.map .summary, none⟩, (s.finalize metadata).2)

end Session

/-- A call that the stage of a registry has leaves the node of the caller as a session does. -/
theorem Staged.nodeAfter_toSession (s : Staged σ) (c : Call) :
    s.toSession.nodeAfter c = s.nodeAfter c := by
  cases s with
  | building r => cases c <;> rfl
  | checked r => cases c <;> rfl

/-- A registry that is not checked lacks the operations on nodes. -/
theorem Staged.call?_building_eq_none [Archive σ] {r : Registry σ} {c : Call} :
    (building r).call? c = none ↔ (Operation.call c).isOnNodes = true := by
  cases c with
  | check =>
    rw [call?]
    cases r.check <;> simp [Operation.isOnNodes]
  | register | addNode | addNodes | assign | assignAll => simp [call?, Operation.isOnNodes]

/-- A registry that is checked lacks the check. -/
theorem Staged.call?_checked_eq_none [Archive σ] {r : CheckedRegistry σ} {c : Call} :
    (checked r).call? c = none ↔ c = .check := by
  cases c with
  | check | register | addNode | addNodes | assign | assignAll => simp [call?]

/-- What a stage does not have is refused by a session, or leaves it as it is. -/
theorem Staged.call_of_missing [Archive σ] {s : Staged σ} {c : Call} (h : s.call? c = none) :
    s.toSession.perform (.call c) = (s.missing (.call c), s.toSession) := by
  cases s with
  | building r =>
    have hnodes := call?_building_eq_none.mp h
    cases c with
    | register | check => cases hnodes
    | addNode | addNodes | assign | assignAll => rfl
  | checked r =>
    obtain rfl := call?_checked_eq_none.mp h
    rfl

/-- **An operation on a session does what it does on the registry in it.** -/
theorem Held.perform_toSession [Archive σ] (h : Held σ) (op : Operation) :
    h.toSession.perform op = ((h.perform op).1, (h.perform op).2.toSession) := by
  cases h with
  | gone a =>
    cases op with
    | call c => cases c <;> rfl
    | schema | nodeCounts | linkGraph | outline | finalize => rfl
  | staged s =>
    cases op with
    | call c =>
      rw [perform, Staged.perform?]
      cases hcall : s.call? c with
      | none => exact Staged.call_of_missing hcall
      | some out =>
        obtain ⟨answer, next⟩ := out
        rw [toSession, Session.perform, Staged.call_toSession hcall, Staged.nodeAfter_toSession]
        rfl
    | schema | nodeCounts | linkGraph | outline | finalize => cases s <;> rfl

/-! ## Taking the registry out -/

/-- Where a session keeps its registry. While an operation has it, there is a mark. -/
inductive Slot (σ : Type) where
  | building (r : Registry σ)
  | checked (r : CheckedRegistry σ)
  /-- An operation has the registry. -/
  | finalizing
  | closed (archive : σ)

namespace Slot

/-- The place of a session. -/
def ofSession : Session σ → Slot σ
  | .building r => building r
  | .checked r => checked r
  | .closed a => closed a

/-- Takes out what there is, and leaves the mark. -/
def take : StateM (Slot σ) (Slot σ) :=
  modifyGet fun s => (s, finalizing)

/-- Puts something in, and answers. -/
def put {α : Type} (s : Slot σ) (answer : α) : StateM (Slot σ) α := do
  set s
  return answer

/-- Registers a schema. What is taken out is put back if it is refused. -/
def register [Archive σ] (name : String) (schema : Schema) : StateM (Slot σ) Answer := do
  match ← take with
  | building r =>
    match r.register name schema with
    | .ok r' => put (building r') (.ok ())
    | .error e => put (building r) (.error e)
  | checked r =>
    match r.register name schema with
    | .ok r' => put (building r') (.ok ())
    | .error e => put (checked r) (.error e)
  | other => put other (.error .alreadyFinalized)

/-- Resolves all links. What is taken out is put back if there is nothing to do, or if it is
refused. -/
def check : StateM (Slot σ) Answer := do
  match ← take with
  | building r =>
    match r.check with
    | .ok r' => put (checked r') (.ok ())
    | .error e => put (building r) (.error (.unresolvedLink e))
  | checked r => put (checked r) (.ok ())
  | other => put other (.error .alreadyFinalized)

/-- Writes everything and closes the archive. -/
def finalize [Archive σ] (metadata : String) : StateM (Slot σ) (Except RegistryError Summary) := do
  match ← take with
  | building r => put (closed (r.finalize metadata).2) (r.finalize metadata).1
  | checked r => put (closed (r.finalize metadata).2) (r.finalize metadata).1
  | other => put other (.error .alreadyFinalized)

/-- The registry, unless it is out or the session is closed. -/
def registry : Slot σ → Except RegistryError (Registry σ)
  | building r => .ok r
  | checked r => .ok r.toRegistry
  | finalizing | closed _ => .error .alreadyFinalized

/-- The registry, if it is checked. -/
def checkedRegistry : Slot σ → Except RegistryError (CheckedRegistry σ)
  | building _ => .error .notReady
  | checked r => .ok r
  | finalizing | closed _ => .error .alreadyFinalized

/-- A call that needs a checked registry, which it changes where it is. -/
def onChecked (c : Call) (use : CheckedRegistry σ → Answer × CheckedRegistry σ) :
    StateM (Slot σ) (Answer × Option Node) := do
  match (← get).checkedRegistry with
  | .error e => return (.error e, c.node?)
  | .ok r => put (checked (use r).2) ((use r).1, r.nodeAfter c)

/-- A call, with the node of the caller as it is left. -/
def call [Archive σ] : Call → StateM (Slot σ) (Answer × Option Node)
  | .register name schema => do return (← register name schema, none)
  | .check => do return (← check, none)
  | .addNode collection n =>
    onChecked (.addNode collection n) fun r => r.addNode collection n
  | .addNodes collection ns =>
    onChecked (.addNodes collection ns) fun r => r.addNodes collection ns
  | .assign collection rejectNull n property v =>
    onChecked (.assign collection rejectNull n property v) fun r =>
      (.ofNode (r.assignText collection rejectNull n property v), r)
  | .assignAll collection rejectNull n values =>
    onChecked (.assignAll collection rejectNull n values) fun r =>
      ((r.assignAll collection rejectNull n values).1, r)

/-- A question to the registry. -/
def ask (reply : Registry σ → Reply) : StateM (Slot σ) Response := do
  return ⟨(← get).registry.map reply, none⟩

/-- An operation. -/
def perform [Archive σ] : Operation → StateM (Slot σ) Response
  | .call c => do
    let (answer, node) ← call c
    return ⟨answer.map fun _ => .done, node⟩
  | .schema collection => ask fun r => .schema (r.schemata.get? collection)
  | .nodeCounts => ask fun r => .nodeCounts r.nodeCounts
  | .linkGraph => ask fun r => .linkGraph r.schemata.linkGraph
  | .outline => ask fun r => .outline r.outline
  | .finalize metadata => do return ⟨(← finalize metadata).map .summary, none⟩

theorem take_bind {α : Type} (f : Slot σ → StateM (Slot σ) α) (s : Slot σ) :
    (take >>= f) s = f s finalizing :=
  rfl

theorem register_ofSession [Archive σ] (s : Session σ) (name : String) (schema : Schema) :
    register name schema (ofSession s) =
      ((s.register name schema).1, ofSession (s.register name schema).2) := by
  cases s with
  | building r =>
    rw [register, take_bind, Session.register, ofSession]
    cases hr : r.register name schema with
    | ok r' => simp only [hr]; rfl
    | error e => simp only [hr]; rfl
  | checked r =>
    rw [register, take_bind, Session.register, ofSession]
    cases hr : r.register name schema with
    | ok r' => simp only [hr]; rfl
    | error e => simp only [hr]; rfl
  | closed a => rfl

theorem check_ofSession (s : Session σ) :
    check (ofSession s) = (s.check.1, ofSession s.check.2) := by
  cases s with
  | building r =>
    rw [check, take_bind, Session.check, ofSession]
    cases hr : r.check with
    | ok r' => simp only [hr]; rfl
    | error e => simp only [hr]; rfl
  | checked r => rfl
  | closed a => rfl

theorem call_ofSession [Archive σ] (s : Session σ) (c : Call) :
    call c (ofSession s) = (((s.call c).1, s.nodeAfter c), ofSession (s.call c).2) := by
  cases c with
  | register name schema =>
    have hcall : call (.register name schema) (ofSession s) =
        (((register name schema (ofSession s)).1, none),
          (register name schema (ofSession s)).2) := rfl
    rw [hcall, register_ofSession]
    rfl
  | check =>
    have hcall : call .check (ofSession s) =
        (((check (ofSession s)).1, none), (check (ofSession s)).2) := rfl
    rw [hcall, check_ofSession]
    rfl
  | addNode => cases s <;> rfl
  | addNodes => cases s <;> rfl
  | assign => cases s <;> rfl
  | assignAll => cases s <;> rfl

/-- **Whatever is taken out is put back**: an operation leaves no mark, and does what it does on a
session. -/
theorem perform_ofSession [Archive σ] (s : Session σ) (op : Operation) :
    perform op (ofSession s) = ((s.perform op).1, ofSession (s.perform op).2) := by
  cases op with
  | call c =>
    have hperform : perform (.call c) (ofSession s) =
        (⟨(call c (ofSession s)).1.1.map fun _ => .done, (call c (ofSession s)).1.2⟩,
          (call c (ofSession s)).2) := rfl
    rw [hperform, call_ofSession]
    rfl
  | schema | nodeCounts | linkGraph | outline => cases s <;> rfl
  | finalize metadata => cases s <;> rfl

end Slot

/-! ## Stages -/

/-- Whether an error says that an operation is not for the stage. -/
def RegistryError.isOfStage : RegistryError → Bool
  | notReady | alreadyFinalized => true
  | _ => false

namespace Assignment

theorem isOfStage_of_assignText {schemata : Schemata} {kinds : LinkKinds} {collection : String}
    {rejectNull : Bool} {n : Node} {property : String} {v : Input} {e : RegistryError}
    (h : assignText schemata kinds collection rejectNull n property v = .error e) :
    e.isOfStage = false := by
  rw [assignText] at h
  rcases Outcome.bind_eq_error.mp h with h | ⟨i, _, h⟩
  · obtain ⟨invalid, _, rfl⟩ := Outcome.mapError_eq_error.mp h
    rfl
  · rw [assign] at h
    split_ifs at h
    · cases h
      rfl
    · cases hschema : schemata.get? collection with
      | none =>
        rw [hschema] at h
        cases h
        rfl
      | some schema =>
        rw [hschema] at h
        obtain ⟨fault, _, rfl⟩ := Outcome.mapError_eq_error.mp h
        rfl

theorem isOfStage_of_assignAll {schemata : Schemata} {kinds : LinkKinds} {collection : String}
    {rejectNull : Bool} {n : Node} {values : List (String × Input)} {e : RegistryError}
    (h : (assignAll schemata kinds collection rejectNull n values).1 = .error e) :
    e.isOfStage = false := by
  induction values generalizing n with
  | nil => cases h
  | cons entry rest ih =>
    obtain ⟨property, v⟩ := entry
    rw [assignAll] at h
    cases hfirst : assignText schemata kinds collection rejectNull n property v with
    | error e' =>
      rw [hfirst] at h
      cases h
      exact isOfStage_of_assignText hfirst
    | ok n' =>
      rw [hfirst] at h
      exact ih h

end Assignment

theorem Registry.isOfStage_of_register [Archive σ] (r : Registry σ) {name : String}
    {schema : Schema} {e : RegistryError} (h : r.register name schema = .error e) :
    e.isOfStage = false := by
  rw [register] at h
  split_ifs at h
  · cases h
    rfl
  · rcases Outcome.bind_eq_error.mp h with h | ⟨a, _, h⟩
    · obtain ⟨fault, _, rfl⟩ := Outcome.mapError_eq_error.mp h
      rfl
    · cases h

namespace CheckedRegistry

theorem isOfStage_of_addNode {r : CheckedRegistry σ} {collection : String} {n : Node}
    {e : RegistryError} (h : (r.addNode collection n).1 = .error e) : e.isOfStage = false := by
  obtain ⟨_, rfl, _⟩ := addNode_eq_error.mp (Prod.ext h rfl)
  rfl

theorem isOfStage_of_addNodes {r : CheckedRegistry σ} {collection : String} {ns : List Node}
    {e : RegistryError} (h : (r.addNodes collection ns).1 = .error e) : e.isOfStage = false := by
  obtain ⟨_, n, _, r', _, _, hn⟩ := Steps.run_eq_error.mp (Prod.ext h rfl)
  exact isOfStage_of_addNode (congrArg Prod.fst hn)

end CheckedRegistry

namespace Staged

variable [Archive σ]

theorem isOfStage_of_register {s : Staged σ} {name : String} {schema : Schema} {e : RegistryError}
    (h : (s.register name schema).1 = .error e) : e.isOfStage = false := by
  cases s with
  | building r =>
    rw [register] at h
    cases hr : r.register name schema with
    | ok r' => rw [hr] at h; cases h
    | error e' => rw [hr] at h; cases h; exact r.isOfStage_of_register hr
  | checked r =>
    rw [register] at h
    cases hr : r.register name schema with
    | ok r' => rw [hr] at h; cases h
    | error e' => rw [hr] at h; cases h; exact r.toRegistry.isOfStage_of_register hr

theorem isOfStage_of_call? {s next : Staged σ} {c : Call} {e : RegistryError}
    (h : s.call? c = some (.error e, next)) : e.isOfStage = false := by
  cases c with
  | register name schema =>
    rw [call?, Option.some.injEq] at h
    exact isOfStage_of_register (congrArg Prod.fst h)
  | check =>
    cases s with
    | building r =>
      rw [call?] at h
      cases hr : r.check with
      | ok c => rw [hr] at h; cases h
      | error e' => rw [hr] at h; cases h; rfl
    | checked r => cases h
  | addNode collection n =>
    cases s with
    | building r => cases h
    | checked r =>
      rw [call?, Option.some.injEq] at h
      exact CheckedRegistry.isOfStage_of_addNode (congrArg Prod.fst h)
  | addNodes collection ns =>
    cases s with
    | building r => cases h
    | checked r =>
      rw [call?, Option.some.injEq] at h
      exact CheckedRegistry.isOfStage_of_addNodes (congrArg Prod.fst h)
  | assign collection rejectNull n property v =>
    cases s with
    | building r => cases h
    | checked r =>
      rw [call?, Option.some.injEq] at h
      exact Assignment.isOfStage_of_assignText (Outcome.map_eq_error.mp (congrArg Prod.fst h))
  | assignAll collection rejectNull n values =>
    cases s with
    | building r => cases h
    | checked r =>
      rw [call?, Option.some.injEq] at h
      exact Assignment.isOfStage_of_assignAll (congrArg Prod.fst h)

/-- A registry never says that an operation is not for its stage: it does not have those. -/
theorem isOfStage_of_perform? {s : Staged σ} {op : Operation} {response : Response} {next : Held σ}
    (h : s.perform? op = some (response, next)) {e : RegistryError}
    (he : response.answer = .error e) : e.isOfStage = false := by
  cases op with
  | call c =>
    rw [perform?, Option.map_eq_some_iff] at h
    obtain ⟨⟨answer, next'⟩, hcall, hout⟩ := h
    cases hout
    obtain rfl : answer = .error e := Outcome.map_eq_error.mp he
    exact isOfStage_of_call? hcall
  | finalize metadata =>
    rw [perform?, Option.some.injEq] at h
    cases h
    have houtcome : (s.registry.finalize metadata).1 = .error e := Outcome.map_eq_error.mp he
    rcases Registry.finalize_eq_error houtcome with hwrites | ⟨_, _, rfl, _⟩
    · obtain ⟨_, _, _, _, rfl, _⟩ := Registry.exists_of_writeEntries hwrites
      rfl
    · rfl
  | schema | nodeCounts | linkGraph | outline =>
    cases h
    cases he

theorem perform?_building_eq_none {r : Registry σ} {op : Operation} :
    (building r).perform? op = none ↔ op.isOnNodes = true := by
  cases op with
  | call c => rw [perform?, Option.map_eq_none_iff, call?_building_eq_none]
  | schema | nodeCounts | linkGraph | outline | finalize => simp [perform?, Operation.isOnNodes]

end Staged

/-- How a session answers, in whatever stage it is. -/
structure Session.KeepsStages [Archive σ] (s : Session σ) : Prop where
  /-- Exactly the operations on nodes have to wait, exactly until the links are resolved. -/
  notReady (op : Operation) : (s.perform op).1.answer = .error .notReady ↔
    op.isOnNodes = true ∧ ∃ r, s = .building r
  /-- Exactly a session that is closed refuses everything. -/
  alreadyFinalized (op : Operation) :
    (s.perform op).1.answer = .error .alreadyFinalized ↔ s.isClosed = true
  /-- What is not for the stage changes neither the session nor the node of the caller. -/
  refused {op : Operation} {e : RegistryError} (he : e.isOfStage = true)
    (h : (s.perform op).1.answer = .error e) : s.perform op = (.refusal op e, s)
  /-- What is checked has no more to check. -/
  checkedAgain (h : s.isChecked = true) : s.perform (.call .check) = (⟨.ok .done, none⟩, s)
  /-- A call that fails leaves the session as it is. -/
  rejected {c : Call} {e : RegistryError} (h : (s.perform (.call c)).1.answer = .error e) :
    (s.perform (.call c)).2 = s
  /-- A session is closed by finalizing it, whatever comes of that, and stays so. -/
  closes (op : Operation) : (s.perform op).2.isClosed = (s.isClosed || op.isFinalize)

namespace Session

variable [Archive σ]

omit [Archive σ] in
theorem exists_held (s : Session σ) : ∃ h : Held σ, h.toSession = s := by
  cases s with
  | building r => exact ⟨.staged (.building r), rfl⟩
  | checked r => exact ⟨.staged (.checked r), rfl⟩
  | closed a => exact ⟨.gone a, rfl⟩

/-- All errors of the stage, and where they come from. -/
theorem perform_of_isOfStage {s : Session σ} {op : Operation} {e : RegistryError}
    (he : e.isOfStage = true) (h : (s.perform op).1.answer = .error e) :
    s.perform op = (.refusal op e, s) ∧
      (e = .notReady ∧ op.isOnNodes = true ∧ (∃ r, s = .building r) ∨
        e = .alreadyFinalized ∧ s.isClosed = true) := by
  obtain ⟨held, rfl⟩ := s.exists_held
  rw [Held.perform_toSession] at h ⊢
  cases held with
  | gone a =>
    cases h
    exact ⟨rfl, .inr ⟨rfl, rfl⟩⟩
  | staged s =>
    cases hop : s.perform? op with
    | some out =>
      rw [Held.perform, hop] at h
      rw [Staged.isOfStage_of_perform? hop h] at he
      cases he
    | none =>
      rw [Held.perform, hop] at h ⊢
      cases s with
      | building r =>
        cases h
        exact ⟨rfl, .inl ⟨rfl, Staged.perform?_building_eq_none.mp hop, r, rfl⟩⟩
      | checked r => cases h

theorem perform_building (r : Registry σ) {op : Operation} (hop : op.isOnNodes = true) :
    ((building r).perform op).1.answer = .error .notReady := by
  rw [show building r = (Held.staged (.building r)).toSession from rfl, Held.perform_toSession,
    Held.perform, Staged.perform?_building_eq_none.mpr hop]
  rfl

theorem perform_closed (a : σ) (op : Operation) :
    (closed a).perform op = (.refusal op .alreadyFinalized, closed a) :=
  Held.perform_toSession (.gone a) op

theorem perform_of_error {s : Session σ} {c : Call} {e : RegistryError}
    (h : (s.perform (.call c)).1.answer = .error e) : (s.perform (.call c)).2 = s := by
  have hanswer : (s.call c).1 = .error e := Outcome.map_eq_error.mp h
  have heffect : s.Effect (c, .error e) (s.call c).2 := effect (Prod.ext hanswer rfl)
  change (s.call c).2 = s
  generalize (s.call c).2 = s' at heffect
  cases heffect with
  | none => rfl
  | @staged r r' _ collection ns _ nodes stages =>
    -- A batch that is put after the others has nodes, but one that is refused adds none.
    have hnone : Call.nodesFor collection (c, .error e) = [] := by cases c <;> rfl
    have hns := nodes collection
    rw [if_pos rfl, hnone] at hns
    exact absurd hns.symm stages.nonempty

theorem isClosed_perform (s : Session σ) (op : Operation) :
    (s.perform op).2.isClosed = (s.isClosed || op.isFinalize) := by
  cases op with
  | call c =>
    have heffect : s.Effect (c, (s.call c).1) (s.call c).2 := effect rfl
    change (s.call c).2.isClosed = (s.isClosed || false)
    rw [Bool.or_false]
    generalize (s.call c).2 = s' at heffect
    generalize (s.call c).1 = answer at heffect
    cases heffect with
    | none => rfl
    | registered takes =>
      cases s with
      | building | checked => rfl
      | closed => cases takes
    | resolved => rfl
    | staged => rfl
  | schema | nodeCounts | linkGraph | outline => exact (Bool.or_false _).symm
  | finalize metadata => cases s <;> rfl

/-- **Every session keeps its stages.** -/
theorem keepsStages (s : Session σ) : s.KeepsStages where
  notReady op := by
    constructor
    · intro h
      rcases (perform_of_isOfStage rfl h).2 with ⟨_, hop⟩ | ⟨he, _⟩
      · exact hop
      · cases he
    · rintro ⟨hop, r, rfl⟩
      exact perform_building r hop
  alreadyFinalized op := by
    constructor
    · intro h
      rcases (perform_of_isOfStage rfl h).2 with ⟨he, _⟩ | ⟨_, hclosed⟩
      · cases he
      · exact hclosed
    · intro h
      cases s with
      | building | checked => cases h
      | closed a => rw [perform_closed]; rfl
  refused he h := (perform_of_isOfStage he h).1
  checkedAgain h := by
    cases s with
    | building | closed => cases h
    | checked r => rfl
  rejected := perform_of_error
  closes := s.isClosed_perform

end Session

/-! ## Sequences of operations -/

theorem isClosed_all [Archive σ] (s : Session σ) (ops : List Operation) :
    (Operation.all Session.perform s ops).2.isClosed =
      (s.isClosed || ops.any Operation.isFinalize) := by
  induction ops generalizing s with
  | nil => exact (Bool.or_false _).symm
  | cons op ops ih =>
    change (Operation.all Session.perform (s.perform op).2 ops).2.isClosed = _
    rw [ih, Session.isClosed_perform, List.any_cons, Bool.or_assoc]

/-- **Sessions follow registries.** Let any operations be performed in their order, from any
registry that a session takes over; a session that is new takes over a registry without
collections.

* The session gives back what the registry gives back, and has its content in the end.
* So does a session that takes its registry out and puts it back, and it leaves no mark.
* It is closed if it has been finalized, and only then.
* It keeps its stages: what its stage does not allow is refused and changes nothing. -/
theorem session_follows_registry [Archive σ] (start : Staged σ) (ops : List Operation) :
    let registry := Operation.all Held.perform (.staged start) ops
    let session := Operation.all Session.perform start.toSession ops
    let slot := Operation.all (fun s op => Slot.perform op s) (.ofSession start.toSession) ops
    session = (registry.1, registry.2.toSession) ∧
      slot = (session.1, .ofSession session.2) ∧
      session.2.isClosed = ops.any Operation.isFinalize ∧
      session.2.KeepsStages := by
  refine ⟨?_, ?_, ?_, Session.keepsStages _⟩
  · exact Operation.all_map Held.toSession Held.perform_toSession (.staged start) ops
  · exact Operation.all_map Slot.ofSession Slot.perform_ofSession start.toSession ops
  · have hstart : start.toSession.isClosed = false := by cases start <;> rfl
    rw [isClosed_all, hstart, Bool.false_or]

end CollectionArchive
