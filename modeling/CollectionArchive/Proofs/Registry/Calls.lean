import CollectionArchive.Proofs.Steps
import CollectionArchive.Registry.Session
import Mathlib.Tactic.SplitIfs

/-!
# Calls on registries and sessions

A registry is held in the stage that its type tells, and takes only the calls of that stage; a
session takes all calls and answers those that its stage does not allow with an error.

* `Call`, `Session.call`, `Staged.call?`: the calls, and what they do.
* `Handle`: a registry or a session; `Handle.call_toSession`: a registry does what a session with
  the same content does.
* `Registry.register_eq_ok`, `Registry.check_eq_ok`: registering and resolving that succeed.
* **`Session.effect`**: all that a call can do to a session.
-/

namespace CollectionArchive

variable {σ : Type}

/-- A call on a registry or a session. Assignments are to a node of the caller. -/
inductive Call where
  | register (name : String) (schema : Schema)
  | check
  | addNode (collection : String) (n : Node)
  | addNodes (collection : String) (ns : List Node)
  | assign (collection : String) (rejectNull : Bool) (n : Node) (property : String) (v : Input)
  | assignAll (collection : String) (rejectNull : Bool) (n : Node) (values : List (String × Input))

/-- How a call ends. -/
abbrev Answer := Except RegistryError Unit

/-- The answer where a node is given back. -/
def Answer.ofNode (outcome : Except RegistryError Node) : Answer :=
  outcome.map fun _ => ()

/-- A call on a session. -/
def Session.call [Archive σ] (s : Session σ) : Call → Answer × Session σ
  | .register name schema => s.register name schema
  | .check => s.check
  | .addNode collection n => s.addNode collection n
  | .addNodes collection ns => s.addNodes collection ns
  | .assign collection rejectNull n property v =>
    (.ofNode (s.assignText collection rejectNull n property v), s)
  | .assignAll collection rejectNull n values => ((s.assignAll collection rejectNull n values).1, s)

/-! ## Registries by stage -/

/-- A registry in a stage that is known. -/
inductive Staged (σ : Type) where
  | building (r : Registry σ)
  | checked (r : CheckedRegistry σ)

namespace Staged

/-- The session that takes over a registry. -/
def toSession : Staged σ → Session σ
  | building r => .building r
  | checked r => .checked r

/-- Registering on a registry. One that is refused stays in its stage. -/
def register [Archive σ] (s : Staged σ) (name : String) (schema : Schema) : Answer × Staged σ :=
  match s with
  | building r =>
    match r.register name schema with
    | .ok r => (.ok (), building r)
    | .error e => (.error e, s)
  | checked r =>
    match r.register name schema with
    | .ok r => (.ok (), building r)
    | .error e => (.error e, s)

/-- A call on a registry, if its stage has it. -/
def call? [Archive σ] : Staged σ → Call → Option (Answer × Staged σ)
  | s, .register name schema => some (s.register name schema)
  | building r, .check =>
    match r.check with
    | .ok c => some (.ok (), checked c)
    | .error e => some (.error (.unresolvedLink e), building r)
  | checked r, .addNode collection n =>
    some ((r.addNode collection n).1, checked (r.addNode collection n).2)
  | checked r, .addNodes collection ns =>
    some ((r.addNodes collection ns).1, checked (r.addNodes collection ns).2)
  | checked r, .assign collection rejectNull n property v =>
    some (.ofNode (r.assignText collection rejectNull n property v), checked r)
  | checked r, .assignAll collection rejectNull n values =>
    some ((r.assignAll collection rejectNull n values).1, checked r)
  | _, _ => none

theorem register_toSession [Archive σ] (s : Staged σ) (name : String) (schema : Schema) :
    s.toSession.register name schema =
      ((s.register name schema).1, (s.register name schema).2.toSession) := by
  cases s with
  | building r =>
    rw [register, toSession, Session.register]
    cases r.register name schema <;> rfl
  | checked r =>
    rw [register, toSession, Session.register]
    show _ = ((match r.register name schema with
      | .ok r => (.ok (), building r)
      | .error e => (.error e, checked r) : Answer × Staged σ).1, _)
    rw [CheckedRegistry.register]
    cases r.toRegistry.register name schema <;> rfl

theorem call_toSession [Archive σ] {s s' : Staged σ} {c : Call} {answer : Answer}
    (h : s.call? c = some (answer, s')) : s.toSession.call c = (answer, s'.toSession) := by
  cases c with
  | register name schema =>
    rw [call?, Option.some.injEq] at h
    rw [Session.call, register_toSession, h]
  | check =>
    cases s with
    | building r =>
      rw [call?] at h
      rw [Session.call, toSession, Session.check]
      cases hr : r.check with
      | ok c => rw [hr] at h; cases h; rfl
      | error e => rw [hr] at h; cases h; rfl
    | checked r => cases h
  | addNode collection n =>
    cases s with
    | building r => cases h
    | checked r => cases h; rfl
  | addNodes collection ns =>
    cases s with
    | building r => cases h
    | checked r => cases h; rfl
  | assign collection rejectNull n property v =>
    cases s with
    | building r => cases h
    | checked r => cases h; rfl
  | assignAll collection rejectNull n values =>
    cases s with
    | building r => cases h
    | checked r => cases h; rfl

end Staged

/-! ## Registries and sessions -/

/-- What a caller holds: a registry, or a session. -/
inductive Handle (σ : Type) where
  | staged (s : Staged σ)
  | session (s : Session σ)

namespace Handle

/-- The content of a handle, as a session. -/
def toSession : Handle σ → Session σ
  | staged s => s.toSession
  | session s => s

/-- The handle with its archive as someone else has left it. -/
def withArchive (a : σ) : Handle σ → Handle σ
  | staged (.building r) => staged (.building (r.withArchive a))
  | staged (.checked r) => staged (.checked { r with toRegistry := r.toRegistry.withArchive a })
  | session s => session (s.withArchive a)

theorem withArchive_toSession (a : σ) (h : Handle σ) :
    (h.withArchive a).toSession = h.toSession.withArchive a := by
  cases h with
  | staged s => cases s <;> rfl
  | session s => rfl

variable [Archive σ]

/-- A call, if what is held has it. -/
def call? : Handle σ → Call → Option (Answer × Handle σ)
  | staged s, c => (s.call? c).map fun (answer, s) => (answer, staged s)
  | session s, c => some ((s.call c).1, session (s.call c).2)

/-- Writes everything, closes the archive and leaves it. -/
def finalize : Handle σ → (metadata : String) → Except RegistryError Summary × σ
  | staged (.building r), metadata => r.finalize metadata
  | staged (.checked r), metadata => r.finalize metadata
  | session s, metadata => ((s.finalize metadata).1, (s.finalize metadata).2.archive)

theorem call?_session {s s' : Session σ} {c : Call} {answer : Answer}
    (h : s.call c = (answer, s')) : (session s).call? c = some (answer, session s') := by
  rw [call?, h]

/-- **Whatever is held, a call does what it does on a session.** -/
theorem call_toSession {h h' : Handle σ} {c : Call} {answer : Answer}
    (hcall : h.call? c = some (answer, h')) : h.toSession.call c = (answer, h'.toSession) := by
  cases h with
  | staged s =>
    obtain ⟨⟨_, s'⟩, hs, heq⟩ := Option.map_eq_some_iff.mp hcall
    obtain ⟨rfl, rfl⟩ := Prod.mk.inj heq
    exact Staged.call_toSession hs
  | session s =>
    obtain ⟨rfl, rfl⟩ := Prod.mk.inj (Option.some.inj hcall)
    rfl

theorem finalize_of_registry {h : Handle σ} {r : Registry σ} (hr : h.toSession.registry = .ok r)
    (metadata : String) : h.finalize metadata = r.finalize metadata := by
  cases h with
  | staged s =>
    cases s with
    | building r' => cases hr; rfl
    | checked r' => cases hr; rfl
  | session s =>
    rw [finalize, Session.finalize, show s.registry = .ok r from hr]
    rfl

theorem registry_of_finalize {h : Handle σ} {metadata : String} {summary : Summary} {a : σ}
    (hfinal : h.finalize metadata = (.ok summary, a)) : ∃ r, h.toSession.registry = .ok r := by
  cases h with
  | staged s =>
    cases s with
    | building r => exact ⟨r, rfl⟩
    | checked r => exact ⟨r.toRegistry, rfl⟩
  | session s =>
    cases s with
    | building r => exact ⟨r, rfl⟩
    | checked r => exact ⟨r.toRegistry, rfl⟩
    | closed b => cases hfinal

end Handle

/-! ## Registering and resolving -/

namespace Registry

/-- A schema is written and put under its name, where no other schema was. -/
structure Registers [Archive σ] (r : Registry σ) (name : String) (schema : Schema)
    (r' : Registry σ) : Prop where
  agrees {known : Schema} (h : r.schemata.get? name = some known) : known.equal schema = true
  write : Archive.write r.archive (schemaPath name) (Bytes.ofText schema.json) = .ok r'.archive
  schemata : r'.schemata = r.schemata.insert name schema
  staged : r'.staged = r.staged
  nodeCounts : r'.nodeCounts = r.nodeCounts

variable [Archive σ]

theorem register_eq_ok {r r' : Registry σ} {name : String} {schema : Schema}
    (h : r.register name schema = .ok r') : r.Registers name schema r' := by
  rw [register] at h
  split_ifs at h with hother
  obtain ⟨a, ha, h⟩ := Outcome.bind_eq_ok.mp h
  obtain rfl := Outcome.pure_eq_ok.mp h
  refine ⟨fun {known} hknown => ?_, Outcome.mapError_eq_ok.mp ha, rfl, rfl, rfl⟩
  rw [hknown, Option.any_some] at hother
  simpa using hother

/-- A schema can be registered for a name that is free or has an equal schema, if the archive takes
it. -/
theorem exists_register_of_agrees {r : Registry σ} {name : String} {schema : Schema} {a : σ}
    (agrees : ∀ known, r.schemata.get? name = some known → known.equal schema = true)
    (hwrite : Archive.write r.archive (schemaPath name) (Bytes.ofText schema.json) = .ok a) :
    ∃ r', r.register name schema = .ok r' := by
  have hnone : (r.schemata.get? name).any (fun known => !known.equal schema) = false := by
    cases hname : r.schemata.get? name with
    | none => rfl
    | some known => rw [Option.any_some, agrees known hname, Bool.not_true]
  rw [register, hnone, if_neg Bool.false_ne_true, hwrite]
  exact ⟨_, rfl⟩

theorem exists_register {r : Registry σ} {name : String} {schema : Schema} {a : σ}
    (hfree : r.schemata.get? name = none)
    (hwrite : Archive.write r.archive (schemaPath name) (Bytes.ofText schema.json) = .ok a) :
    ∃ r', r.register name schema = .ok r' :=
  exists_register_of_agrees (fun _ h => absurd (hfree.symm.trans h) nofun) hwrite

theorem Registers.get?_schemata {r r' : Registry σ} {name : String} {schema : Schema}
    (h : r.Registers name schema r') (other : String) :
    r'.schemata.get? other = if name = other then some schema else r.schemata.get? other := by
  rw [h.schemata, Table.get?_insert]

omit [Archive σ] in
theorem check_eq_ok {δ β : Type} {r : Registry σ δ β} {c : CheckedRegistry σ δ β} :
    r.check = .ok c ↔ ∃ kinds, LinkKinds.ofSchemata r.schemata = .ok kinds ∧ ⟨r, kinds⟩ = c := by
  rw [check, Outcome.bind_eq_ok]
  simp only [Outcome.pure_eq_ok]

end Registry

/-! ## Effects of calls -/

/-- The nodes of a batch are put after those that wait for a collection, and are counted. -/
structure CheckedRegistry.Stages (r : CheckedRegistry σ) (collection : String) (ns : List Node)
    (r' : CheckedRegistry σ) : Prop where
  nonempty : ns ≠ []
  known : r.schemata.has collection = true
  schemata : r'.schemata = r.schemata
  kinds : r'.kinds = r.kinds
  archive : r'.archive = r.archive
  staged (c : String) : r'.staged.get? c =
    if collection = c then some ((r.staged.get? collection).getD [] ++ ns) else r.staged.get? c
  nodeCounts (c : String) : r'.nodeCounts.get? c =
    if collection = c then some (r.nodeCount collection + ns.length) else r.nodeCounts.get? c

namespace CheckedRegistry

theorem Stages.nodeCount {r r' : CheckedRegistry σ} {collection : String} {ns : List Node}
    (h : r.Stages collection ns r') (c : String) : r'.nodeCount c =
      r.nodeCount c + (if collection = c then ns else []).length := by
  rw [Registry.nodeCount, h.nodeCounts]
  by_cases hc : collection = c
  · subst hc
    simp
  · simp [hc, Registry.nodeCount]

/-- Where nodes wait in memory, one for a collection that is there is always taken. -/
theorem addNode_of_known {r : CheckedRegistry σ} {collection : String}
    (known : r.schemata.has collection = true) (n : Node) :
    ∃ r', r.addNode collection n = (.ok (), r') ∧ r.Stages collection [n] r' := by
  have hbuffer : r.buffer collection = (.ok ((r.staged.get? collection).getD []), r.buffers) := by
    rw [buffer]
    cases r.staged.get? collection <;> rfl
  rw [addNode, if_pos known, hbuffer]
  exact ⟨_, rfl, List.cons_ne_nil _ _, known, rfl, rfl, rfl, fun c => Table.get?_insert _ _ _ _,
    fun c => Table.get?_insert _ _ _ _⟩

theorem addNode_of_unknown {r : CheckedRegistry σ} {collection : String}
    (unknown : r.schemata.has collection = false) (n : Node) :
    r.addNode collection n = (.error (.unknownCollection collection), r) := by
  rw [addNode, unknown, if_neg Bool.false_ne_true]

theorem addNode_eq_ok {r r' : CheckedRegistry σ} {collection : String} {n : Node}
    (h : r.addNode collection n = (.ok (), r')) : r.Stages collection [n] r' := by
  cases known : r.schemata.has collection with
  | false =>
    rw [addNode_of_unknown known] at h
    cases h
  | true =>
    obtain ⟨r₁, hr₁, stages⟩ := addNode_of_known known n
    obtain rfl := (Prod.mk.inj (hr₁.symm.trans h)).2
    exact stages

theorem addNode_eq_error {r r' : CheckedRegistry σ} {collection : String} {n : Node}
    {e : RegistryError} : r.addNode collection n = (.error e, r') ↔
      r.schemata.has collection = false ∧ .unknownCollection collection = e ∧ r = r' := by
  cases known : r.schemata.has collection with
  | false => simp [addNode_of_unknown known]
  | true =>
    obtain ⟨r₁, hr₁, _⟩ := addNode_of_known known n
    simp [hr₁]

theorem Stages.trans {r r' r'' : CheckedRegistry σ} {collection : String} {ns ms : List Node}
    (h : r.Stages collection ns r') (h' : r'.Stages collection ms r'') :
    r.Stages collection (ns ++ ms) r'' where
  nonempty := List.append_ne_nil_of_left_ne_nil h.nonempty _
  known := h.known
  schemata := h'.schemata.trans h.schemata
  kinds := h'.kinds.trans h.kinds
  archive := h'.archive.trans h.archive
  staged c := by
    rw [h'.staged, h.staged, h.staged]
    by_cases hc : collection = c
    · rw [if_pos hc, if_pos hc, if_pos rfl, Option.getD_some, List.append_assoc]
    · rw [if_neg hc, if_neg hc, if_neg hc]
  nodeCounts c := by
    rw [h'.nodeCounts, Registry.nodeCount, h.nodeCounts, h.nodeCounts, if_pos rfl,
      Option.getD_some, List.length_append, Nat.add_assoc]
    by_cases hc : collection = c
    · rw [if_pos hc, if_pos hc]
    · rw [if_neg hc, if_neg hc, if_neg hc]

theorem addNodes_of_known {r : CheckedRegistry σ} {collection : String}
    (hknown : r.schemata.has collection = true) (n : Node) (ns : List Node) :
    ∃ r', r.addNodes collection (n :: ns) = (.ok (), r') ∧ r.Stages collection (n :: ns) r' := by
  obtain ⟨r₁, hn, hfirst⟩ := addNode_of_known hknown n
  rw [addNodes, Steps.run_cons_of_ok hn]
  induction ns generalizing r n r₁ with
  | nil => exact ⟨r₁, rfl, hfirst⟩
  | cons m ms ih =>
    have hknown₁ : r₁.schemata.has collection = true := hfirst.schemata ▸ hknown
    obtain ⟨r₂, hm, hsecond⟩ := addNode_of_known hknown₁ m
    obtain ⟨r', hrest, hstages⟩ := ih hknown₁ m r₂ hm hsecond
    rw [Steps.run_cons_of_ok hm]
    exact ⟨r', hrest, hfirst.trans hstages⟩

/-- A batch is refused as a whole, or has no nodes, or is taken as a whole. -/
theorem addNodes_cases (r : CheckedRegistry σ) (collection : String) (ns : List Node) :
    (∃ e, r.addNodes collection ns = (.error e, r)) ∨
      (ns = [] ∧ r.addNodes collection ns = (.ok (), r)) ∨
        ∃ r', r.addNodes collection ns = (.ok (), r') ∧ r.Stages collection ns r' := by
  cases ns with
  | nil => exact .inr (.inl ⟨rfl, rfl⟩)
  | cons n ns =>
    cases known : r.schemata.has collection with
    | true => exact .inr (.inr (addNodes_of_known known n ns))
    | false => exact .inl ⟨_, Steps.run_cons_of_error (addNode_of_unknown known n) ns⟩

end CheckedRegistry

/-- The schema that a call has registered for a name. -/
def Call.schemaFor? (name : String) : Call × Answer → Option Schema
  | (.register known schema, .ok _) => if known = name then some schema else none
  | _ => none

/-- The nodes that a call has added to a collection. -/
def Call.nodesFor (name : String) : Call × Answer → List Node
  | (.addNode collection n, .ok _) => if collection = name then [n] else []
  | (.addNodes collection ns, .ok _) => if collection = name then ns else []
  | _ => []

/-- All that a call with its answer can do to a session. -/
inductive Session.Effect [Archive σ] : Session σ → Call × Answer → Session σ → Prop
  /-- The session stays as it is, and nothing is registered or added. -/
  | none {s : Session σ} {e : Call × Answer} (schema : ∀ name, Call.schemaFor? name e = .none)
      (nodes : ∀ name, Call.nodesFor name e = []) : Effect s e s
  /-- A schema is registered, and links have to be resolved again. -/
  | registered {s : Session σ} {r r' : Registry σ} {name : String} {schema : Schema}
      (takes : s.registry = .ok r) (register : r.register name schema = .ok r') :
      Effect s (.register name schema, .ok ()) (.building r')
  /-- All links are resolved. -/
  | resolved {r : Registry σ} {r' : CheckedRegistry σ} (check : r.check = .ok r') :
      Effect (.building r) (.check, .ok ()) (.checked r')
  /-- Nodes are added to a collection. -/
  | staged {r r' : CheckedRegistry σ} {e : Call × Answer} {collection : String} {ns : List Node}
      (schema : ∀ name, Call.schemaFor? name e = .none)
      (nodes : ∀ name, Call.nodesFor name e = if collection = name then ns else [])
      (stages : r.Stages collection ns r') : Effect (.checked r) e (.checked r')

namespace Session

variable [Archive σ]

theorem effect_register (s : Session σ) (name : String) (schema : Schema) :
    s.Effect (.register name schema, (s.register name schema).1) (s.register name schema).2 := by
  cases s with
  | building r =>
    rw [register]
    cases hr : r.register name schema with
    | ok r' => exact .registered rfl hr
    | error e => exact .none (fun _ => rfl) fun _ => rfl
  | checked r =>
    rw [register, CheckedRegistry.register]
    cases hr : r.toRegistry.register name schema with
    | ok r' => exact .registered rfl hr
    | error e => exact .none (fun _ => rfl) fun _ => rfl
  | closed a => exact .none (fun _ => rfl) fun _ => rfl

theorem effect_check (s : Session σ) : s.Effect (.check, s.check.1) s.check.2 := by
  cases s with
  | building r =>
    rw [check]
    cases hr : r.check with
    | ok r' => exact .resolved hr
    | error e => exact .none (fun _ => rfl) fun _ => rfl
  | checked r => exact .none (fun _ => rfl) fun _ => rfl
  | closed a => exact .none (fun _ => rfl) fun _ => rfl

theorem effect_addNode (s : Session σ) (collection : String) (n : Node) :
    s.Effect (.addNode collection n, (s.addNode collection n).1) (s.addNode collection n).2 := by
  cases s with
  | building r => exact .none (fun _ => rfl) fun _ => rfl
  | checked r =>
    rw [addNode]
    simp only [checkedRegistry]
    rcases hr : r.addNode collection n with ⟨e | ⟨⟩, r'⟩
    · obtain ⟨_, _, rfl⟩ := CheckedRegistry.addNode_eq_error.mp hr
      exact .none (fun _ => rfl) fun _ => rfl
    · exact .staged (fun _ => rfl) (fun _ => rfl) (CheckedRegistry.addNode_eq_ok hr)
  | closed a => exact .none (fun _ => rfl) fun _ => rfl

theorem effect_addNodes (s : Session σ) (collection : String) (ns : List Node) :
    s.Effect (.addNodes collection ns, (s.addNodes collection ns).1)
      (s.addNodes collection ns).2 := by
  cases s with
  | building r => exact .none (fun _ => rfl) fun _ => rfl
  | checked r =>
    rw [addNodes]
    simp only [checkedRegistry]
    rcases r.addNodes_cases collection ns with ⟨e, hr⟩ | ⟨rfl, hr⟩ | ⟨r', hr, hstages⟩
    · rw [hr]
      exact .none (fun _ => rfl) fun _ => rfl
    · rw [hr]
      exact .none (fun _ => rfl) fun _ => ite_self _
    · rw [hr]
      exact .staged (fun _ => rfl) (fun _ => rfl) hstages
  | closed a => exact .none (fun _ => rfl) fun _ => rfl

/-- **All that a call can do to a session** is to register a schema, to resolve all links, to add
nodes, or nothing. -/
theorem effect {s s' : Session σ} {c : Call} {answer : Answer} (h : s.call c = (answer, s')) :
    s.Effect (c, answer) s' := by
  cases c with
  | register name schema =>
    have := s.effect_register name schema
    rwa [show s.register name schema = (answer, s') from h] at this
  | check =>
    have := s.effect_check
    rwa [show s.check = (answer, s') from h] at this
  | addNode collection n =>
    have := s.effect_addNode collection n
    rwa [show s.addNode collection n = (answer, s') from h] at this
  | addNodes collection ns =>
    have := s.effect_addNodes collection ns
    rwa [show s.addNodes collection ns = (answer, s') from h] at this
  | assign collection rejectNull n property v =>
    cases h
    exact .none (fun _ => rfl) fun _ => rfl
  | assignAll collection rejectNull n values =>
    cases h
    exact .none (fun _ => rfl) fun _ => rfl

end Session

end CollectionArchive
