import CollectionArchive.Proofs.Registry.Calls

/-!
# Runs

* `Log`: the calls of a run with their answers; `Log.registered?` and `Log.added` tell what the
  calls that succeeded have registered and added.
* `Run`: the runs from a start that end in a handle, where a registry may be taken over by a session
  at any time; `Run.steps`: steps that are parts of a run make up a run.
* `Handle.LeadsTo`: the handles to which any use of a handle leads, also if others change the
  archive; `Reachable`: those to which any use of a new registry or session leads.
* **`Handle.LeadsTo.induction`**: what the start has and every effect of a call preserves is had by
  every handle to which it leads; `Handle.LeadsTo.registry_induction` is the same for registries.
* `Reachable.induction`, `Reachable.registry_induction`: so for what a new registry has.
-/

namespace CollectionArchive

variable {σ : Type}

/-- Calls and their answers, in their order. -/
abbrev Log := List (Call × Answer)

namespace Log

/-- The schema that was registered last for a name. -/
def registered? (l : Log) (name : String) : Option Schema :=
  l.reverse.findSome? (Call.schemaFor? name)

/-- The nodes that were added to a collection, in the order in which they were. -/
def added (l : Log) (collection : String) : List Node :=
  l.flatMap (Call.nodesFor collection)

theorem registered?_append (l new : Log) (name : String) :
    (l ++ new).registered? name = (new.registered? name).or (l.registered? name) := by
  rw [registered?, List.reverse_append, List.findSome?_append]
  rfl

theorem added_append (l new : Log) (collection : String) :
    (l ++ new).added collection = l.added collection ++ new.added collection :=
  List.flatMap_append

theorem registered?_concat (l : Log) (e : Call × Answer) (name : String) :
    (l ++ [e]).registered? name = (Call.schemaFor? name e).or (l.registered? name) := by
  rw [registered?_append, registered?, List.reverse_singleton, List.findSome?_singleton]

theorem added_concat (l : Log) (e : Call × Answer) (collection : String) :
    (l ++ [e]).added collection = l.added collection ++ Call.nodesFor collection e := by
  rw [added_append]
  exact congrArg _ (List.flatMap_singleton _ _)

end Log

variable [Archive σ]

/-- The runs from a start. -/
inductive Run (start : Handle σ) : Log → Handle σ → Prop
  | start : Run start [] start
  /-- One more call. -/
  | call {l : Log} {h h' : Handle σ} {c : Call} {answer : Answer} (run : Run start l h)
      (call : h.call? c = some (answer, h')) : Run start (l ++ [(c, answer)]) h'
  /-- A session takes over a registry. -/
  | takeOver {l : Log} {s : Staged σ} (run : Run start l (.staged s)) :
      Run start l (.session s.toSession)

/-- What registering and adding nodes preserve, every call preserves. -/
theorem Session.Effect.registry {s s' : Session σ} {e : Call × Answer} (step : s.Effect e s')
    {P : Registry σ → Prop}
    (register : ∀ r r' name schema, P r → r.register name schema = .ok r' → P r')
    (stages : ∀ (r r' : CheckedRegistry σ) collection ns, P r.toRegistry →
      r.Stages collection ns r' → P r'.toRegistry)
    (h : ∀ r, s.registry = .ok r → P r) {r' : Registry σ} (hr' : s'.registry = .ok r') : P r' := by
  cases step with
  | none => exact h r' hr'
  | registered takes registers =>
    cases hr'
    exact register _ _ _ _ (h _ takes) registers
  | resolved check =>
    obtain ⟨kinds, _, rfl⟩ := Registry.check_eq_ok.mp check
    cases hr'
    exact h _ rfl
  | staged _ _ staged =>
    cases hr'
    exact stages _ _ _ _ (h _ rfl) staged

/-- **What the start has and every effect preserves is had by the end of a run.** -/
theorem Run.induction {start : Handle σ} {P : Log → Session σ → Prop}
    (first : P [] start.toSession)
    (step : ∀ l s e s', P l s → s.Effect e s' → P (l ++ [e]) s') {l : Log} {h : Handle σ}
    (run : Run start l h) : P l h.toSession := by
  induction run with
  | start => exact first
  | call _ hcall ih => exact step _ _ _ _ ih (Session.effect (Handle.call_toSession hcall))
  | takeOver _ ih => exact ih

/-- Steps that are parts of a run make up a run. -/
theorem Run.steps {α s ε : Type} {start : Handle σ} {step : s → α → Except ε Unit × s}
    {handle : s → Handle σ} {P : s → Prop} {Does : α → Log → Prop}
    (each : ∀ x a x', P x → step x a = (.ok (), x') → P x' ∧ ∃ new, Does a new ∧
      ∀ l, Run start l (handle x) → Run start (l ++ new) (handle x'))
    {x x' : s} (hx : P x) {as : List α} (h : Steps.run step x as = (.ok (), x')) :
    P x' ∧ ∃ news, List.Forall₂ Does as news ∧
      ∀ l, Run start l (handle x) → Run start (l ++ news.flatten) (handle x') := by
  induction as generalizing x with
  | nil =>
    cases h
    refine ⟨hx, [], .nil, fun l run => ?_⟩
    rw [List.flatten_nil, List.append_nil]
    exact run
  | cons a as ih =>
    rcases hstep : step x a with ⟨e | ⟨⟩, next⟩
    · rw [Steps.run_cons_of_error hstep] at h
      cases h
    rw [Steps.run_cons_of_ok hstep] at h
    obtain ⟨hkept, new, hdoes, hrun⟩ := each x a next hx hstep
    obtain ⟨hlast, news, hall, hrest⟩ := ih hkept h
    refine ⟨hlast, new :: news, .cons hdoes hall, fun l run => ?_⟩
    rw [List.flatten_cons, ← List.append_assoc]
    exact hrest _ (hrun l run)

/-- The handles to which any use of a handle leads. Others may change the archive at any time. -/
inductive Handle.LeadsTo (start : Handle σ) : Handle σ → Prop
  | start : LeadsTo start start
  | call {h h' : Handle σ} {c : Call} {answer : Answer} (before : LeadsTo start h)
      (call : h.call? c = some (answer, h')) : LeadsTo start h'
  | takeOver {s : Staged σ} (before : LeadsTo start (.staged s)) :
      LeadsTo start (.session s.toSession)
  | finalize {s : Session σ} (metadata : String) (before : LeadsTo start (.session s)) :
      LeadsTo start (.session (s.finalize metadata).2)
  | share {h : Handle σ} (a : σ) (before : LeadsTo start h) : LeadsTo start (h.withArchive a)

/-- The handles to which any use of a new registry or session leads. Others may change the archive
at any time. -/
inductive Reachable : Handle σ → Prop
  | registry (a : σ) : Reachable (.staged (.building (.ofArchive a)))
  | call {h h' : Handle σ} {c : Call} {answer : Answer} (before : Reachable h)
      (call : h.call? c = some (answer, h')) : Reachable h'
  | takeOver {s : Staged σ} (before : Reachable (.staged s)) : Reachable (.session s.toSession)
  | finalize {s : Session σ} (metadata : String) (before : Reachable (.session s)) :
      Reachable (.session (s.finalize metadata).2)
  | share {h : Handle σ} (a : σ) (before : Reachable h) : Reachable (h.withArchive a)

/-- What can be reached is what a new registry leads to. -/
theorem Reachable.leadsTo {h : Handle σ} (reachable : Reachable h) :
    ∃ a, Handle.LeadsTo (.staged (.building (.ofArchive a))) h := by
  induction reachable with
  | registry a => exact ⟨a, .start⟩
  | call _ hcall ih =>
    obtain ⟨a, leads⟩ := ih
    exact ⟨a, leads.call hcall⟩
  | takeOver _ ih =>
    obtain ⟨a, leads⟩ := ih
    exact ⟨a, leads.takeOver⟩
  | finalize metadata _ ih =>
    obtain ⟨a, leads⟩ := ih
    exact ⟨a, leads.finalize metadata⟩
  | share b _ ih =>
    obtain ⟨a, leads⟩ := ih
    exact ⟨a, leads.share b⟩

theorem Session.finalize_snd (s : Session σ) (metadata : String) :
    ∃ a, (s.finalize metadata).2 = .closed a := by
  cases s with
  | building r => exact ⟨_, rfl⟩
  | checked r => exact ⟨_, rfl⟩
  | closed a => exact ⟨a, rfl⟩

omit [Archive σ] in
theorem Session.registry_withArchive (s : Session σ) (a : σ) :
    (s.withArchive a).registry = s.registry.map fun r => r.withArchive a := by
  cases s <;> rfl

namespace Handle.LeadsTo

variable {start h : Handle σ}

/-- **What the start and every closed session has, and every effect and every change of the archive
preserves, is had by every handle to which the start leads.** -/
theorem induction {P : Session σ → Prop} (first : P start.toSession)
    (step : ∀ s e s', P s → s.Effect e s' → P s') (closed : ∀ a, P (.closed a))
    (share : ∀ s a, P s → P (s.withArchive a)) (leads : start.LeadsTo h) : P h.toSession := by
  induction leads with
  | start => exact first
  | call _ hcall ih => exact step _ _ _ ih (Session.effect (Handle.call_toSession hcall))
  | takeOver _ ih => exact ih
  | @finalize s metadata _ _ =>
    obtain ⟨a, ha⟩ := s.finalize_snd metadata
    exact ha ▸ closed a
  | @share h a _ ih =>
    rw [Handle.withArchive_toSession]
    exact share _ a ih

/-- **What the registry at the start has, and registering, adding nodes and changes of the archive
preserve, is had by every registry to which the start leads.** -/
theorem registry_induction {P : Registry σ → Prop}
    (first : ∀ r, start.toSession.registry = .ok r → P r)
    (register : ∀ r r' name schema, P r → r.register name schema = .ok r' → P r')
    (stages : ∀ (r r' : CheckedRegistry σ) collection ns, P r.toRegistry →
      r.Stages collection ns r' → P r'.toRegistry)
    (share : ∀ r a, P r → P (r.withArchive a)) (leads : start.LeadsTo h) {r : Registry σ}
    (hr : h.toSession.registry = .ok r) : P r := by
  refine induction (P := fun s => ∀ r, s.registry = .ok r → P r) first
    (fun s e s' ih step r hr => step.registry register stages ih hr) (fun a r hr => nomatch hr)
    (fun s a ih r hr => ?_) leads r hr
  rw [Session.registry_withArchive] at hr
  obtain ⟨r₀, hr₀, rfl⟩ := Outcome.map_eq_ok.mp hr
  exact share r₀ a (ih r₀ hr₀)

end Handle.LeadsTo

/-- **What every new and every closed session has, and every effect and every change of the archive
preserves, is had by every handle that can be reached.** -/
theorem Reachable.induction {P : Session σ → Prop} (first : ∀ a, P (.ofArchive a))
    (step : ∀ s e s', P s → s.Effect e s' → P s') (closed : ∀ a, P (.closed a))
    (share : ∀ s a, P s → P (s.withArchive a)) {h : Handle σ} (reachable : Reachable h) :
    P h.toSession := by
  obtain ⟨a, leads⟩ := reachable.leadsTo
  refine leads.induction (P := P) ?_ step closed share
  exact first a

/-- **What every new registry has, and registering, adding nodes and changes of the archive
preserve, is had by every registry that can be reached.** -/
theorem Reachable.registry_induction {P : Registry σ → Prop} (first : ∀ a, P (.ofArchive a))
    (register : ∀ r r' name schema, P r → r.register name schema = .ok r' → P r')
    (stages : ∀ (r r' : CheckedRegistry σ) collection ns, P r.toRegistry →
      r.Stages collection ns r' → P r'.toRegistry)
    (share : ∀ r a, P r → P (r.withArchive a)) {h : Handle σ} (reachable : Reachable h)
    {r : Registry σ} (hr : h.toSession.registry = .ok r) : P r := by
  obtain ⟨a, leads⟩ := reachable.leadsTo
  refine leads.registry_induction (fun r hr => ?_) register stages share hr
  cases hr
  exact first a

end CollectionArchive
