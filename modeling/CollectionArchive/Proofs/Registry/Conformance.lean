import CollectionArchive.Proofs.Registry.Assignment
import CollectionArchive.Proofs.Registry.Resolution

/-!
# Nodes and the schemata of their collections

Assigning to a node names a collection, and adding the node names one again. Only the first is
checked against the schema, so that nodes conform to the schema of their collection as far as the
schemata agree for which their values were assigned.

* `Node.Conforms`: the schema has the properties of a node and expects what it holds under them.
* `Node.Assigned`: the schemata for which the values of a node were assigned. There are such for
  every node to which only assignments gave values: `Node.Made.exists_assigned`.
* `Run.expects`: what the schema of a collection expects does not change during a run.
* **`conforms_of_run`**: nodes whose values were assigned for their own collection conform.
* **`conforms_of_reachable`**: when nodes conform that were added to a collection;
  `Reachable.exists_conforms_iff`: for every node that can have been added.
-/

namespace CollectionArchive

variable {σ : Type}

namespace Node

/-- The schema has every property of the node and expects what the node holds under it. -/
def Conforms (n : Node) (s : Schema) : Prop :=
  ∀ i x, n.get? i = some x → s.Expects i x.assignment

/-- A node whose values were put on it by assignments: those for which schema and under which
identifier, the last one first. -/
inductive Assigned : Node → List (Schema × Identifier) → Prop
  | new (title : String) (coverImages : List String) : Assigned (ofTitle title coverImages) []
  /-- An assignment puts a value where there was none. -/
  | assign {schemata : Schemata} {kinds : LinkKinds} {collection : String} {rejectNull : Bool}
      {i : Identifier} {n n' : Node} {v : Input} {schema : Schema} {l : List (Schema × Identifier)}
      (before : Assigned n l) (registered : schemata.get? collection = some schema)
      (free : n.has i = false) (stored : n'.has i = true)
      (call : Assignment.assign schemata kinds collection rejectNull i n v = .ok n') :
      Assigned n' ((schema, i) :: l)

variable {n n' : Node} {l : List (Schema × Identifier)}

/-- Every assignment leads to a node whose values were put on it by assignments. -/
theorem Assigned.exists_assign (h : n.Assigned l) {schemata : Schemata} {kinds : LinkKinds}
    {collection : String} {rejectNull : Bool} {i : Identifier} {v : Input}
    (call : Assignment.assign schemata kinds collection rejectNull i n v = .ok n') :
    n'.Assigned l ∨ ∃ schema, schemata.get? collection = some schema ∧
      n'.Assigned ((schema, i) :: l) := by
  rcases Assignment.assign_cases call with rfl | ⟨schema, p, x, hstores⟩
  · exact .inl h
  · obtain ⟨hfree, hget⟩ := insert?_eq_some hstores.insert
    have hstored : n'.has i = true := has_of_get? ((hget i).trans (if_pos rfl))
    exact .inr ⟨schema, hstores.registered, .assign h hstores.registered hfree hstored call⟩

/-- Also several assignments of which one fails lead to such a node. -/
theorem Assigned.exists_assignAll (h : n.Assigned l) (schemata : Schemata) (kinds : LinkKinds)
    (collection : String) (rejectNull : Bool) (values : List (String × Input)) : ∃ l',
      (Assignment.assignAll schemata kinds collection rejectNull n values).2.Assigned l' := by
  induction values generalizing n l with
  | nil => exact ⟨l, h⟩
  | cons e values ih =>
    obtain ⟨property, v⟩ := e
    rw [Assignment.assignAll]
    cases hcall : Assignment.assignText schemata kinds collection rejectNull n property v with
    | error e => exact ⟨l, h⟩
    | ok n' =>
      obtain ⟨i, _, hassign⟩ := Outcome.bind_eq_ok.mp hcall
      rcases h.exists_assign hassign with h' | ⟨schema, _, h'⟩
      · exact ih h'
      · exact ih h'

/-- A node that was made without values, and on which registries put values since, one by one or
several at once, of which one may have failed. -/
inductive Made : Node → Prop
  | new (title : String) (coverImages : List String) : Made (ofTitle title coverImages)
  | assign {schemata : Schemata} {kinds : LinkKinds} {collection : String} {rejectNull : Bool}
      {i : Identifier} {n n' : Node} {v : Input} (before : Made n)
      (call : Assignment.assign schemata kinds collection rejectNull i n v = .ok n') : Made n'
  | assignAll {n : Node} (before : Made n) (schemata : Schemata) (kinds : LinkKinds)
      (collection : String) (rejectNull : Bool) (values : List (String × Input)) :
      Made (Assignment.assignAll schemata kinds collection rejectNull n values).2

/-- **The values of every node that was made so were put on it for schemata.** -/
theorem Made.exists_assigned (h : n.Made) : ∃ l, n.Assigned l := by
  induction h with
  | new title coverImages => exact ⟨[], .new title coverImages⟩
  | assign _ call ih =>
    obtain ⟨l, assigned⟩ := ih
    rcases assigned.exists_assign call with h | ⟨schema, _, h⟩
    · exact ⟨l, h⟩
    · exact ⟨_, h⟩
  | assignAll _ schemata kinds collection rejectNull values ih =>
    obtain ⟨l, assigned⟩ := ih
    exact assigned.exists_assignAll schemata kinds collection rejectNull values

/-! ## Conforming to a schema -/

/-- What was assigned for a schema is on the node as the schema expects it. -/
theorem Assigned.expects (h : n.Assigned l) {e : Schema × Identifier} (he : e ∈ l) :
    ∃ x, n.get? e.2 = some x ∧ e.1.Expects e.2 x.assignment := by
  induction h with
  | new => exact absurd he List.not_mem_nil
  | @assign _ _ _ _ i n n' _ schema _ _ registered free stored call ih =>
    -- A node that stays as it is would have the property and not have it.
    rcases Assignment.assign_cases call with rfl | ⟨schema', p, x, hstores⟩
    · exact absurd (free.symm.trans stored) nofun
    · obtain rfl := Option.some.inj (registered.symm.trans hstores.registered)
      have hget := (insert?_eq_some hstores.insert).2
      rcases List.mem_cons.mp he with rfl | he
      · exact ⟨x, by rw [hget, if_pos rfl], p, hstores.leaf, hstores.ident, hstores.fits.symm⟩
      · obtain ⟨y, hy, hexpects⟩ := ih he
        refine ⟨y, ?_, hexpects⟩
        rw [hget, if_neg, hy]
        rintro rfl
        exact absurd (free.symm.trans (has_of_get? hy)) nofun

theorem Assigned.exists_mem (h : n.Assigned l) {i : Identifier} {x : PropertyValue}
    (hx : n.get? i = some x) : ∃ schema, (schema, i) ∈ l := by
  induction h with
  | new => cases hx
  | @assign _ _ _ _ j n n' _ schema _ _ _ free stored call ih =>
    rcases Assignment.assign_cases call with rfl | ⟨schema', p, y, hstores⟩
    · exact absurd (free.symm.trans stored) nofun
    · by_cases hj : j = i
      · exact ⟨schema, hj ▸ List.mem_cons_self⟩
      · rw [(insert?_eq_some hstores.insert).2, if_neg hj] at hx
        obtain ⟨schema'', hmem⟩ := ih hx
        exact ⟨schema'', List.mem_cons_of_mem _ hmem⟩

/-- **A node conforms to a schema exactly if the schema expects the same, under each of the node's
properties, as the schema for which the property was assigned.** -/
theorem Assigned.conforms_iff (h : n.Assigned l) (s : Schema) :
    n.Conforms s ↔ ∀ e ∈ l, ∃ a, e.1.Expects e.2 a ∧ s.Expects e.2 a := by
  constructor
  · intro hconforms e he
    obtain ⟨x, hx, hexpects⟩ := h.expects he
    exact ⟨x.assignment, hexpects, hconforms _ x hx⟩
  · intro hagree i x hx
    obtain ⟨schema, hmem⟩ := h.exists_mem hx
    obtain ⟨y, hy, hexpects⟩ := h.expects hmem
    obtain rfl := Option.some.inj (hx.symm.trans hy)
    obtain ⟨a, ha, hs⟩ := hagree _ hmem
    rwa [ha.unique hexpects] at hs

end Node

/-! ## Late registrations -/

/-- A schema is known for the collection, and it expects the same as `s`. -/
def Registry.Keeps (r : Registry σ) (collection : String) (s : Schema) : Prop :=
  ∃ s', r.schemata.get? collection = some s' ∧ ∀ i a, s.Expects i a ↔ s'.Expects i a

theorem Registry.Keeps.register [Archive σ] {r r' : Registry σ} {name collection : String}
    {schema s : Schema} (h : r.Keeps collection s) (call : r.register name schema = .ok r') :
    r'.Keeps collection s := by
  obtain ⟨s', hs', hexpects⟩ := h
  have hregisters := Registry.register_eq_ok call
  rw [Registry.Keeps, hregisters.get?_schemata]
  by_cases hname : name = collection
  · subst hname
    refine ⟨schema, if_pos rfl, fun i a => ?_⟩
    rw [hexpects, Schema.expects_of_equal (hregisters.agrees hs')]
  · exact ⟨s', (if_neg hname).trans hs', hexpects⟩

theorem CheckedRegistry.Stages.keeps {r r' : CheckedRegistry σ} {c collection : String}
    {ns : List Node} {s : Schema} (h : r.Stages c ns r') (hr : r.Keeps collection s) :
    r'.Keeps collection s := by
  rw [Registry.Keeps, h.schemata]
  exact hr

/-- **What the schema of a collection expects does not change during a run**, although the schema
can be registered again. -/
theorem Run.expects [Archive σ] {start h : Handle σ} {l : Log} (run : Run start l h)
    {r r' : Registry σ} (hr : start.toSession.registry = .ok r)
    (hr' : h.toSession.registry = .ok r') {collection : String} {s : Schema}
    (hs : r.schemata.get? collection = some s) : r'.Keeps collection s := by
  refine Run.induction (P := fun _ t => ∀ r, t.registry = .ok r → r.Keeps collection s)
    (fun r₀ hr₀ => ?_) (fun _ _ _ _ ih step _ hr => step.registry
      (fun _ _ _ _ hr call => hr.register call) (fun _ _ _ _ hr stages => stages.keeps hr) ih hr)
    run r' hr'
  obtain rfl := Except.ok.inj (hr.symm.trans hr₀)
  exact ⟨s, hs, fun _ _ => Iff.rfl⟩

/-- **Nodes whose values were all assigned for their own collection conform to its schema**,
whatever was registered meanwhile. -/
theorem conforms_of_run [Archive σ] {h : Handle σ} {r : Registry σ}
    (hr : h.toSession.registry = .ok r) {collection : String} {s : Schema}
    (registered : r.schemata.get? collection = some s) {n : Node} {l : List (Schema × Identifier)}
    (assigned : n.Assigned l)
    (own : ∀ e ∈ l, ∃ (h₀ : Handle σ) (r₀ : Registry σ) (log : Log), Run h₀ log h ∧
      h₀.toSession.registry = .ok r₀ ∧ r₀.schemata.get? collection = some e.1) :
    n.Conforms s := by
  refine (assigned.conforms_iff s).mpr fun e he => ?_
  obtain ⟨h₀, r₀, log, run, hr₀, hs₀⟩ := own e he
  obtain ⟨s', hs', hexpects⟩ := run.expects hr₀ hr hs₀
  obtain rfl := Option.some.inj (registered.symm.trans hs')
  obtain ⟨x, _, hx⟩ := assigned.expects he
  exact ⟨x.assignment, hx, (hexpects _ _).mp hx⟩

/-! ## Nodes that wait -/

/-- Nodes wait only for collections that are registered. -/
def Registry.WaitsForKnown (r : Registry σ) : Prop :=
  ∀ c ns, r.staged.get? c = some ns → ∃ s, r.schemata.get? c = some s

theorem Registry.WaitsForKnown.register [Archive σ] {r r' : Registry σ} {name : String}
    {schema : Schema} (h : r.WaitsForKnown) (call : r.register name schema = .ok r') :
    r'.WaitsForKnown := by
  have hregisters := Registry.register_eq_ok call
  intro c ns hc
  rw [hregisters.get?_schemata]
  split_ifs with hname
  · exact ⟨schema, rfl⟩
  · exact h c ns (hregisters.staged ▸ hc)

theorem CheckedRegistry.Stages.waitsForKnown {r r' : CheckedRegistry σ} {collection : String}
    {ns : List Node} (h : r.Stages collection ns r') (hr : r.WaitsForKnown) :
    r'.WaitsForKnown := by
  intro c ms hc
  rw [h.schemata]
  rw [h.staged] at hc
  by_cases hname : collection = c
  · exact hname ▸ Option.isSome_iff_exists.mp h.known
  · exact hr c ms (by rwa [if_neg hname] at hc)

theorem Reachable.waitsForKnown [Archive σ] {h : Handle σ} (reachable : Reachable h)
    {r : Registry σ} (hr : h.toSession.registry = .ok r) : r.WaitsForKnown :=
  Reachable.registry_induction (fun _ _ _ hc => nomatch hc) (fun _ _ _ _ h call => h.register call)
    (fun _ _ _ _ h stages => stages.waitsForKnown h) (fun _ _ h => h) reachable hr

/-! ## A node that waits -/

/-- A collection with one property, and one without any. -/
def Schemata.split : Schemata :=
  [("a", .single .zero ⟨.boolean, rfl⟩ none), ("b", .empty)]

theorem Node.exists_assigned : ∃ (n : Node) (x : PropertyValue),
    n.Assigned [(.single .zero ⟨.boolean, rfl⟩ none, .zero)] ∧ n.get? .zero = some x := by
  obtain ⟨n, hinsert⟩ := Node.exists_insert? (n := .ofTitle "" []) (i := .zero) rfl (.boolean true)
  have hget : n.get? .zero = some (.boolean true) := by
    rw [(Node.insert?_eq_some hinsert).2, if_pos rfl]
  have hstores : Assignment.Stores .split [] "a" .zero (.ofTitle "" [])
      (.json (.bool true)) _ _ (.boolean true) n :=
    ⟨rfl, rfl, List.mem_cons_self, rfl, rfl, rfl, hinsert⟩
  exact ⟨n, _, .assign (.new "" []) hstores.registered rfl (Node.has_of_get? hget)
    (hstores.assign false), hget⟩

theorem Reachable.exists_staged (collection : String)
    (hknown : Table.has Schemata.split collection = true) (n : Node) :
    ∃ r : CheckedRegistry MemoryArchive, Reachable (.session (.checked r)) ∧
      r.schemata = .split ∧ r.staged.get? collection = some [n] := by
  obtain ⟨r, reachable, hschemata, _, hstaged⟩ := Reachable.exists_checked
    MemoryArchive.isOpen_empty (by decide) (by decide) (show LinkKinds.ofSchemata .split = .ok [] by
      rw [LinkKinds.ofSchemata, Schemata.split, Schemata.outboundLinks_cons,
        Schemata.outboundLinks_cons, Schema.outboundLinks_single, Schema.outboundLinks_empty]
      rfl)
  obtain ⟨r', hadd, hstages⟩ :=
    CheckedRegistry.addNode_of_known (r := r) (hschemata ▸ hknown) n
  have hcall : (Session.checked r).call (.addNode collection n) = (.ok (), .checked r') := by
    rw [Session.call, Session.addNode]
    simp only [Session.checkedRegistry, hadd]
  refine ⟨r', .call reachable (Handle.call?_session hcall), hstages.schemata.trans hschemata, ?_⟩
  rw [hstages.staged, if_pos rfl, hstaged]
  rfl

/-! ## When nodes conform -/

/-- **When nodes conform to the schema of the collection to which they were added.** Whatever
happened to a registry or session, a collection for which nodes wait has a schema, and those nodes
conform to it for which this schema expects the same, under each property, as the schema for which
the property was assigned. -/
theorem conforms_of_reachable [Archive σ] {h : Handle σ} {r : Registry σ} (reachable : Reachable h)
    (hr : h.toSession.registry = .ok r) {collection : String} {ns : List Node}
    (staged : r.staged.get? collection = some ns) :
    ∃ s, r.schemata.get? collection = some s ∧ ∀ n ∈ ns, ∀ l, n.Assigned l →
      (n.Conforms s ↔ ∀ e ∈ l, ∃ a, e.1.Expects e.2 a ∧ s.Expects e.2 a) := by
  obtain ⟨s, hs⟩ := reachable.waitsForKnown hr collection ns staged
  exact ⟨s, hs, fun _ _ _ assigned => assigned.conforms_iff s⟩

theorem conforms_of_reachable_split : ∃ (r : CheckedRegistry MemoryArchive) (n : Node) (s : Schema),
    Reachable (.session (.checked r)) ∧ r.staged.get? "a" = some [n] ∧
      r.schemata.get? "a" = some s ∧ n.has .zero = true ∧ n.Conforms s := by
  obtain ⟨n, x, assigned, hx⟩ := Node.exists_assigned
  obtain ⟨r, reachable, hschemata, hstaged⟩ := Reachable.exists_staged "a" rfl n
  obtain ⟨s, hs, hiff⟩ := conforms_of_reachable reachable rfl hstaged
  have hsplit : r.schemata.get? "a" = some (.single .zero ⟨.boolean, rfl⟩ none) := by
    rw [hschemata]
    rfl
  obtain rfl := Option.some.inj (hs.symm.trans hsplit)
  refine ⟨r, n, _, reachable, hstaged, hs, Node.has_of_get? hx, ?_⟩
  refine (hiff n List.mem_cons_self _ assigned).mpr fun e he => ?_
  obtain rfl := List.mem_singleton.mp he
  exact ⟨_, ⟨_, List.mem_cons_self, rfl, rfl⟩, ⟨_, List.mem_cons_self, rfl, rfl⟩⟩

/-- **Nodes need not conform to the schema of the collection to which they were added**: a value
that was assigned for another collection is taken along. -/
theorem not_conforms_of_reachable :
    ¬ ∀ (h : Handle MemoryArchive) (r : Registry MemoryArchive) (collection : String)
        (ns : List Node) (s : Schema) (n : Node) (l : List (Schema × Identifier)),
      Reachable h → h.toSession.registry = .ok r → r.staged.get? collection = some ns →
        r.schemata.get? collection = some s → n ∈ ns → n.Assigned l → n.Conforms s := by
  intro claim
  obtain ⟨n, x, assigned, hx⟩ := Node.exists_assigned
  obtain ⟨r, reachable, hschemata, hstaged⟩ := Reachable.exists_staged "b" rfl n
  have hconforms := claim _ r.toRegistry "b" [n] .empty n _ reachable rfl hstaged
    (by rw [hschemata]; rfl) List.mem_cons_self assigned
  obtain ⟨p, hp, _⟩ := hconforms _ x hx
  cases hp

/-- For every node that was made and added there are schemata that tell whether it conforms. -/
theorem Reachable.exists_conforms_iff [Archive σ] {h : Handle σ} {r : Registry σ}
    (reachable : Reachable h) (hr : h.toSession.registry = .ok r) {collection : String}
    {ns : List Node} (staged : r.staged.get? collection = some ns) :
    ∃ s, r.schemata.get? collection = some s ∧ ∀ n ∈ ns, n.Made → ∃ l, n.Assigned l ∧
      (n.Conforms s ↔ ∀ e ∈ l, ∃ a, e.1.Expects e.2 a ∧ s.Expects e.2 a) := by
  obtain ⟨s, hs⟩ := reachable.waitsForKnown hr collection ns staged
  refine ⟨s, hs, fun n _ made => ?_⟩
  obtain ⟨l, assigned⟩ := made.exists_assigned
  exact ⟨l, assigned, assigned.conforms_iff s⟩

end CollectionArchive
