import CollectionArchive.Proofs.Archive.Listing
import CollectionArchive.Proofs.Identifier.Order
import CollectionArchive.Proofs.Node.Text
import CollectionArchive.Proofs.Registry.Batches

/-!
# The keys of nodes

A node keeps its values in the order of their identifiers, which is the order of the keys in its
text. So nothing in a text tells in which order the values were assigned.

* `Node.eq_of_get?`: a node is determined by its title, its cover images and its values.
* `Node.insert?_comm`, `CheckedRegistry.assign_comm`: two assignments can be swapped.
* `IsBatch.perm`: what can be swapped can be done in any order.
* `Node.pairwise_keys`: the keys in a text ascend.
* **`json_of_bindings`**: what the text of a node depends on, and what it does not.
-/

namespace CollectionArchive

namespace Node

/-! ## What determines a node -/

variable {n n' m m' : Node} {i j : Identifier} {x y : PropertyValue}

/-- **A node is determined by its title, its cover images and its values.** -/
theorem eq_of_get? (title : n.title = n'.title) (coverImages : n.coverImages = n'.coverImages)
    (bound : ∀ i, n.get? i = n'.get? i) : n = n' := by
  have hproperties : n.properties = n'.properties :=
    Table.eq_of_get? n.ascending n'.ascending bound
  rw [mk.injEq]
  exact ⟨title, coverImages, hproperties⟩

/-- Values for two properties can be put on a node in either order. -/
theorem insert?_comm (h : n.insert? i x = some m) (h' : m.insert? j y = some m') :
    ∃ m₁, n.insert? j y = some m₁ ∧ m₁.insert? i x = some m' := by
  have hgains := gains_of_insert? h
  have hgains' := gains_of_insert? h'
  have hne : j ≠ i := by
    rintro rfl
    exact absurd (hgains'.free.symm.trans (has_of_get? hgains.bound)) nofun
  have hfree : n.has j = false := by
    rw [← hgains.has hne]
    exact hgains'.free
  obtain ⟨m₁, hfirst⟩ := exists_insert? hfree y
  have hgains₁ := gains_of_insert? hfirst
  have hfree₁ : m₁.has i = false := by
    rw [hgains₁.has hne.symm]
    exact hgains.free
  obtain ⟨m₂, hsecond⟩ := exists_insert? hfree₁ x
  have hgains₂ := gains_of_insert? hsecond
  have hsame : m₂ = m' := by
    apply eq_of_get?
    · rw [hgains₂.title, hgains₁.title, hgains'.title, hgains.title]
    · rw [hgains₂.coverImages, hgains₁.coverImages, hgains'.coverImages, hgains.coverImages]
    · intro k
      rw [(insert?_eq_some hsecond).2, (insert?_eq_some hfirst).2, (insert?_eq_some h').2,
        (insert?_eq_some h).2]
      by_cases hk : i = k
      · subst hk
        rw [if_pos rfl, if_neg hne, if_pos rfl]
      · rw [if_neg hk, if_neg hk]
  exact ⟨m₁, hfirst, hsame ▸ hsecond⟩

/-! ## Keys -/

/-- The properties of a node in JSON, under the identifiers as they are written. -/
def bindings (n : Node) : List (String × Json.Value) :=
  n.properties.map fun e => (e.1.text, e.2.toJson)

theorem mem_bindings (n : Node) (e : String × Json.Value) :
    e ∈ n.bindings ↔ ∃ i x, n.get? i = some x ∧ e = (i.text, x.toJson) := by
  rw [bindings, List.mem_map]
  constructor
  · rintro ⟨⟨i, x⟩, hmem, rfl⟩
    exact ⟨i, x, Table.get?_of_mem n.ascending hmem, rfl⟩
  · rintro ⟨i, x, hget, rfl⟩
    exact ⟨(i, x), Table.mem_of_get? hget, rfl⟩

/-- The keys in the text of a node ascend, since its identifiers do. -/
theorem pairwise_keys (n : Node) : (n.bindings.map Prod.fst).Pairwise fun s t =>
    (Bytes.ofText s).precedes (Bytes.ofText t) = true := by
  rw [bindings, List.map_map]
  refine List.pairwise_map.mpr (n.ascending.imp fun {a b} hab => ?_)
  rw [Identifier.precedes_eq] at hab
  exact hab

end Node

/-! ## Orders of assignment -/

/-- If any two steps that succeed can be swapped, a batch that succeeds can be done in any order. -/
theorem IsBatch.perm {s α ε : Type} {step : s → α → Except ε s}
    {run : s → List α → Except ε Unit × s} (batch : IsBatch (Steps.keeping step) run)
    (swap : ∀ {x y z a b}, step x a = .ok y → step y b = .ok z →
      ∃ y', step x b = .ok y' ∧ step y' a = .ok z)
    {as bs : List α} (perm : as.Perm bs) {x z : s} (h : run x as = (.ok (), z)) :
    run x bs = (.ok (), z) := by
  rw [batch.succeeds] at h ⊢
  induction perm generalizing x with
  | nil => exact h
  | cons a _ ih =>
    obtain ⟨y, hy, h⟩ := Outcome.bind_eq_ok.mp h
    exact Outcome.bind_eq_ok.mpr ⟨y, hy, ih h⟩
  | swap a b rest =>
    obtain ⟨y, hy, h⟩ := Outcome.bind_eq_ok.mp h
    obtain ⟨z', hz, h⟩ := Outcome.bind_eq_ok.mp h
    obtain ⟨y', hy', hz'⟩ := swap hy hz
    exact Outcome.bind_eq_ok.mpr ⟨y', hy', Outcome.bind_eq_ok.mpr ⟨z', hz', h⟩⟩
  | trans _ _ ih ih' => exact ih' (ih h)

namespace CheckedRegistry

variable {σ : Type} {r : CheckedRegistry σ} {collection : String} {rejectNull : Bool}
  {n m m' : Node}

/-- What an assignment puts on a node does not depend on the node, so it can come later. -/
theorem assign_comm {i j : Identifier} {v w : Input}
    (h : r.assign collection rejectNull i n v = .ok m)
    (h' : r.assign collection rejectNull j m w = .ok m') :
    ∃ m₁, r.assign collection rejectNull j n w = .ok m₁ ∧
      r.assign collection rejectNull i m₁ v = .ok m' := by
  rcases assign_eq_ok.mp h with ⟨rfl, hskips⟩ | ⟨schema, p, x, hstores⟩
  · exact ⟨m', h', hskips.assign m'⟩
  · rcases assign_eq_ok.mp h' with ⟨rfl, hskips⟩ | ⟨schema', q, y, hstores'⟩
    · exact ⟨n, hskips.assign n, h⟩
    · obtain ⟨m₁, hfirst, hsecond⟩ := Node.insert?_comm hstores.insert hstores'.insert
      have hother : Assignment.Stores r.schemata r.kinds collection j n w schema' q y m₁ :=
        { hstores' with insert := hfirst }
      have hlater : Assignment.Stores r.schemata r.kinds collection i m₁ v schema p x m' :=
        { hstores with insert := hsecond }
      exact ⟨m₁, hother.assign rejectNull, hlater.assign rejectNull⟩

theorem assignText_comm {a b : String × Input}
    (h : r.assignText collection rejectNull n a.1 a.2 = .ok m)
    (h' : r.assignText collection rejectNull m b.1 b.2 = .ok m') :
    ∃ m₁, r.assignText collection rejectNull n b.1 b.2 = .ok m₁ ∧
      r.assignText collection rejectNull m₁ a.1 a.2 = .ok m' := by
  obtain ⟨i, hi, h⟩ := Outcome.bind_eq_ok.mp h
  obtain ⟨j, hj, h'⟩ := Outcome.bind_eq_ok.mp h'
  obtain ⟨m₁, hfirst, hsecond⟩ := assign_comm h h'
  exact ⟨m₁, Outcome.bind_eq_ok.mpr ⟨j, hj, hfirst⟩, Outcome.bind_eq_ok.mpr ⟨i, hi, hsecond⟩⟩

/-- **Assignments that succeed make the same node in any order.** -/
theorem assignAll_perm {values values' : List (String × Input)} (perm : values.Perm values')
    (h : r.assignAll collection rejectNull n values = (.ok (), m)) :
    r.assignAll collection rejectNull n values' = (.ok (), m) :=
  (r.isBatch_assignAll collection rejectNull).perm assignText_comm perm h

end CheckedRegistry

/-- **The text of a node depends on its title, its cover images and its values only.** Identifiers
are in the order of the bytes of their texts. So the keys of the properties ascend in the text of
any node, each value stands there once, and the order in which the values were assigned makes no
difference. -/
theorem json_of_bindings :
    (∀ a b : Identifier,
      (Ordered.precedes a b = true ↔
        (Bytes.ofText a.text).precedes (Bytes.ofText b.text) = true) ∧
      (a = b ↔ a.text = b.text)) ∧
    (∀ n : Node, ∃ properties : List (String × Json.Value),
      n.json = (Json.Value.object (("title", .text n.title) ::
        ("coverImages", .texts n.coverImages) :: properties)).compact ∧
      (∀ e, e ∈ properties ↔ ∃ i x, n.get? i = some x ∧ e = (i.text, x.toJson)) ∧
      (properties.map Prod.fst).Pairwise fun s t =>
        (Bytes.ofText s).precedes (Bytes.ofText t) = true) ∧
    (∀ n n' : Node, n.title = n'.title → n.coverImages = n'.coverImages →
      (∀ i, n.get? i = n'.get? i) → n.json = n'.json) ∧
    ∀ {σ : Type} (r : CheckedRegistry σ) (collection : String) (rejectNull : Bool) (n m : Node)
        (values values' : List (String × Input)), values.Perm values' →
      r.assignAll collection rejectNull n values = (.ok (), m) →
        r.assignAll collection rejectNull n values' = (.ok (), m) := by
  refine ⟨fun a b => ⟨?_, Identifier.text_inj.symm⟩,
    fun n => ⟨n.bindings, n.json_eq, n.mem_bindings, n.pairwise_keys⟩,
    fun n n' title coverImages bound => ?_,
    fun r collection rejectNull n m values values' => CheckedRegistry.assignAll_perm⟩
  · rw [Identifier.precedes_eq]
  · rw [Node.eq_of_get? title coverImages bound]

/-- The identifier made from sixteen bytes of ones. -/
def Identifier.ones : Identifier :=
  ⟨⟨stamp (List.replicate 16 0xff), rfl⟩, rfl, rfl⟩

/-- The schema of two floats. -/
def Schema.floats : Schema :=
  { empty with
    main := .boxed "" [.leaf "" .ones .float none false, .leaf "" .zero .float none false]
    table := [(.zero, .leaf "" .zero .float none false), (.ones, .leaf "" .ones .float none false)]
    main_isBox := rfl
    addAll_main := by rw [Leaves.toList_walk]; rfl }

/-- Two floats are assigned in either order. -/
theorem json_of_bindings_floats : ∃ (r : CheckedRegistry MemoryArchive) (m : Node),
    Reachable (.session (.checked r)) ∧
      m.get? .zero = some .zero ∧ m.get? .ones = some .zero ∧
      r.assignAll "a" false (.ofTitle "" [])
        [(Identifier.zero.text, .typed .zero), (Identifier.ones.text, .typed .zero)] =
          (.ok (), m) ∧
      r.assignAll "a" false (.ofTitle "" [])
        [(Identifier.ones.text, .typed .zero), (Identifier.zero.text, .typed .zero)] =
          (.ok (), m) := by
  have hresolve : LinkKinds.ofSchemata [("a", Schema.floats)] = .ok [] := by
    rw [LinkKinds.ofSchemata, Schemata.outboundLinks_cons, Schema.outboundLinks,
      Leaves.toList_walk]
    rfl
  obtain ⟨r, reachable, hschemata, -⟩ := Reachable.exists_checked MemoryArchive.isOpen_empty
    (List.pairwise_singleton _ _) (by decide) hresolve
  have hleaf : ∀ i ∈ [Identifier.ones, .zero],
      r.IsLeaf "a" i (.leaf "" i .float none false) := by
    intro i hi
    refine ⟨⟨.floats, by rw [hschemata]; rfl, ?_⟩, rfl⟩
    exact List.mem_map_of_mem (f := fun i => Property.leaf "" i .float none false) hi
  have hvalue (i : Identifier) : Assignment.value r.kinds i (.leaf "" i .float none false)
      (.typed .zero) = .ok (some .zero) := Assignment.value_typed rfl
  obtain ⟨n, hfirst, hinsert⟩ := (hleaf .zero (by simp)).exists_assign (n := .ofTitle "" []) rfl
    (hvalue .zero) false rfl
  have hgains := Node.gains_of_insert? hinsert
  have hne : Identifier.ones ≠ .zero := by decide
  have hfree : n.has .ones = false := hgains.has hne
  obtain ⟨m, hsecond, hinsert'⟩ := (hleaf .ones (by simp)).exists_assign rfl (hvalue .ones) false
    hfree
  have hgains' := Node.gains_of_insert? hinsert'
  obtain ⟨-, -, -, hperm⟩ := json_of_bindings
  have hboth : r.assignAll "a" false (.ofTitle "" [])
      [(Identifier.zero.text, .typed .zero), (Identifier.ones.text, .typed .zero)] =
        (.ok (), m) := by
    rw [(r.isBatch_assignAll "a" false).succeeds]
    refine Outcome.bind_eq_ok.mpr ⟨n, (r.assignText_text ..).trans hfirst, ?_⟩
    exact Outcome.bind_eq_ok.mpr ⟨m, (r.assignText_text ..).trans hsecond, rfl⟩
  refine ⟨r, m, reachable, ?_, hgains'.bound, hboth, ?_⟩
  · rw [hgains'.others .zero hne.symm]
    exact hgains.bound
  · exact hperm r "a" false _ m _ _ (.swap _ _ []) hboth

end CollectionArchive
