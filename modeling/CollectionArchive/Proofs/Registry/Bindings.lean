import CollectionArchive.Proofs.Registry.Storing

/-!
# What nodes keep

An assignment that fails leaves its node as it is, and one that succeeds puts a value where there
was none. There are two that succeed without doing anything.

* `Node.Gains`, `Node.Extends`: a node with one value more, and one with all that another has.
* `CheckedRegistry.Skips`: the assignments that succeed without doing anything.
* **`CheckedRegistry.assign_eq_ok`**: when an assignment succeeds, and how it leaves its node.
* `NodeCall`: the calls on a node of the caller, for any collections of any registries.
* **`node_of_assignments`**: what one call does to a node, and what any number of them leave of it.
-/

namespace CollectionArchive

/-! ## Nodes and more of them -/

namespace Node

/-- The node gets a value for a property that had none, and nothing else of it changes. -/
structure Gains (n : Node) (i : Identifier) (x : PropertyValue) (n' : Node) : Prop where
  free : n.has i = false
  bound : n'.get? i = some x
  others (j : Identifier) (other : j ≠ i) : n'.get? j = n.get? j
  title : n'.title = n.title
  coverImages : n'.coverImages = n.coverImages

/-- The second node has the title, the cover images and all values of the first. -/
structure Extends (n n' : Node) : Prop where
  title : n'.title = n.title
  coverImages : n'.coverImages = n.coverImages
  bound (i : Identifier) (x : PropertyValue) (before : n.get? i = some x) : n'.get? i = some x

variable {n n' n'' : Node} {i : Identifier} {x : PropertyValue}

theorem Extends.refl (n : Node) : n.Extends n :=
  ⟨rfl, rfl, fun _ _ h => h⟩

theorem Extends.trans (h : n.Extends n') (h' : n'.Extends n'') : n.Extends n'' where
  title := h'.title.trans h.title
  coverImages := h'.coverImages.trans h.coverImages
  bound i x before := h'.bound i x (h.bound i x before)

theorem gains_of_insert? (h : n.insert? i x = some n') : n.Gains i x n' := by
  obtain ⟨hfree, hget⟩ := insert?_eq_some h
  rw [insert?, hfree, if_neg Bool.false_ne_true] at h
  refine ⟨hfree, (hget i).trans (if_pos rfl), fun j other => ?_, ?_, ?_⟩
  · exact (hget j).trans (if_neg (Ne.symm other))
  · exact Option.some.inj h ▸ rfl
  · exact Option.some.inj h ▸ rfl

theorem Gains.has (h : n.Gains i x n') {j : Identifier} (other : j ≠ i) : n'.has j = n.has j :=
  congrArg Option.isSome (h.others j other)

theorem Gains.extends (h : n.Gains i x n') : n.Extends n' where
  title := h.title
  coverImages := h.coverImages
  bound j y before := by
    -- The property that gets a value had none before.
    have hother : j ≠ i := by
      rintro rfl
      exact absurd (h.free.symm.trans (has_of_get? before)) nofun
    rw [h.others j hother, before]

end Node

/-! ## Assignments that do nothing -/

namespace Assignment

variable {kinds : LinkKinds} {i : Identifier} {p : Property} {v : Input}

theorem selector_eq_none : selector kinds i v = .ok none ↔ v.toJson = .array [] := by
  rw [← items_eq_nil, selector]
  cases hitems : v.items with
  | nil => exact iff_of_true rfl rfl
  | cons item items =>
    refine iff_of_false (fun h => ?_) (List.cons_ne_nil _ _)
    obtain ⟨k, _, h⟩ := Outcome.bind_eq_ok.mp h
    obtain ⟨values, _, h⟩ := Outcome.bind_eq_ok.mp h
    cases hselector : PropertyValue.selector? k values with
    | none => rw [hselector] at h; cases h
    | some s => rw [hselector] at h; cases h

/-- Only links can be left without a value, and only if nothing is assigned to them. -/
theorem value_eq_none :
    value kinds i p v = .ok none ↔ p.kind = .link ∧ v.toJson = .array [] := by
  by_cases hlink : p.kind = .link
  · rw [and_iff_right hlink, ← @selector_eq_none kinds i v, value, hlink]
    rfl
  · rw [value_of_ne_link hlink, Outcome.map_eq_ok]
    refine iff_of_false ?_ fun h => hlink h.1
    rintro ⟨_, _, h⟩
    cases h

end Assignment

theorem Input.isNull_of_toJson {v : Input} {items : List Json.Value} (h : v.toJson = .array items) :
    v.isNull = false := by
  cases v with
  | null => cases h
  | json w =>
    obtain rfl : w = .array items := h
    rfl
  | typed x => rfl

namespace CheckedRegistry

variable {σ : Type} {r : CheckedRegistry σ} {collection : String} {rejectNull : Bool}
  {i : Identifier} {n n' : Node} {v : Input}

/-- The assignments that succeed without doing anything: of null, unless nulls are rejected, and of
no values to a link. -/
inductive Skips (r : CheckedRegistry σ) (collection : String) (rejectNull : Bool) (i : Identifier)
    (v : Input) : Prop
  | null (isNull : v.isNull = true) (allowed : rejectNull = false)
  | noItems {p : Property} (leaf : r.IsLeaf collection i p) (link : p.kind = .link)
    (empty : v.toJson = .array [])

theorem Skips.assign (h : r.Skips collection rejectNull i v) (n : Node) :
    r.assign collection rejectNull i n v = .ok n := by
  rw [CheckedRegistry.assign, Assignment.assign]
  cases h with
  | null isNull allowed => rw [if_pos isNull, allowed, if_neg Bool.false_ne_true]
  | @noItems p leaf link empty =>
    obtain ⟨schema, hschema, hleaf⟩ := leaf.leaf
    rw [Input.isNull_of_toJson empty, if_neg Bool.false_ne_true, hschema]
    refine Outcome.mapError_eq_ok.mpr (Outcome.bind_eq_ok.mpr ⟨p, ?_, ?_⟩)
    · exact Outcome.mapError_eq_ok.mpr (Schema.find_eq_ok.mpr ⟨hleaf, leaf.ident⟩)
    · exact Outcome.bind_eq_ok.mpr ⟨none, Assignment.value_eq_none.mpr ⟨link, empty⟩, rfl⟩

/-- **An assignment succeeds exactly if it has nothing to do or puts a value on the node.** -/
theorem assign_eq_ok : r.assign collection rejectNull i n v = .ok n' ↔
    (n' = n ∧ r.Skips collection rejectNull i v) ∨
      ∃ schema p x, Assignment.Stores r.schemata r.kinds collection i n v schema p x n' := by
  constructor
  · intro h
    rw [assign, Assignment.assign] at h
    split_ifs at h with hnull hreject
    · exact .inl ⟨(Except.ok.inj h).symm, .null hnull ((Bool.not_eq_true _).mp hreject)⟩
    · cases hschema : r.schemata.get? collection with
      | none => rw [hschema] at h; cases h
      | some schema =>
        rw [hschema] at h
        obtain ⟨p, hp, h⟩ := Outcome.bind_eq_ok.mp (Outcome.mapError_eq_ok.mp h)
        obtain ⟨hleaf, hident⟩ := Schema.find_eq_ok.mp (Outcome.mapError_eq_ok.mp hp)
        obtain ⟨found, hfound, h⟩ := Outcome.bind_eq_ok.mp h
        cases found with
        | none =>
          obtain ⟨hlink, hempty⟩ := Assignment.value_eq_none.mp hfound
          exact .inl ⟨(Outcome.pure_eq_ok.mp h).symm,
            .noItems ⟨⟨schema, hschema, hleaf⟩, hident⟩ hlink hempty⟩
        | some x =>
          simp only [ne_eq, ite_not] at h
          split_ifs at h with hfits
          exact .inr ⟨schema, p, x, (Bool.not_eq_true _).mp hnull, hschema, hleaf, hident, hfound,
            hfits, Outcome.elim_eq_ok.mp h⟩
  · rintro (⟨rfl, hskips⟩ | ⟨schema, p, x, hstores⟩)
    · exact hskips.assign n'
    · exact hstores.assign rejectNull

/-- What an assignment does to a node: nothing if it fails; else it puts the value for a leaf of the
collection on the node, or is one of those that do nothing. -/
inductive AssignsTo (r : CheckedRegistry σ) (collection : String) (rejectNull : Bool)
    (i : Identifier) (v : Input) (n : Node) : Answer × Node → Prop
  | failed (e : RegistryError) : AssignsTo r collection rejectNull i v n (.error e, n)
  | gained {p : Property} {x : PropertyValue} {n' : Node} (notNull : v.isNull = false)
    (leaf : r.IsLeaf collection i p) (value : Assignment.value r.kinds i p v = .ok (some x))
    (gains : n.Gains i x n') : AssignsTo r collection rejectNull i v n (.ok (), n')
  | skipped (skips : r.Skips collection rejectNull i v) :
    AssignsTo r collection rejectNull i v n (.ok (), n)

theorem AssignsTo.extends {out : Answer × Node} (h : r.AssignsTo collection rejectNull i v n out) :
    n.Extends out.2 := by
  cases h with
  | failed e => exact .refl n
  | gained _ _ _ gains => exact gains.extends
  | skipped => exact .refl n

end CheckedRegistry

/-! ## Calls on a node -/

/-- A call that assigns to a node of the caller, for any collection of any registry. A property is
named by its identifier, or by the text of it. -/
inductive NodeCall : Type 1 where
  | assign {σ : Type} (r : CheckedRegistry σ) (collection : String) (rejectNull : Bool)
    (property : Identifier) (v : Input)
  | assignText {σ : Type} (r : CheckedRegistry σ) (collection : String) (rejectNull : Bool)
    (property : String) (v : Input)
  | assignAll {σ : Type} (r : CheckedRegistry σ) (collection : String) (rejectNull : Bool)
    (values : List (String × Input))

namespace NodeCall

/-- The answer of a call that gives a node back, and the node as it is left. -/
def leave (n : Node) (outcome : Except RegistryError Node) : Answer × Node :=
  (.ofNode outcome, outcome.toOption.getD n)

/-- How a call ends, and how it leaves the node. -/
def run (n : Node) : NodeCall → Answer × Node
  | assign r collection rejectNull i v => leave n (r.assign collection rejectNull i n v)
  | assignText r collection rejectNull property v =>
    leave n (r.assignText collection rejectNull n property v)
  | assignAll r collection rejectNull values => r.assignAll collection rejectNull n values

/-- How several calls leave a node, whichever of them fail. -/
def runAll (n : Node) (calls : List NodeCall) : Node :=
  calls.foldl (fun n call => (run n call).2) n

variable {σ : Type} (r : CheckedRegistry σ) (collection : String) (rejectNull : Bool)

theorem assignsTo_assign (i : Identifier) (v : Input) (n : Node) :
    r.AssignsTo collection rejectNull i v n ((assign r collection rejectNull i v).run n) := by
  rw [run]
  cases h : r.assign collection rejectNull i n v with
  | error e => exact .failed e
  | ok n' =>
    rcases CheckedRegistry.assign_eq_ok.mp h with ⟨rfl, hskips⟩ | ⟨schema, p, x, hstores⟩
    · exact .skipped hskips
    · exact .gained hstores.notNull ⟨⟨schema, hstores.registered, hstores.leaf⟩, hstores.ident⟩
        hstores.value (Node.gains_of_insert? hstores.insert)

/-- A text is read first. What it names is assigned to as under its identifier. -/
theorem run_assignText (property : String) (v : Input) (n : Node) :
    (assignText r collection rejectNull property v).run n =
      match Identifier.parse property with
      | .error e => (.error (.identifier e), n)
      | .ok i => (assign r collection rejectNull i v).run n := by
  rw [run, CheckedRegistry.assignText, Assignment.assignText]
  cases Identifier.parse property <;> rfl

/-- A single assignment is a batch of one. -/
theorem assignAll_singleton (property : String) (v : Input) (n : Node) :
    r.assignAll collection rejectNull n [(property, v)] =
      (assignText r collection rejectNull property v).run n := by
  rw [run, CheckedRegistry.assignAll, Assignment.assignAll, CheckedRegistry.assignText]
  cases Assignment.assignText r.schemata r.kinds collection rejectNull n property v <;> rfl

theorem extends_assignText (property : String) (v : Input) (n : Node) :
    n.Extends ((assignText r collection rejectNull property v).run n).2 := by
  rw [run_assignText]
  cases Identifier.parse property with
  | error e => exact .refl n
  | ok i => exact (assignsTo_assign r collection rejectNull i v n).extends

/-- Also several assignments of which one fails keep what the node has. -/
theorem extends_assignAll (values : List (String × Input)) (n : Node) :
    n.Extends (r.assignAll collection rejectNull n values).2 := by
  induction values generalizing n with
  | nil => exact .refl n
  | cons e values ih =>
    obtain ⟨property, v⟩ := e
    have hfirst := extends_assignText r collection rejectNull property v n
    rw [run, CheckedRegistry.assignText] at hfirst
    rw [CheckedRegistry.assignAll, Assignment.assignAll]
    cases h : Assignment.assignText r.schemata r.kinds collection rejectNull n property v with
    | error e => exact .refl n
    | ok n' =>
      rw [h] at hfirst
      exact hfirst.trans (ih n')

/-- **A call keeps what a node has.** -/
theorem extends_run (call : NodeCall) (n : Node) : n.Extends (call.run n).2 := by
  cases call with
  | assign r collection rejectNull i v =>
    exact (assignsTo_assign r collection rejectNull i v n).extends
  | assignText r collection rejectNull property v =>
    exact extends_assignText r collection rejectNull property v n
  | assignAll r collection rejectNull values =>
    exact extends_assignAll r collection rejectNull values n

/-- **Any number of calls keep what a node has.** -/
theorem extends_runAll (calls : List NodeCall) (n : Node) : n.Extends (runAll n calls) := by
  induction calls generalizing n with
  | nil => exact .refl n
  | cons call calls ih => exact (extends_run call n).trans (ih _)

end NodeCall

/-- **What assignments do to a node.** One that fails leaves the node as it is. One that succeeds
puts one value on it, for its property, which had none, or it is of null where nulls are not
rejected, or of no values to a link. So a value that is once on a node stays there, whatever is
assigned to the node afterwards, for any collections of any registries. -/
theorem node_of_assignments :
    (∀ {σ : Type} (r : CheckedRegistry σ) (collection : String) (rejectNull : Bool)
        (i : Identifier) (v : Input) (n : Node),
      r.AssignsTo collection rejectNull i v n
        ((NodeCall.assign r collection rejectNull i v).run n)) ∧
    (∀ {σ : Type} (r : CheckedRegistry σ) (collection : String) (rejectNull : Bool)
        (property : String) (v : Input) (n : Node),
      r.assignAll collection rejectNull n [(property, v)] =
          (NodeCall.assignText r collection rejectNull property v).run n ∧
        (NodeCall.assignText r collection rejectNull property v).run n =
          match Identifier.parse property with
          | .error e => (.error (.identifier e), n)
          | .ok i => (NodeCall.assign r collection rejectNull i v).run n) ∧
    ∀ (calls : List NodeCall) (n : Node), n.Extends (NodeCall.runAll n calls) :=
  ⟨fun r => NodeCall.assignsTo_assign r,
    fun r collection rejectNull property v n =>
      ⟨NodeCall.assignAll_singleton r collection rejectNull property v n,
        NodeCall.run_assignText r collection rejectNull property v n⟩,
    NodeCall.extends_runAll⟩

end CollectionArchive
