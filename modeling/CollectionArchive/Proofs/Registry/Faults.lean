import CollectionArchive.Proofs.Registry.Bindings
import CollectionArchive.Proofs.Registry.Selectors
import CollectionArchive.Proofs.Value.Casting

/-!
# Why assignments fail

An assignment guards against more than can go wrong. What is cast for a property always fits it, so
that a value never has the wrong type. And schemata that are built and links that are resolved leave
no property to which nothing could be cast.

* `Assignment.Misses`: why there is no value for a property; **`Assignment.value_eq_error`**.
* `CheckedRegistry.AssignFails`: why an assignment fails; **`CheckedRegistry.assign_eq_error`**.
* `CheckedRegistry.IsLeaf.isOfValue`: in a registry whose links are resolved, casts fail because of
  the value.
* **`faults_of_reachable`**: the faults that an assignment cannot have, whatever is assigned.
-/

namespace CollectionArchive

/-! ## Values that are missed -/

namespace Assignment

variable {kinds : LinkKinds} {i : Identifier} {p : Property} {v : Input}

/-- Why there is no value for a property. -/
inductive Misses (kinds : LinkKinds) (i : Identifier) (p : Property) (v : Input) :
    AssignmentFault → Prop
  /-- Something is assigned to a link, and no kind is kept for it. -/
  | unresolved (link : p.kind = .link) (items : v.items ≠ []) (unkept : kinds.get? i = none) :
    Misses kinds i p v .linkTargetUnresolved
  /-- Of what is assigned to a link, this is the first that cannot be cast. -/
  | item {k : Kind} {front back : List Json.Value} {item : Json.Value} {reason : CastError}
    (link : p.kind = .link) (kept : kinds.get? i = some k) (split : v.items = front ++ item :: back)
    (before : ∀ w ∈ front, ∃ x, Cast.value k w = .ok x)
    (fails : Cast.value k item = .error reason) :
    Misses kinds i p v (.castFailure item k reason)
  | leaf {reason : CastError} (single : p.kind ≠ .link) (cast : ¬ Keeps p v)
    (fails : Cast.forProperty p v.toJson = .error reason) :
    Misses kinds i p v (.castFailure v.toJson p.kind reason)

theorem leaf_of_not_keeps (cast : ¬ Keeps p v) : leaf p v =
    (Cast.forProperty p v.toJson).mapError (.castFailure v.toJson p.kind) := by
  cases v with
  | typed y => rw [leaf, if_neg fun kept => cast ⟨y, rfl, kept⟩]; rfl
  | _ => rfl

theorem leaf_eq_error {fault : AssignmentFault} : leaf p v = .error fault ↔
    ¬ Keeps p v ∧ ∃ reason, Cast.forProperty p v.toJson = .error reason ∧
      .castFailure v.toJson p.kind reason = fault := by
  by_cases kept : Keeps p v
  · obtain ⟨y, rfl, hy⟩ := kept
    rw [leaf, if_pos hy]
    refine iff_of_false (fun h => ?_) fun h => h.1 ⟨y, rfl, hy⟩
    cases h
  · rw [leaf_of_not_keeps kept, Outcome.mapError_eq_error, and_iff_right kept]

/-- A selector is missed since there is no kind for it, or one of its values cannot be cast. Values
of several kinds are never brought together. -/
theorem selector_eq_error {fault : AssignmentFault} : selector kinds i v = .error fault ↔
    (v.items ≠ [] ∧ kinds.get? i = none ∧ .linkTargetUnresolved = fault) ∨
    ∃ k front item back reason, kinds.get? i = some k ∧ v.items = front ++ item :: back ∧
      (∀ w ∈ front, ∃ x, Cast.value k w = .ok x) ∧ Cast.value k item = .error reason ∧
        .castFailure item k reason = fault := by
  rw [selector]
  cases hitems : v.items with
  | nil =>
    refine iff_of_false (fun h => ?_) ?_
    · cases h
    · rintro (⟨hne, _⟩ | ⟨_, front, _, _, _, _, heq, _⟩)
      · exact hne rfl
      · cases front <;> cases heq
  | cons item items =>
    cases hkind : kinds.get? i with
    | none =>
      constructor
      · intro h
        cases h
        exact .inl ⟨List.cons_ne_nil _ _, rfl, rfl⟩
      · rintro (⟨_, _, rfl⟩ | ⟨_, _, _, _, _, hk, _⟩)
        · rfl
        · cases hk
    | some k =>
      simp only [Option.elim_some, Outcome.bind_eq_error]
      constructor
      · rintro (h | ⟨_, hk, h | ⟨values, hvalues, h⟩⟩)
        · cases h
        · obtain rfl := Except.ok.inj hk
          obtain ⟨front, w, back, hsplit, hfront, hw⟩ := Outcome.mapM_eq_error.mp h
          obtain ⟨reason, hreason, hfault⟩ := Outcome.mapError_eq_error.mp hw
          refine .inr ⟨k, front, w, back, reason, rfl, hsplit, fun u hu => ?_, hreason, hfault⟩
          obtain ⟨x, hx⟩ := hfront u hu
          exact ⟨x, Outcome.mapError_eq_ok.mp hx⟩
        · -- The values are all cast to one kind, so there is a selector of them.
          obtain rfl := Except.ok.inj hk
          simp only [Outcome.mapM_eq_ok, Outcome.mapError_eq_ok] at hvalues
          rw [selector?_of_forall₂ hvalues (List.cons_ne_nil _ _)] at h
          cases h
      · rintro (⟨_, hk, _⟩ | ⟨k', front, w, back, reason, hk, hsplit, hfront, hreason, rfl⟩)
        · cases hk
        · obtain rfl := Option.some.inj hk
          refine .inr ⟨k, rfl, .inl (Outcome.mapM_eq_error.mpr ⟨front, w, back, hsplit, ?_, ?_⟩)⟩
          · intro u hu
            obtain ⟨x, hx⟩ := hfront u hu
            exact ⟨x, Outcome.mapError_eq_ok.mpr hx⟩
          · exact Outcome.mapError_eq_error.mpr ⟨reason, hreason, rfl⟩

/-- **Why there is no value for a property.** -/
theorem value_eq_error {fault : AssignmentFault} :
    value kinds i p v = .error fault ↔ Misses kinds i p v fault := by
  by_cases hlink : p.kind = .link
  · have hvalue : value kinds i p v = selector kinds i v := by rw [value, hlink]; rfl
    rw [hvalue, selector_eq_error]
    constructor
    · rintro (⟨hitems, hnone, rfl⟩ | ⟨k, front, w, back, reason, hk, hsplit, hfront, hreason, rfl⟩)
      · exact .unresolved hlink hitems hnone
      · exact .item hlink hk hsplit hfront hreason
    · rintro (⟨_, hitems, hnone⟩ | ⟨_, hk, hsplit, hfront, hreason⟩ | ⟨hsingle, _⟩)
      · exact .inl ⟨hitems, hnone, rfl⟩
      · exact .inr ⟨_, _, _, _, _, hk, hsplit, hfront, hreason, rfl⟩
      · exact absurd hlink hsingle
  · rw [value_of_ne_link hlink, Outcome.map_eq_error, leaf_eq_error]
    constructor
    · rintro ⟨cast, reason, hreason, rfl⟩
      exact .leaf hlink cast hreason
    · rintro (⟨h, _⟩ | ⟨h, _⟩ | ⟨_, cast, hreason⟩)
      · exact absurd h hlink
      · exact absurd h hlink
      · exact ⟨cast, _, hreason, rfl⟩

end Assignment

/-! ## Assignments that fail -/

namespace CheckedRegistry

variable {σ : Type} {r : CheckedRegistry σ} {collection : String} {rejectNull : Bool}
  {i : Identifier} {p : Property} {n : Node} {v : Input}

/-- Why an assignment fails. -/
inductive AssignFails (r : CheckedRegistry σ) (collection : String) (rejectNull : Bool)
    (i : Identifier) (n : Node) (v : Input) : RegistryError → Prop
  | unexpectedNull (isNull : v.isNull = true) (rejected : rejectNull = true) :
    AssignFails r collection rejectNull i n v (.assignment collection i .unexpectedNull)
  | unknownCollection (notNull : v.isNull = false)
    (unregistered : r.schemata.get? collection = none) :
    AssignFails r collection rejectNull i n v (.unknownCollection collection)
  | propertyNotFound {schema : Schema} (notNull : v.isNull = false)
    (registered : r.schemata.get? collection = some schema)
    (unknown : ∀ p ∈ schema.main.leaves, p.ident? ≠ some i) :
    AssignFails r collection rejectNull i n v (.assignment collection i .propertyNotFound)
  | missed {p : Property} {fault : AssignmentFault} (notNull : v.isNull = false)
    (leaf : r.IsLeaf collection i p) (misses : Assignment.Misses r.kinds i p v fault) :
    AssignFails r collection rejectNull i n v (.assignment collection i fault)
  | duplicate {p : Property} {x : PropertyValue} (notNull : v.isNull = false)
    (leaf : r.IsLeaf collection i p) (value : Assignment.value r.kinds i p v = .ok (some x))
    (taken : n.has i = true) :
    AssignFails r collection rejectNull i n v
      (.assignment collection i (.duplicateProperty n.title))

theorem assign_of_isLeaf (notNull : v.isNull = false) (leaf : r.IsLeaf collection i p) :
    r.assign collection rejectNull i n v =
      (Assignment.value r.kinds i p v >>= fun found? => match found? with
        | none => .ok n
        | some x => (n.insert? i x).elim (.error (.duplicateProperty n.title)) .ok).mapError
          (.assignment collection i) := by
  obtain ⟨schema, hschema, hleaf⟩ := leaf.leaf
  rw [assign, Assignment.assign, notNull, if_neg Bool.false_ne_true, hschema]
  simp only [Assignment.assignIn, Schema.find_eq_ok.mpr ⟨hleaf, leaf.ident⟩, Except.mapError, bind,
    Except.bind]
  cases hvalue : Assignment.value r.kinds i p v with
  | error fault => rfl
  | ok found? =>
    cases found? with
    | none => rfl
    | some x =>
      simp only [Assignment.assignment_of_value hvalue, ne_eq, not_true_eq_false, if_false]

theorem assign_of_unknown {schema : Schema} (notNull : v.isNull = false)
    (registered : r.schemata.get? collection = some schema)
    (unknown : ∀ p ∈ schema.main.leaves, p.ident? ≠ some i) :
    r.assign collection rejectNull i n v =
      .error (.assignment collection i .propertyNotFound) := by
  rw [assign, Assignment.assign, notNull, if_neg Bool.false_ne_true, registered]
  cases hfind : schema.find i with
  | ok p =>
    obtain ⟨hleaf, hident⟩ := Schema.find_eq_ok.mp hfind
    exact absurd hident (unknown p hleaf)
  | error e => simp only [Assignment.assignIn, hfind, Except.mapError, bind, Except.bind]

/-- **Why an assignment fails.** That the value does not fit the property is not among it. -/
theorem assign_eq_error {e : RegistryError} : r.assign collection rejectNull i n v = .error e ↔
    r.AssignFails collection rejectNull i n v e := by
  constructor
  · intro h
    cases hnull : v.isNull with
    | true =>
      rw [assign, Assignment.assign, if_pos hnull] at h
      split_ifs at h with hreject
      cases h
      exact .unexpectedNull hnull hreject
    | false =>
      cases hschema : r.schemata.get? collection with
      | none =>
        rw [assign, Assignment.assign, hnull, if_neg Bool.false_ne_true, hschema] at h
        cases h
        exact .unknownCollection hnull hschema
      | some schema =>
        by_cases hleaf : ∃ p ∈ schema.main.leaves, p.ident? = some i
        · obtain ⟨p, hp, hident⟩ := hleaf
          have leaf : r.IsLeaf collection i p := ⟨⟨schema, hschema, hp⟩, hident⟩
          rw [assign_of_isLeaf hnull leaf] at h
          obtain ⟨fault, hfault, rfl⟩ := Outcome.mapError_eq_error.mp h
          rcases Outcome.bind_eq_error.mp hfault with hvalue | ⟨found?, hvalue, hfault⟩
          · exact .missed hnull leaf (Assignment.value_eq_error.mp hvalue)
          · cases found? with
            | none => cases hfault
            | some x =>
              change (n.insert? i x).elim _ _ = _ at hfault
              cases hhas : n.has i with
              | true =>
                rw [Node.insert?, if_pos hhas] at hfault
                cases hfault
                exact .duplicate hnull leaf hvalue hhas
              | false =>
                obtain ⟨n', hinsert⟩ := Node.exists_insert? hhas x
                rw [hinsert] at hfault
                cases hfault
        · push Not at hleaf
          rw [assign_of_unknown hnull hschema hleaf] at h
          cases h
          exact .propertyNotFound hnull hschema hleaf
  · rintro (⟨hnull, hreject⟩ | ⟨hnull, hschema⟩ | ⟨hnull, hschema, hunknown⟩ |
      ⟨hnull, leaf, misses⟩ | ⟨hnull, leaf, hvalue, htaken⟩)
    · rw [assign, Assignment.assign, if_pos hnull, if_pos hreject]
    · rw [assign, Assignment.assign, hnull, if_neg Bool.false_ne_true, hschema]
    · exact assign_of_unknown hnull hschema hunknown
    · rw [assign_of_isLeaf hnull leaf, Assignment.value_eq_error.mpr misses]
      rfl
    · rw [assign_of_isLeaf hnull leaf, hvalue]
      show Except.mapError _ ((n.insert? i _).elim _ _) = _
      rw [Node.insert?, if_pos htaken]
      rfl

/-! ## Registries whose links are resolved -/

theorem IsLeaf.ne_box (leaf : r.IsLeaf collection i p) : p.kind ≠ .box := by
  obtain ⟨schema, _, hleaf⟩ := leaf.leaf
  obtain ⟨_, _, kind, _, _, rfl⟩ := Property.isLeaf_of_mem_leaves hleaf
  intro hbox
  have hnot := kind.property
  rw [show kind.val = .box from hbox] at hnot
  cases hnot

theorem IsLeaf.isValid (leaf : r.IsLeaf collection i p) (built : r.schemata.IsBuilt) :
    p.IsValid := by
  obtain ⟨schema, hschema, hleaf⟩ := leaf.leaf
  exact (built _ (Table.mem_of_get? hschema)).isValid.of_mem_leaves hleaf

/-- The kinds that are kept for links can be selected. -/
theorem isSelectable_of_kinds (resolved : LinkKinds.ofSchemata r.schemata = .ok r.kinds)
    {k : Kind} (kept : r.kinds.get? i = some k) : k.isSelectable = true := by
  obtain ⟨l, _, hl⟩ := (LinkKinds.get?_ofSchemata resolved i k).mp kept
  exact (OutboundLink.targetKind_eq_ok.mp hl).2

/-- A kind is kept for each link with a target in its config. -/
theorem IsLink.configValue?_eq_none (link : r.IsLink collection i p)
    (resolved : LinkKinds.ofSchemata r.schemata = .ok r.kinds) (built : r.schemata.IsBuilt)
    (unkept : r.kinds.get? i = none) : p.configValue? "target" = none := by
  by_contra hsome
  obtain ⟨w, hw⟩ := Option.ne_none_iff_exists'.mp hsome
  obtain ⟨t, ht⟩ := (link.isLeaf.isValid built).declaresTarget
    (Property.isOutboundLink_iff.mpr ⟨link.kind, w, hw⟩)
  have hmem := link.mem_outboundLinks (Property.linkTarget?_eq_some.mpr ht)
  exact (LinkKinds.get?_ofSchemata_eq_none resolved i).mp unkept _ hmem rfl

/-- **Casts fail because of the value** if links are resolved. -/
theorem IsLeaf.isOfValue (leaf : r.IsLeaf collection i p)
    (resolved : LinkKinds.ofSchemata r.schemata = .ok r.kinds) (built : r.schemata.IsBuilt)
    {value : Json.Value} {expected : Kind} {reason : CastError}
    (misses : Assignment.Misses r.kinds i p v (.castFailure value expected reason)) :
    reason.IsOfValue := by
  cases misses with
  | item _ kept _ _ fails =>
    exact Cast.isOfValue_of_value (isSelectable_of_kinds resolved kept) fails
  | leaf single _ fails =>
    exact Cast.isOfValue_of_forProperty (leaf.isValid built) leaf.ne_box single fails

end CheckedRegistry

/-! ## Calls that assign -/

namespace NodeCall

/-- The calls that assign to properties of a collection of a registry. -/
inductive IsFor {σ : Type} (r : CheckedRegistry σ) (collection : String) : NodeCall → Prop
  | assign (rejectNull : Bool) (property : Identifier) (v : Input) :
    IsFor r collection (.assign r collection rejectNull property v)
  | assignText (rejectNull : Bool) (property : String) (v : Input) :
    IsFor r collection (.assignText r collection rejectNull property v)
  | assignAll (rejectNull : Bool) (values : List (String × Input)) :
    IsFor r collection (.assignAll r collection rejectNull values)

variable {σ : Type} {r : CheckedRegistry σ} {collection : String} {rejectNull : Bool} {n : Node}
  {e : RegistryError}

theorem fails_of_run_assign {i : Identifier} {v : Input}
    (h : ((assign r collection rejectNull i v).run n).1 = .error e) :
    r.AssignFails collection rejectNull i n v e := by
  refine CheckedRegistry.assign_eq_error.mp ?_
  rw [run, leave] at h
  cases hassign : r.assign collection rejectNull i n v with
  | ok n' => rw [hassign] at h; cases h
  | error e' => rw [hassign] at h; cases h; rfl

theorem fails_of_run_assignText {property : String} {v : Input}
    (h : ((assignText r collection rejectNull property v).run n).1 = .error e) :
    (∃ invalid, e = .identifier invalid) ∨ ∃ i, r.AssignFails collection rejectNull i n v e := by
  rw [run_assignText] at h
  cases hparse : Identifier.parse property with
  | error invalid => rw [hparse] at h; cases h; exact .inl ⟨invalid, rfl⟩
  | ok i => rw [hparse] at h; exact .inr ⟨i, fails_of_run_assign h⟩

theorem fails_of_assignAll {values : List (String × Input)}
    (h : (r.assignAll collection rejectNull n values).1 = .error e) :
    (∃ invalid, e = .identifier invalid) ∨
      ∃ i m v, r.AssignFails collection rejectNull i m v e := by
  induction values generalizing n with
  | nil => cases h
  | cons first values ih =>
    obtain ⟨property, v⟩ := first
    have hfirst := @fails_of_run_assignText _ r collection rejectNull n e property v
    rw [run, leave] at hfirst
    rw [CheckedRegistry.assignAll, Assignment.assignAll] at h
    cases hassign : r.assignText collection rejectNull n property v with
    | error e' =>
      rw [hassign] at hfirst
      rw [CheckedRegistry.assignText] at hassign
      rw [hassign] at h
      rcases hfirst h with invalid | ⟨i, hi⟩
      · exact .inl invalid
      · exact .inr ⟨i, n, v, hi⟩
    | ok n' =>
      rw [CheckedRegistry.assignText] at hassign
      rw [hassign] at h
      exact ih h

/-- A call fails as an assignment to one property fails. -/
theorem IsFor.fails {call : NodeCall} (h : call.IsFor r collection) {c : String} {j : Identifier}
    {fault : AssignmentFault} (fails : (call.run n).1 = .error (.assignment c j fault)) :
    ∃ rejectNull i m v, r.AssignFails collection rejectNull i m v (.assignment c j fault) := by
  cases h with
  | assign rejectNull i v => exact ⟨rejectNull, i, n, v, fails_of_run_assign fails⟩
  | assignText rejectNull property v =>
    obtain ⟨_, h⟩ | ⟨i, hi⟩ := fails_of_run_assignText fails
    · cases h
    · exact ⟨rejectNull, i, n, v, hi⟩
  | assignAll rejectNull values =>
    obtain ⟨_, h⟩ | ⟨i, m, v, hi⟩ := fails_of_assignAll fails
    · cases h
    · exact ⟨rejectNull, i, m, v, hi⟩

end NodeCall

/-- **The faults that an assignment cannot have**, whatever is assigned to whatever property. No
value has another type than its property, whether it is cast or typed. No cast fails because lists
have no kind for their elements, or because properties take no values. And a link has no target only
if its config declares none. -/
theorem faults_of_reachable {σ : Type} [Archive σ] {h : Handle σ} {r : CheckedRegistry σ}
    (reachable : Reachable h) (checked : h.toSession = .checked r) (built : r.schemata.IsBuilt)
    {collection : String} {call : NodeCall} (assigns : call.IsFor r collection) {n : Node}
    {c : String} {j : Identifier} {fault : AssignmentFault}
    (fails : (call.run n).1 = .error (.assignment c j fault)) :
    (∀ found expected, fault ≠ .misfit found expected) ∧
    (∀ value expected reason, fault = .castFailure value expected reason →
      reason ≠ .missingSubtype ∧ ∀ k, reason ≠ .notAssignable k) ∧
    (fault = .linkTargetUnresolved →
      ∃ p, r.IsLink collection j p ∧ p.configValue? "target" = none) := by
  have resolved := reachable.isResolved r checked
  obtain ⟨rejectNull, i, m, v, hfails⟩ := assigns.fails fails
  refine ⟨?_, ?_, ?_⟩
  · rintro found expected rfl
    cases hfails with
    | missed _ _ misses => cases misses
  · rintro value expected reason rfl
    cases hfails with
    | missed _ leaf misses => exact leaf.isOfValue resolved built misses
  · rintro rfl
    cases hfails with
    | @missed p _ _ leaf misses =>
      cases misses with
      | unresolved link _ unkept =>
        have link : r.IsLink collection j p := ⟨leaf.leaf, leaf.ident, link⟩
        exact ⟨p, link, link.configValue?_eq_none resolved built unkept⟩

/-- A link without target takes nothing. -/
theorem faults_of_reachable_untargeted :
    ∃ (r : CheckedRegistry MemoryArchive) (call : NodeCall), Reachable (.session (.checked r)) ∧
      r.schemata.IsBuilt ∧ call.IsFor r "a" ∧
        (call.run (.ofTitle "" [])).1 = .error (.assignment "a" .zero .linkTargetUnresolved) ∧
          ∃ p, r.IsLink "a" .zero p ∧ p.configValue? "target" = none := by
  obtain ⟨r, reachable, hschemata, hkinds⟩ := Reachable.exists_single .link none rfl
  have built : r.schemata.IsBuilt := by
    rw [hschemata]
    refine List.forall_mem_singleton.mpr (.boxed "" fun c hc => ?_)
    rw [List.mem_singleton.mp hc]
    exact .leaf (show Property.leaf? "" .zero .link none = .ok _ from rfl)
  have assigns : NodeCall.IsFor r "a" (.assign r "a" false .zero (.json (.bool true))) :=
    .assign false .zero (.json (.bool true))
  have fails : ((NodeCall.assign r "a" false .zero (.json (.bool true))).run (.ofTitle "" [])).1 =
      .error (.assignment "a" .zero .linkTargetUnresolved) := by
    have leaf : r.IsLeaf "a" .zero (.leaf "" .zero .link none false) :=
      ⟨⟨_, by rw [hschemata]; rfl, List.mem_cons_self⟩, rfl⟩
    rw [NodeCall.run, NodeCall.leave, CheckedRegistry.assign_of_isLeaf rfl leaf, hkinds]
    rfl
  exact ⟨r, _, reachable, built, assigns, fails,
    (faults_of_reachable reachable rfl built assigns fails).2.2 rfl⟩

end CollectionArchive
