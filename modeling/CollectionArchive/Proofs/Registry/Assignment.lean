import CollectionArchive.Proofs.Link.Kinds
import CollectionArchive.Registry.Basic
import Mathlib.Tactic.SplitIfs

/-!
# What assignments do

* `Cast.kind?_of_value`: what is cast to a kind is of that kind.
* `Assignment.selector_eq_some`, `Assignment.selector_eq_unresolved`: the selectors that links get,
  and when a link gets none because nothing tells its kind.
* **`Assignment.assign_cases`**: all that an assignment can do to a node.
-/

namespace CollectionArchive

/-! ## Casting -/

/-- **What is cast to a kind is of that kind.** -/
theorem Cast.kind?_of_value {k : Kind} {v : Json.Value} {x : PropertyValue}
    (h : Cast.value k v = .ok x) : x.kind? = some k := by
  cases k with
  | integer => obtain ⟨_, _, rfl⟩ := Outcome.map_eq_ok.mp h; rfl
  | float => obtain ⟨_, _, rfl⟩ := Outcome.map_eq_ok.mp h; rfl
  | string => obtain ⟨_, _, rfl⟩ := Outcome.map_eq_ok.mp h; rfl
  | boolean => obtain ⟨_, _, rfl⟩ := Outcome.map_eq_ok.mp h; rfl
  | enumeration => obtain ⟨_, _, rfl⟩ := Outcome.map_eq_ok.mp h; rfl
  | date => obtain ⟨_, _, rfl⟩ := Outcome.map_eq_ok.mp h; rfl
  | url => obtain ⟨_, _, rfl⟩ := Outcome.map_eq_ok.mp h; rfl
  | textArea => obtain ⟨_, _, rfl⟩ := Outcome.map_eq_ok.mp h; rfl
  | tags => obtain ⟨_, _, rfl⟩ := Outcome.map_eq_ok.mp h; rfl
  | featureList => obtain ⟨_, _, rfl⟩ := Outcome.map_eq_ok.mp h; rfl
  | hierarchies => obtain ⟨_, _, rfl⟩ := Outcome.map_eq_ok.mp h; rfl
  | location =>
    cases v with
    | object o => cases h; rfl
    | _ => cases h
  | box => cases h
  | link => cases h
  | list => cases h

theorem Cast.exists_value {k : Kind} (h : k.isSelectable = true) :
    ∃ v x, Cast.value k v = .ok x := by
  cases k with
  | integer => exact ⟨.number (.integer 0), _, rfl⟩
  | float => exact ⟨.number (.integer 0), _, rfl⟩
  | string => exact ⟨.text "", _, rfl⟩
  | boolean => exact ⟨.bool false, _, rfl⟩
  | enumeration => exact ⟨.text "", _, rfl⟩
  | date => exact ⟨.number (.integer 0), _, rfl⟩
  | url => exact ⟨.text "a:", _, rfl⟩
  | textArea => exact ⟨.text "", _, rfl⟩
  | tags => exact ⟨.array [], _, rfl⟩
  | featureList => exact ⟨.array [], _, rfl⟩
  | hierarchies => exact ⟨.array [], _, rfl⟩
  | location => exact ⟨.object [], _, rfl⟩
  | box => cases h
  | link => cases h
  | list => cases h

/-! ## Nodes -/

theorem Node.has_of_get? {n : Node} {i : Identifier} {x : PropertyValue} (h : n.get? i = some x) :
    n.has i = true := by
  rw [has, Table.has, show n.properties.get? i = some x from h]
  rfl

theorem Node.insert?_eq_some {n n' : Node} {i : Identifier} {x : PropertyValue}
    (h : n.insert? i x = some n') :
    n.has i = false ∧ ∀ j, n'.get? j = if i = j then some x else n.get? j := by
  rw [insert?] at h
  split_ifs at h with hhas
  obtain rfl := Option.some.inj h
  exact ⟨(Bool.not_eq_true _).mp hhas, fun j => Table.get?_insert n.properties i x j⟩

theorem Node.exists_insert? {n : Node} {i : Identifier} (h : n.has i = false) (x : PropertyValue) :
    ∃ n', n.insert? i x = some n' := by
  rw [insert?, h]
  exact ⟨_, rfl⟩

namespace Assignment

/-! ## Selectors -/

theorem jsonItems_eq_nil (v : Json.Value) :
    (match v with
      | .array items => items
      | item => [item]) = [] ↔ v = .array [] := by
  cases v with
  | array items => exact ⟨congrArg _, Json.Value.array.inj⟩
  | _ => exact iff_of_false (List.cons_ne_nil _ _) nofun

theorem items_eq_nil {v : Input} : v.items = [] ↔ v.toJson = .array [] := by
  cases v with
  | null => exact jsonItems_eq_nil .null
  | json v => exact jsonItems_eq_nil v
  | typed x =>
    by_cases hx : ∃ k values, x = .selector k values
    · obtain ⟨k, values, rfl⟩ := hx
      cases values with
      | nil => exact iff_of_true rfl rfl
      | cons v vs => exact iff_of_false (List.cons_ne_nil _ _) nofun
    · rw [Input.items]
      · exact jsonItems_eq_nil x.toJson
      · rintro k values heq
        exact hx ⟨k, values, Input.typed.inj heq⟩

theorem all_kind?_of_forall₂ {k : Kind} {items : List Json.Value} {vs : List PropertyValue}
    (h : List.Forall₂ (fun item y => Cast.value k item = .ok y) items vs) :
    (vs.all fun v => v.kind? == some k) = true := by
  induction h with
  | nil => rfl
  | cons hcast _ ih =>
    rw [List.all_cons, ih, Bool.and_true]
    exact beq_iff_eq.mpr (Cast.kind?_of_value hcast)

theorem selector?_of_forall₂ {k : Kind} {items : List Json.Value} {vs : List PropertyValue}
    (h : List.Forall₂ (fun item y => Cast.value k item = .ok y) items vs) (hitems : items ≠ []) :
    PropertyValue.selector? k vs = some (.selector k vs) := by
  have hsome : vs.isEmpty = false := by
    cases h with
    | nil => exact absurd rfl hitems
    | cons => rfl
  rw [PropertyValue.selector?, all_kind?_of_forall₂ h, hsome]
  rfl

/-- A link gets a selector of what was assigned to it, cast to the kind that is kept for it. -/
theorem selector_eq_some {kinds : LinkKinds} {i : Identifier} {v : Input} {x : PropertyValue} :
    selector kinds i v = .ok (some x) ↔ v.items ≠ [] ∧ ∃ k vs, kinds.get? i = some k ∧
      List.Forall₂ (fun item y => Cast.value k item = .ok y) v.items vs ∧ .selector k vs = x := by
  rw [selector]
  cases hitems : v.items with
  | nil => exact iff_of_false nofun fun h => h.1 rfl
  | cons item items =>
    rw [and_iff_right (List.cons_ne_nil _ _)]
    simp only [Outcome.bind_eq_ok, Outcome.elim_eq_ok, Outcome.mapM_eq_ok, Outcome.mapError_eq_ok]
    refine exists_congr fun k => ?_
    constructor
    · rintro ⟨hk, vs, hall, h⟩
      rw [selector?_of_forall₂ hall (List.cons_ne_nil _ _)] at h
      exact ⟨vs, hk, hall, Option.some.inj (Outcome.pure_eq_ok.mp h)⟩
    · rintro ⟨vs, hk, hall, rfl⟩
      refine ⟨hk, vs, hall, ?_⟩
      rw [selector?_of_forall₂ hall (List.cons_ne_nil _ _)]
      rfl

/-- A link gets no selector for want of a kind if something is assigned to it and no kind is kept
for it. -/
theorem selector_eq_unresolved {kinds : LinkKinds} {i : Identifier} {v : Input} :
    selector kinds i v = .error .linkTargetUnresolved ↔ v.items ≠ [] ∧ kinds.get? i = none := by
  rw [selector]
  cases hitems : v.items with
  | nil => exact iff_of_false nofun fun h => h.1 rfl
  | cons item items =>
    rw [and_iff_right (List.cons_ne_nil _ _)]
    cases hkind : kinds.get? i with
    | none => exact iff_of_true rfl rfl
    | some k =>
      refine iff_of_false (fun h => ?_) nofun
      change ((item :: items).mapM _ >>= _ : Except AssignmentFault _) = _ at h
      cases hall : (item :: items).mapM fun item =>
          (Cast.value k item).mapError (AssignmentFault.castFailure item k) with
      | error e =>
        rw [hall] at h
        cases h
        obtain ⟨value, _, hvalue⟩ := Outcome.exists_of_mapM_eq_error hall
        cases hcast : Cast.value k value with
        | error reason => rw [hcast] at hvalue; cases hvalue
        | ok x => rw [hcast] at hvalue; cases hvalue
      | ok vs =>
        rw [hall] at h
        simp only [bind, Except.bind] at h
        split at h <;> cases h

/-! ## Assignments -/

/-- What is assigned to a property of a collection is put on a node as the value `x`. -/
structure Stores (schemata : Schemata) (kinds : LinkKinds) (collection : String)
    (property : Identifier) (n : Node) (v : Input) (schema : Schema) (p : Property)
    (x : PropertyValue) (n' : Node) : Prop where
  notNull : v.isNull = false
  registered : schemata.get? collection = some schema
  leaf : p ∈ schema.main.leaves
  ident : p.ident? = some property
  value : Assignment.value kinds property p v = .ok (some x)
  fits : x.assignment = p.kind.assignment
  insert : n.insert? property x = some n'

variable {schemata : Schemata} {kinds : LinkKinds} {collection : String} {rejectNull : Bool}
  {property : Identifier} {n n' : Node} {v : Input}

theorem assignIn_cases {schema : Schema} (h : assignIn schema kinds property n v = .ok n') :
    n' = n ∨ ∃ p x, p ∈ schema.main.leaves ∧ p.ident? = some property ∧
      Assignment.value kinds property p v = .ok (some x) ∧ x.assignment = p.kind.assignment ∧
        n.insert? property x = some n' := by
  obtain ⟨p, hp, h⟩ := Outcome.bind_eq_ok.mp h
  obtain ⟨hleaf, hident⟩ := Schema.find_eq_ok.mp (Outcome.mapError_eq_ok.mp hp)
  obtain ⟨found, hfound, h⟩ := Outcome.bind_eq_ok.mp h
  cases found with
  | none => exact .inl (Outcome.pure_eq_ok.mp h).symm
  | some x =>
    simp only [ne_eq, ite_not] at h
    split_ifs at h with hfits
    exact .inr ⟨p, x, hleaf, hident, hfound, hfits, Outcome.elim_eq_ok.mp h⟩

/-- **All that an assignment can do to a node** is to put a value on it, or nothing. -/
theorem assign_cases (h : assign schemata kinds collection rejectNull property n v = .ok n') :
    n' = n ∨ ∃ schema p x, Stores schemata kinds collection property n v schema p x n' := by
  rw [assign] at h
  split_ifs at h with hnull hreject
  · exact .inl (Except.ok.inj h).symm
  · cases hschema : schemata.get? collection with
    | none =>
      rw [hschema] at h
      cases h
    | some schema =>
      rw [hschema] at h
      rcases assignIn_cases (Outcome.mapError_eq_ok.mp h) with
        rfl | ⟨p, x, hleaf, hident, hvalue, hfits, hinsert⟩
      · exact .inl rfl
      · exact .inr ⟨schema, p, x, (Bool.not_eq_true _).mp hnull, hschema, hleaf, hident, hvalue,
          hfits, hinsert⟩

/-- What an assignment would put on a node is put there. -/
theorem Stores.assign {schema : Schema} {p : Property} {x : PropertyValue}
    (h : Stores schemata kinds collection property n v schema p x n') (rejectNull : Bool) :
    Assignment.assign schemata kinds collection rejectNull property n v = .ok n' := by
  rw [Assignment.assign, h.notNull, if_neg Bool.false_ne_true, h.registered]
  refine Outcome.mapError_eq_ok.mpr (Outcome.bind_eq_ok.mpr ⟨p, ?_, ?_⟩)
  · exact Outcome.mapError_eq_ok.mpr (Schema.find_eq_ok.mpr ⟨h.leaf, h.ident⟩)
  · refine Outcome.bind_eq_ok.mpr ⟨some x, h.value, ?_⟩
    simp only [h.fits, ne_eq, not_true_eq_false, if_false, h.insert, Option.elim_some]

/-- What is stored under a link is a selector of the kind that is kept for it. -/
theorem Stores.selector {schema : Schema} {p : Property} {x : PropertyValue}
    (h : Stores schemata kinds collection property n v schema p x n') (link : p.kind = .link) :
    ∃ k vs, kinds.get? property = some k ∧ .selector k vs = x := by
  have hvalue := h.value
  rw [Assignment.value, link] at hvalue
  obtain ⟨_, k, vs, hk, _, hx⟩ := selector_eq_some.mp hvalue
  exact ⟨k, vs, hk, hx⟩

/-- An assignment to a link fails for want of a kind exactly if there is something to assign and no
kind is kept for the link. -/
theorem assign_eq_unresolved {schema : Schema} {p : Property}
    (registered : schemata.get? collection = some schema) (leaf : p ∈ schema.main.leaves)
    (ident : p.ident? = some property) (link : p.kind = .link) (notNull : v.isNull = false) :
    assign schemata kinds collection rejectNull property n v =
      .error (.assignment collection property .linkTargetUnresolved) ↔
        v.toJson ≠ .array [] ∧ kinds.get? property = none := by
  have hvalue : value kinds property p v = Assignment.selector kinds property v := by
    rw [value, link]
    rfl
  rw [ne_eq, ← items_eq_nil, ← ne_eq, ← selector_eq_unresolved, assign, notNull,
    if_neg Bool.false_ne_true, registered]
  simp only [assignIn, Schema.find_eq_ok.mpr ⟨leaf, ident⟩, hvalue, Except.mapError, bind,
    Except.bind]
  cases Assignment.selector kinds property v with
  | error e => simp
  | ok found =>
    refine iff_of_false (fun h => ?_) (fun h => by cases h)
    cases found with
    | none => cases h
    | some x =>
      simp only at h
      split_ifs at h
      · cases h
      · cases hinsert : n.insert? property x with
        | none => rw [hinsert] at h; cases h
        | some n' => rw [hinsert] at h; cases h

end Assignment

end CollectionArchive
