import CollectionArchive.Proofs.Outcome
import CollectionArchive.Schema.Basic

/-!
# Leaves of schemata

* `Schema.find_eq_ok`: what is found under an identifier is the leaf that has it.
* `Property.forall₂_leaves`: the leaves of equal properties are equal, one by one.
* `Schema.Expects`: what a property is to hold by a schema.
* **`Schema.expects_of_equal`**: equal schemata expect the same.
-/

namespace CollectionArchive

/-! ## Leaves by identifier -/

theorem LeafTable.get?_cons (i : Identifier) (p : Property) (t : LeafTable) (j : Identifier) :
    get? ((i, p) :: t) j = if i = j then some p else get? t j := by
  by_cases h : i = j <;> simp [get?, h]

/-- A table with leaves added has what it had, and the leaves under their identifiers. -/
theorem LeafTable.get?_addAll {t t' : LeafTable} {ps : List Property} (h : addAll t ps = .ok t')
    (i : Identifier) (p : Property) :
    get? t' i = some p ↔ get? t i = some p ∨ (p ∈ ps ∧ p.ident? = some i) := by
  induction ps generalizing t with
  | nil =>
    obtain rfl := Except.ok.inj h
    simp
  | cons q ps ih =>
    rw [addAll] at h
    cases hq : q.ident? with
    | none =>
      rw [hq] at h
      rw [ih h, List.mem_cons]
      refine or_congr Iff.rfl (and_congr_left fun hp => ⟨.inr, ?_⟩)
      rintro (rfl | hmem)
      · rw [hq] at hp
        cases hp
      · exact hmem
    | some j =>
      rw [hq] at h
      cases hj : get? t j with
      | some earlier =>
        simp only [hj] at h
        cases h
      | none =>
        simp only [hj] at h
        rw [ih h, get?_cons, List.mem_cons]
        by_cases hji : j = i
        · subst hji
          rw [if_pos rfl, hj, Option.some.injEq]
          constructor
          · rintro (rfl | ⟨hmem, hp⟩)
            · exact .inr ⟨.inl rfl, hq⟩
            · exact .inr ⟨.inr hmem, hp⟩
          · rintro (hnone | ⟨rfl | hmem, hp⟩)
            · cases hnone
            · exact .inl rfl
            · exact .inr ⟨hmem, hp⟩
        · rw [if_neg hji]
          refine or_congr Iff.rfl (and_congr_left fun hp => ⟨.inr, ?_⟩)
          rintro (rfl | hmem)
          · exact absurd (Option.some.inj (hq.symm.trans hp)) hji
          · exact hmem

namespace Schema

/-- **What is found under an identifier is the leaf that has it.** -/
theorem find_eq_ok {s : Schema} {i : Identifier} {p : Property} :
    s.find i = .ok p ↔ p ∈ s.main.leaves ∧ p.ident? = some i := by
  have h := LeafTable.get?_addAll s.addAll_main i p
  rw [Leaves.toList_walk] at h
  rw [find, Outcome.elim_eq_ok, h, LeafTable.get?]
  simp

theorem leaf_unique {s : Schema} {i : Identifier} {p q : Property} (hp : p ∈ s.main.leaves)
    (hq : q ∈ s.main.leaves) (hpi : p.ident? = some i) (hqi : q.ident? = some i) : p = q :=
  Except.ok.inj ((find_eq_ok.mpr ⟨hp, hpi⟩).symm.trans (find_eq_ok.mpr ⟨hq, hqi⟩))

theorem findText_eq_ok {s : Schema} {text : String} {p : Property} :
    s.findText text = .ok p ↔ ∃ i, Identifier.parse text = .ok i ∧ p ∈ s.main.leaves ∧
      p.ident? = some i := by
  rw [findText, Outcome.bind_eq_ok]
  simp only [Outcome.mapError_eq_ok, find_eq_ok]

/-! ## What properties hold -/

/-- A leaf of the schema has the identifier and holds what is given. -/
def Expects (s : Schema) (i : Identifier) (a : Kind.Assignment) : Prop :=
  ∃ p ∈ s.main.leaves, p.ident? = some i ∧ p.kind.assignment = a

theorem Expects.unique {s : Schema} {i : Identifier} {a b : Kind.Assignment} (h : s.Expects i a)
    (h' : s.Expects i b) : a = b := by
  obtain ⟨p, hp, hpi, rfl⟩ := h
  obtain ⟨q, hq, hqi, rfl⟩ := h'
  rw [leaf_unique hp hq hpi hqi]

end Schema

/-- What tells which values a property may hold: its identifier and its kind. -/
def Property.slot (p : Property) : Option Identifier × Kind :=
  (p.ident?, p.kind)

theorem Schema.expects_iff_mem {s : Schema} {i : Identifier} {a : Kind.Assignment} :
    s.Expects i a ↔ ∃ k, (some i, k) ∈ s.main.leaves.map Property.slot ∧ k.assignment = a := by
  constructor
  · rintro ⟨p, hp, hi, ha⟩
    exact ⟨p.kind, List.mem_map.mpr ⟨p, hp, Prod.ext hi rfl⟩, ha⟩
  · rintro ⟨k, hk, ha⟩
    obtain ⟨p, hp, heq⟩ := List.mem_map.mp hk
    obtain ⟨hi, rfl⟩ := Prod.mk.inj heq
    exact ⟨p, hp, hi, ha⟩

/-- Equal properties have the same identifier and kind. -/
theorem Property.slot_of_equal {p q : Property} (h : p.equal q = true) : p.slot = q.slot := by
  cases p with
  | leaf =>
    cases q with
    | leaf =>
      simp only [equal, Bool.and_eq_true, beq_iff_eq] at h
      obtain ⟨⟨⟨⟨_, rfl⟩, rfl⟩, _⟩, _⟩ := h
      rfl
    | box => cases h
  | box =>
    cases q with
    | leaf => cases h
    | box => rfl

theorem Property.ident?_of_equal {p q : Property} (h : p.equal q = true) : p.ident? = q.ident? :=
  congrArg Prod.fst (slot_of_equal h)

theorem Property.kind_of_equal {p q : Property} (h : p.equal q = true) : p.kind = q.kind :=
  congrArg Prod.snd (slot_of_equal h)

mutual

/-- The leaves of equal properties are equal, one by one. -/
theorem Property.forall₂_leaves {p q : Property} (h : p.equal q = true) :
    List.Forall₂ (fun a b => a.equal b = true) p.leaves q.leaves := by
  cases p with
  | leaf =>
    cases q with
    | leaf => exact .cons h .nil
    | box => cases h
  | box t c hidden ps =>
    cases q with
    | leaf => cases h
    | box t' c' hidden' qs =>
      simp only [equal, Bool.and_eq_true] at h
      exact forall₂_leavesOf h.2

theorem Property.forall₂_leavesOf {ps qs : List Property} (h : equalList ps qs = true) :
    List.Forall₂ (fun a b => a.equal b = true) (leavesOf ps) (leavesOf qs) := by
  cases ps with
  | nil =>
    cases qs with
    | nil => exact .nil
    | cons => cases h
  | cons p ps =>
    cases qs with
    | nil => cases h
    | cons q qs =>
      simp only [equalList, Bool.and_eq_true] at h
      exact List.rel_append (forall₂_leaves h.1) (forall₂_leavesOf h.2)

end

/-- The leaves of equal properties have the same identifiers and kinds. -/
theorem Property.map_slot_leaves {p q : Property} (h : p.equal q = true) :
    p.leaves.map slot = q.leaves.map slot := by
  have hleaves := forall₂_leaves h
  generalize p.leaves = ps at hleaves ⊢
  generalize q.leaves = qs at hleaves ⊢
  induction hleaves with
  | nil => rfl
  | cons hequal _ ih => rw [List.map_cons, List.map_cons, slot_of_equal hequal, ih]

/-- **Equal schemata expect the same** under each identifier. -/
theorem Schema.expects_of_equal {s s' : Schema} (h : s.equal s' = true) (i : Identifier)
    (a : Kind.Assignment) : s.Expects i a ↔ s'.Expects i a := by
  rw [equal, Bool.and_eq_true] at h
  rw [expects_iff_mem, expects_iff_mem, Property.map_slot_leaves h.1]

end CollectionArchive
