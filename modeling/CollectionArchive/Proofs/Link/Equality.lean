import CollectionArchive.Proofs.Link.Kinds

/-!
# Links of equal schemata

Equal configs differ at most in the signs of zeros, and no link tells these. So equal schemata have
the same links, and what a link refers to in one is there in the other, with the same kind.

* `Json.Object.rel_get?`: equal objects have equal members under each key.
* `Property.linkTarget?_of_equal`: equal properties lead to the same target.
* **`Schema.outboundLinks_of_equal`**: equal schemata have the same links.
* `Schema.exists_leaf_of_equal`: equal schemata have leaves with the same identifiers and kinds.
-/

namespace CollectionArchive

open Json (Value)

/-! ## Configs -/

/-- Equal objects have equal members under each key. -/
theorem Json.Object.rel_get? {a b : Object} (h : Value.equalMembers a b = true) (key : String) :
    Option.Rel (fun v w => v.equal w = true) (Table.get? a key) (Table.get? b key) := by
  induction a generalizing b with
  | nil =>
    cases b with
    | nil => exact .none
    | cons => cases h
  | cons e a ih =>
    obtain ⟨k, v⟩ := e
    cases b with
    | nil => cases h
    | cons e b =>
      obtain ⟨l, w⟩ := e
      simp only [Value.equalMembers, Bool.and_eq_true, beq_iff_eq] at h
      obtain ⟨⟨rfl, hequal⟩, hrest⟩ := h
      rw [Table.get?_cons, Table.get?_cons]
      by_cases hk : k = key
      · rw [if_pos hk, if_pos hk]
        exact .some hequal
      · rw [if_neg hk, if_neg hk]
        exact ih hrest

/-- What is found alike is used alike, if what is found is. -/
theorem Json.Value.bind_of_rel {α : Type} {o o' : Option Value} {f : Value → Option α}
    (h : Option.Rel (fun v w => v.equal w = true) o o')
    (same : ∀ v w : Value, v.equal w = true → f v = f w) : o >>= f = o' >>= f := by
  cases h with
  | none => rfl
  | some hequal => exact same _ _ hequal

theorem Json.Value.text?_of_equal {v w : Value} (h : v.equal w = true) : v.text? = w.text? := by
  cases v <;> cases w <;> simp_all [equal, text?]

theorem Json.Value.isNull_of_equal {v w : Value} (h : v.equal w = true) : v.isNull = w.isNull := by
  cases v <;> cases w <;> simp_all [equal, isNull]

theorem Grammar.rel_present? {a b : Json.Object} (h : a.equal b = true) (key : String) :
    Option.Rel (fun v w => v.equal w = true) (present? a key) (present? b key) := by
  have hget := Json.Object.rel_get? h key
  unfold present?
  generalize a.get? key = o at hget ⊢
  generalize b.get? key = o' at hget ⊢
  cases hget with
  | none => exact .none
  | @some v w hequal =>
    rw [Option.filter_some, Option.filter_some, Value.isNull_of_equal hequal]
    cases w.isNull with
    | true => exact .none
    | false => exact .some hequal

/-! ## Properties -/

namespace Property

variable {p q : Property}

/-- Equal values describe the same target. -/
theorem readTarget?_of_equal {v w : Value} (h : v.equal w = true) :
    readTarget? v = readTarget? w := by
  cases v with
  | object a =>
    cases w with
    | object b =>
      have htext (key : String) : (Table.get? a key >>= Value.text?) =
          (Table.get? b key >>= Value.text?) :=
        Value.bind_of_rel (Json.Object.rel_get? h key) fun _ _ => Value.text?_of_equal
      show (Table.get? a "target_tag" >>= Value.text?) >>= _ =
        (Table.get? b "target_tag" >>= Value.text?) >>= _
      rw [htext, htext]
    | _ => cases h
  | _ => cases w <;> first | rfl | cases h

theorem rel_configValue? (h : p.equal q = true) (key : String) :
    Option.Rel (fun v w => v.equal w = true) (p.configValue? key) (q.configValue? key) := by
  have hconfig : equalConfig p.config? q.config? = true := by
    cases p <;> cases q <;> simp_all [equal, config?]
  unfold configValue?
  generalize p.config? = c at hconfig ⊢
  generalize q.config? = c' at hconfig ⊢
  cases c with
  | none =>
    cases c' with
    | none => exact .none
    | some => cases hconfig
  | some a =>
    cases c' with
    | none => cases hconfig
    | some b => exact Grammar.rel_present? hconfig key

/-- **Equal properties lead to the same target.** -/
theorem linkTarget?_of_equal (h : p.equal q = true) : p.linkTarget? = q.linkTarget? := by
  have hvalue := rel_configValue? h "target"
  have htarget := Value.bind_of_rel hvalue fun _ _ => readTarget?_of_equal
  unfold linkTarget? isOutboundLink
  rw [kind_of_equal h, htarget]
  generalize p.configValue? "target" = o at hvalue
  generalize q.configValue? "target" = o' at hvalue ⊢
  cases hvalue <;> rfl

theorem ofProperty?_of_equal (h : p.equal q = true) (source : String) :
    OutboundLink.ofProperty? source p = OutboundLink.ofProperty? source q := by
  unfold OutboundLink.ofProperty?
  rw [ident?_of_equal h, linkTarget?_of_equal h]

end Property

/-! ## Schemata -/

/-- **Equal schemata have the same links**, in the same order. -/
theorem Schema.outboundLinks_of_equal {s s' : Schema} (h : s.equal s' = true) (source : String) :
    s.outboundLinks source = s'.outboundLinks source := by
  rw [equal, Bool.and_eq_true] at h
  rw [outboundLinks, outboundLinks, Leaves.toList_walk, Leaves.toList_walk]
  have hleaves := Property.forall₂_leaves h.1
  generalize s.main.leaves = ps at hleaves ⊢
  generalize s'.main.leaves = qs at hleaves ⊢
  induction hleaves with
  | nil => rfl
  | cons hequal _ ih =>
    rw [List.filterMap_cons, List.filterMap_cons, Property.ofProperty?_of_equal hequal, ih]

/-- What is a leaf of a schema is one of an equal schema, with the same identifier and kind. -/
theorem Schema.exists_leaf_of_equal {s s' : Schema} (h : s.equal s' = true) {p : Property}
    (leaf : p ∈ s.main.leaves) :
    ∃ q ∈ s'.main.leaves, q.ident? = p.ident? ∧ q.kind = p.kind := by
  rw [equal, Bool.and_eq_true] at h
  obtain ⟨q, hq, hpq⟩ := Outcome.exists_of_forall₂ (Property.forall₂_leaves h.1).flip leaf
  exact ⟨q, hq, (Property.ident?_of_equal hpq).symm, (Property.kind_of_equal hpq).symm⟩

end CollectionArchive
