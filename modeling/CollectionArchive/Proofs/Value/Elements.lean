import CollectionArchive.Proofs.Outcome
import CollectionArchive.Value.Cast

/-!
# Casts of items

The items of an array are cast one by one to one kind. Either all of them can be cast, or there is a
first that cannot.

* `Cast.Elements`, `Cast.IsFirstMiss`: what the items become, and which of them cannot be cast.
* `Cast.exists_elements_iff`: the items become something exactly if each of them can be cast.
* **`Cast.list_array_eq_ok`**, `Cast.list_array_eq_error`, `Cast.list_eq_ok`: casts to lists.
-/

namespace CollectionArchive

open Json (Value)

/-! ## Items -/

namespace Cast

/-- What the items become if each of them is cast to a kind, in their order. -/
def Elements (k : Kind) (items : List Value) (xs : List PropertyValue) : Prop :=
  List.Forall₂ (fun item x => value k item = .ok x) items xs

/-- The item is the first that cannot be cast to a kind. -/
structure IsFirstMiss (k : Kind) (items : List Value) (item : Value) (reason : CastError) :
    Prop where
  split : ∃ front back, items = front ++ item :: back ∧ ∀ w ∈ front, ∃ x, value k w = .ok x
  fails : value k item = .error reason

variable {k : Kind} {items : List Value} {item : Value} {reason : CastError}
  {xs : List PropertyValue}

theorem mapM_value_eq_ok : items.mapM (value k) = .ok xs ↔ Elements k items xs :=
  Outcome.mapM_eq_ok

theorem mapM_value_eq_error :
    items.mapM (value k) = .error reason ↔ ∃ item, IsFirstMiss k items item reason := by
  rw [Outcome.mapM_eq_error]
  constructor
  · rintro ⟨front, item, back, hsplit, hfront, hitem⟩
    exact ⟨item, ⟨front, back, hsplit, hfront⟩, hitem⟩
  · rintro ⟨item, ⟨front, back, hsplit, hfront⟩, hitem⟩
    exact ⟨front, item, back, hsplit, hfront, hitem⟩

/-- Either all items can be cast, or there is a first that cannot. -/
theorem elements_or_isFirstMiss (k : Kind) (items : List Value) :
    (∃ xs, Elements k items xs) ∨ ∃ item reason, IsFirstMiss k items item reason := by
  cases h : items.mapM (value k) with
  | ok xs => exact .inl ⟨xs, mapM_value_eq_ok.mp h⟩
  | error reason =>
    obtain ⟨item, hitem⟩ := mapM_value_eq_error.mp h
    exact .inr ⟨item, reason, hitem⟩

theorem Elements.exists_item (h : Elements k items xs) {x : PropertyValue} (hx : x ∈ xs) :
    ∃ item, value k item = .ok x := by
  obtain ⟨item, _, hitem⟩ := Outcome.exists_of_forall₂ h hx
  exact ⟨item, hitem⟩

theorem IsFirstMiss.mem (h : IsFirstMiss k items item reason) : item ∈ items := by
  obtain ⟨front, back, rfl, _⟩ := h.split
  exact List.mem_append_right front List.mem_cons_self

theorem exists_elements_iff :
    (∃ xs, Elements k items xs) ↔ ∀ item ∈ items, ∃ x, value k item = .ok x := by
  constructor
  · rintro ⟨xs, h⟩ item hitem
    obtain ⟨x, _, hx⟩ := Outcome.exists_of_forall₂ h.flip hitem
    exact ⟨x, hx⟩
  · intro h
    refine (elements_or_isFirstMiss k items).resolve_right ?_
    rintro ⟨item, reason, hmiss⟩
    obtain ⟨x, hx⟩ := h item hmiss.mem
    rw [hmiss.fails] at hx
    cases hx

/-! ## Lists -/

theorem list_array (selectable : k.isSelectable = true) :
    list k (.array items) = .list <$> items.mapM (value k) := by
  rw [list, if_pos selectable]
  rfl

/-- **An array is cast to a list exactly if each item is cast.** -/
theorem list_array_eq_ok (selectable : k.isSelectable = true) {x : PropertyValue} :
    list k (.array items) = .ok x ↔ ∃ xs, Elements k items xs ∧ x = .list xs := by
  rw [list_array selectable, Outcome.map_eq_ok]
  exact exists_congr fun xs => and_congr mapM_value_eq_ok eq_comm

theorem list_array_eq_error (selectable : k.isSelectable = true) :
    list k (.array items) = .error reason ↔ ∃ item, IsFirstMiss k items item reason := by
  rw [list_array selectable, Outcome.map_eq_error, mapM_value_eq_error]

/-- What is cast to a list is an array of items that are cast. -/
theorem list_eq_ok {v : Value} {x : PropertyValue} (h : list k v = .ok x) :
    k.isSelectable = true ∧
      ∃ items xs, v = .array items ∧ Elements k items xs ∧ x = .list xs := by
  by_cases selectable : k.isSelectable = true
  · refine ⟨selectable, ?_⟩
    cases v with
    | array items =>
      obtain ⟨xs, hxs, hx⟩ := (list_array_eq_ok selectable).mp h
      exact ⟨items, xs, rfl, hxs, hx⟩
    | _ =>
      rw [list, if_pos selectable] at h
      cases h
  · rw [list, if_neg selectable] at h
    cases h

end Cast

end CollectionArchive
