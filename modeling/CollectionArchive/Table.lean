import CollectionArchive.Text.Order

/-!
# Tables

* `Table`: things under keys, in ascending order of the keys, each key once.
* `Table.get?`, `Table.insert`, `Table.erase`: look-up and changes of one entry.
* `Table.get?_insert`: what is found after a change.
* `Table.get?_eq_some_iff`: what is found is what is there.
-/

namespace CollectionArchive

/-- Things under keys, in ascending order of the keys. -/
abbrev Table (κ α : Type) := List (κ × α)

namespace Table

variable {κ α : Type} [DecidableEq κ]

/-- What is under a key. -/
def get? (t : Table κ α) (key : κ) : Option α :=
  (t.find? fun e => e.1 == key).map Prod.snd

/-- Whether something is under a key. -/
def has (t : Table κ α) (key : κ) : Bool :=
  (t.get? key).isSome

/-- The keys, in ascending order. -/
def keys (t : Table κ α) : List κ :=
  t.map Prod.fst

/-- The table without what is under a key. -/
def erase (t : Table κ α) (key : κ) : Table κ α :=
  t.filter fun e => e.1 != key

variable [Ordered κ]

/-- The table with something under a key, in place of what was there. -/
def insert (t : Table κ α) (key : κ) (a : α) : Table κ α :=
  match t with
  | [] => [(key, a)]
  | (k, b) :: rest =>
    if Ordered.precedes key k then (key, a) :: (k, b) :: rest
    else if key = k then (key, a) :: rest
    else (k, b) :: insert rest key a

/-- The table of entries in any order; of two with one key the later counts. -/
def ofList (entries : List (κ × α)) : Table κ α :=
  entries.foldl (fun t e => insert t e.1 e.2) []

/-- Whether the keys ascend. -/
def Ascending (t : Table κ α) : Prop :=
  t.Pairwise fun a b => Ordered.precedes a.1 b.1 = true

instance (t : Table κ α) : Decidable t.Ascending :=
  inferInstanceAs (Decidable (t.Pairwise fun a b => Ordered.precedes a.1 b.1 = true))

/-! ## Lemmas -/

omit [Ordered κ] in
theorem get?_cons (k : κ) (b : α) (t : Table κ α) (key : κ) :
    get? ((k, b) :: t) key = if k = key then some b else get? t key := by
  by_cases h : k = key <;> simp [get?, h]

omit [Ordered κ] in
theorem get?_eq_none_of_forall {t : Table κ α} {key : κ} (h : ∀ e ∈ t, e.1 ≠ key) :
    get? t key = none := by
  simpa [get?, List.find?_eq_none] using h

theorem mem_insert {t : Table κ α} {key : κ} {a : α} {e : κ × α} (h : e ∈ insert t key a) :
    e = (key, a) ∨ e ∈ t := by
  induction t with
  | nil => exact .inl (by simpa [insert] using h)
  | cons b t ih =>
    simp only [insert] at h
    split at h
    · simpa using h
    · split at h
      · simp only [List.mem_cons] at h ⊢
        rcases h with h | h
        · exact .inl h
        · exact .inr (.inr h)
      · simp only [List.mem_cons] at h ⊢
        rcases h with h | h
        · exact .inr (.inl h)
        · exact (ih h).imp_right .inr

/-- Inserting keeps the order of the keys. -/
theorem ascending_insert {t : Table κ α} (h : t.Ascending) (key : κ) (a : α) :
    (insert t key a).Ascending := by
  induction t with
  | nil => simp [insert, Ascending]
  | cons b t ih =>
    obtain ⟨hb, ht⟩ := List.pairwise_cons.mp h
    simp only [insert]
    split
    · rename_i hk
      refine List.pairwise_cons.mpr ⟨fun e he => ?_, h⟩
      rcases List.mem_cons.mp he with rfl | he
      · exact hk
      · exact Ordered.trans hk (hb e he)
    · rename_i hk
      split
      · rename_i e
        subst e
        exact List.pairwise_cons.mpr ⟨hb, ht⟩
      · rename_i hne
        refine List.pairwise_cons.mpr ⟨fun e he => ?_, ih ht⟩
        rcases mem_insert he with rfl | he
        · exact (Ordered.total hne).resolve_left hk
        · exact hb e he

/-- After a change the new thing is under its key, and under all others what was there. -/
theorem get?_insert (t : Table κ α) (key : κ) (a : α) (other : κ) :
    get? (insert t key a) other = if key = other then some a else get? t other := by
  induction t with
  | nil => simp [insert, get?_cons]
  | cons b t ih =>
    simp only [insert]
    split
    · exact get?_cons _ _ _ _
    · split
      · rename_i e
        subst e
        rw [get?_cons, get?_cons]
        split <;> rfl
      · rename_i hne
        rw [get?_cons, get?_cons, ih]
        split
        · rename_i e
          subst e
          simp [hne]
        · rfl

/-- What comes last is put at the end. -/
theorem insert_last {t : Table κ α} {key : κ} {a : α} (h : Ascending (t ++ [(key, a)])) :
    insert t key a = t ++ [(key, a)] := by
  induction t with
  | nil => rfl
  | cons b t ih =>
    obtain ⟨hb, ht⟩ := List.pairwise_cons.mp h
    have hlt := hb (key, a) (List.mem_append_right _ List.mem_cons_self)
    have hle : ¬ Ordered.precedes key b.1 = true := ne_true_of_eq_false (Ordered.asymm hlt)
    have hne : ¬ key = b.1 := fun e => by
      rw [e, Ordered.irrefl] at hlt
      cases hlt
    rw [insert, if_neg hle, if_neg hne, ih ht, List.cons_append]

omit [Ordered κ] in
theorem mem_of_get? {t : Table κ α} {key : κ} {a : α} (h : get? t key = some a) :
    (key, a) ∈ t := by
  obtain ⟨⟨k, b⟩, he, rfl⟩ := Option.map_eq_some_iff.mp h
  have hk : k = key := by simpa using List.find?_some he
  exact hk ▸ List.mem_of_find?_eq_some he

theorem get?_of_mem {t : Table κ α} (h : t.Ascending) {key : κ} {a : α} (hm : (key, a) ∈ t) :
    get? t key = some a := by
  induction t with
  | nil => cases hm
  | cons b t ih =>
    obtain ⟨hb, ht⟩ := List.pairwise_cons.mp h
    rw [get?_cons]
    rcases List.mem_cons.mp hm with rfl | hm
    · rw [if_pos rfl]
    · rw [if_neg, ih ht hm]
      intro e
      have hlt := hb _ hm
      rw [e, Ordered.irrefl] at hlt
      cases hlt

/-- Each key is there once, so what is found under it is all that is under it. -/
theorem get?_eq_some_iff {t : Table κ α} (h : t.Ascending) {key : κ} {a : α} :
    get? t key = some a ↔ (key, a) ∈ t :=
  ⟨mem_of_get?, get?_of_mem h⟩

omit [Ordered κ] in
theorem mem_keys {t : Table κ α} {key : κ} : key ∈ t.keys ↔ (t.get? key).isSome = true := by
  induction t with
  | nil => simp [keys, get?]
  | cons b t ih =>
    rw [get?_cons, keys, List.map_cons, List.mem_cons, ← keys, ih]
    by_cases h : b.1 = key
    · simp [h]
    · simp [h, Ne.symm h]

omit [DecidableEq κ] in
theorem nodup_keys {t : Table κ α} (h : t.Ascending) : t.keys.Nodup := by
  refine List.pairwise_map.mpr (h.imp fun {a b} hab e => ?_)
  rw [e, Ordered.irrefl] at hab
  cases hab

end Table

end CollectionArchive
