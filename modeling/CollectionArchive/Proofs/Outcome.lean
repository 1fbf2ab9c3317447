import Mathlib.Data.List.Forall2

/-!
# Outcomes

How the outcomes of steps make up the outcome of several of them.

* `Outcome.bind_eq_ok`, `Outcome.map_eq_ok`, `Outcome.mapError_eq_ok`: when a composed step
  succeeds; `Outcome.bind_eq_error`, `Outcome.map_eq_error`, `Outcome.mapError_eq_error`: how it
  fails. `Outcome.guard_eq_ok`: when it goes on after a guard.
* `Outcome.mapM_eq_ok`, `Outcome.mapM_eq_error`: when a step succeeds for all members of a list, and
  when it fails; `Outcome.exists_of_forall₂`, `Outcome.exists_of_mapM_eq_ok`: where its results come
  from.
* `Outcome.forM_eq_error`: where a check of all members of a list fails.
-/

namespace CollectionArchive.Outcome

variable {α β ε ε' : Type}

theorem bind_eq_ok {x : Except ε α} {f : α → Except ε β} {b : β} :
    x >>= f = .ok b ↔ ∃ a, x = .ok a ∧ f a = .ok b := by
  cases x with
  | error e => simp [bind, Except.bind]
  | ok a => simp [bind, Except.bind]

theorem bind_eq_error {x : Except ε α} {f : α → Except ε β} {e : ε} :
    x >>= f = .error e ↔ x = .error e ∨ ∃ a, x = .ok a ∧ f a = .error e := by
  cases x with
  | error e => simp [bind, Except.bind]
  | ok a => simp [bind, Except.bind]

theorem map_eq_ok {x : Except ε α} {f : α → β} {b : β} :
    f <$> x = .ok b ↔ ∃ a, x = .ok a ∧ f a = b := by
  cases x with
  | error e => simp [Functor.map, Except.map]
  | ok a => simp [Functor.map, Except.map]

theorem map_eq_error {x : Except ε α} {f : α → β} {e : ε} :
    f <$> x = .error e ↔ x = .error e := by
  cases x with
  | error e => simp [Functor.map, Except.map]
  | ok a => simp [Functor.map, Except.map]

theorem mapError_eq_ok {x : Except ε α} {f : ε → ε'} {a : α} :
    x.mapError f = .ok a ↔ x = .ok a := by
  cases x with
  | error e => simp [Except.mapError]
  | ok b => simp [Except.mapError]

theorem mapError_eq_error {x : Except ε α} {f : ε → ε'} {e : ε'} :
    x.mapError f = .error e ↔ ∃ e', x = .error e' ∧ f e' = e := by
  cases x with
  | error e => simp [Except.mapError]
  | ok b => simp [Except.mapError]

theorem elim_eq_ok {x : Option α} {e : ε} {a : α} :
    x.elim (.error e) .ok = Except.ok a ↔ x = some a := by
  cases x with
  | none => simp
  | some b => simp

theorem pure_eq_ok {a b : α} : (pure a : Except ε α) = .ok b ↔ a = b := by
  simp [pure, Except.pure]

/-- What comes after a guard succeeds only if nothing is refused. -/
theorem guard_eq_ok {γ : Type} {refused : Prop} [Decidable refused] {e : ε} {f : γ → Except ε α}
    {x : Except ε α} {a : α} :
    (if refused then throw e >>= f else x) = .ok a ↔ ¬ refused ∧ x = .ok a := by
  split
  · rename_i h
    exact iff_of_false (fun hx => by cases hx) fun hx => hx.1 h
  · rename_i h
    exact (and_iff_right h).symm

/-- A step succeeds for all members of a list, and then its results are in their order. -/
theorem mapM_eq_ok {f : α → Except ε β} {xs : List α} {ys : List β} :
    xs.mapM f = .ok ys ↔ List.Forall₂ (fun x y => f x = .ok y) xs ys := by
  induction xs generalizing ys with
  | nil =>
    rw [List.mapM_nil, List.forall₂_nil_left_iff, pure_eq_ok]
    exact eq_comm
  | cons x xs ih =>
    rw [List.mapM_cons, bind_eq_ok]
    constructor
    · rintro ⟨y, hy, h⟩
      obtain ⟨zs, hzs, h⟩ := bind_eq_ok.mp h
      obtain rfl := pure_eq_ok.mp h
      exact .cons hy (ih.mp hzs)
    · rintro (_ | ⟨hy, h⟩)
      exact ⟨_, hy, bind_eq_ok.mpr ⟨_, ih.mpr h, rfl⟩⟩

/-- What is related to a list one by one has something related to each member. -/
theorem exists_of_forall₂ {R : α → β → Prop} {xs : List α} {ys : List β}
    (h : List.Forall₂ R xs ys) {y : β} (hy : y ∈ ys) : ∃ x ∈ xs, R x y := by
  induction h with
  | nil => cases hy
  | @cons x z xs ys hx _ ih =>
    rcases List.mem_cons.mp hy with rfl | hy
    · exact ⟨x, List.mem_cons_self, hx⟩
    · obtain ⟨x', hx', h⟩ := ih hy
      exact ⟨x', List.mem_cons_of_mem x hx', h⟩

/-- Each result of a step is that for a member of the list. -/
theorem exists_of_mapM_eq_ok {f : α → Except ε β} {xs : List α} {ys : List β}
    (h : xs.mapM f = .ok ys) {y : β} (hy : y ∈ ys) : ∃ x ∈ xs, f x = .ok y :=
  exists_of_forall₂ (mapM_eq_ok.mp h) hy

/-- A step fails for the members of a list as it fails for the first of them for which it does. -/
theorem mapM_eq_error {f : α → Except ε β} {xs : List α} {e : ε} : xs.mapM f = .error e ↔
    ∃ front x back, xs = front ++ x :: back ∧ (∀ y ∈ front, ∃ b, f y = .ok b) ∧
      f x = .error e := by
  induction xs with
  | nil =>
    rw [List.mapM_nil]
    constructor
    · intro h
      cases h
    · rintro ⟨front, x, back, heq, _⟩
      cases front <;> cases heq
  | cons x xs ih =>
    rw [List.mapM_cons, bind_eq_error]
    constructor
    · rintro (hx | ⟨b, hb, h⟩)
      · exact ⟨[], x, xs, rfl, List.forall_mem_nil _, hx⟩
      · rcases bind_eq_error.mp h with h | ⟨_, _, h⟩
        · obtain ⟨front, y, back, rfl, hfront, hy⟩ := ih.mp h
          exact ⟨x :: front, y, back, rfl, List.forall_mem_cons.mpr ⟨⟨b, hb⟩, hfront⟩, hy⟩
        · cases h
    · rintro ⟨front, y, back, heq, hfront, hy⟩
      cases front with
      | nil =>
        obtain ⟨rfl, rfl⟩ := List.cons.inj heq
        exact .inl hy
      | cons z front =>
        obtain ⟨rfl, rfl⟩ := List.cons.inj heq
        obtain ⟨⟨b, hb⟩, hfront⟩ := List.forall_mem_cons.mp hfront
        exact .inr ⟨b, hb, bind_eq_error.mpr (.inl (ih.mpr ⟨front, y, back, rfl, hfront, hy⟩))⟩

theorem exists_of_mapM_eq_error {f : α → Except ε β} {xs : List α} {e : ε}
    (h : xs.mapM f = .error e) : ∃ x ∈ xs, f x = .error e := by
  obtain ⟨front, x, back, rfl, _, hx⟩ := mapM_eq_error.mp h
  exact ⟨x, by simp, hx⟩

/-- A check fails for the members of a list as it fails for the first of them that it refuses. -/
theorem forM_eq_error {check : α → Except ε Unit} {xs : List α} {e : ε} :
    xs.forM check = .error e ↔ ∃ front x back, xs = front ++ x :: back ∧
      (∀ y ∈ front, check y = .ok ()) ∧ check x = .error e := by
  induction xs with
  | nil =>
    constructor
    · intro h
      cases h
    · rintro ⟨front, x, back, heq, _⟩
      cases front <;> cases heq
  | cons x xs ih =>
    rw [List.forM_eq_forM, List.forM_cons, bind_eq_error, ← List.forM_eq_forM]
    constructor
    · rintro (hx | ⟨_, hx, h⟩)
      · exact ⟨[], x, xs, rfl, List.forall_mem_nil _, hx⟩
      · obtain ⟨front, y, back, rfl, hfront, hy⟩ := ih.mp h
        exact ⟨x :: front, y, back, rfl, List.forall_mem_cons.mpr ⟨hx, hfront⟩, hy⟩
    · rintro ⟨front, y, back, heq, hfront, hy⟩
      cases front with
      | nil =>
        obtain ⟨rfl, rfl⟩ := List.cons.inj heq
        exact .inl hy
      | cons z front =>
        obtain ⟨rfl, rfl⟩ := List.cons.inj heq
        obtain ⟨hx, hfront⟩ := List.forall_mem_cons.mp hfront
        exact .inr ⟨(), hx, ih.mpr ⟨front, y, back, rfl, hfront, hy⟩⟩

end CollectionArchive.Outcome
