import CollectionArchive.Proofs.Outcome
import CollectionArchive.Steps

/-!
# Batches of steps

What steps do one after the other, up to the first that fails. They can be cut in two anywhere.

* `Steps.run_append`: a run cut in two; **`Steps.run_eq_error`**, `Steps.run_fails`: where a run
  fails.
* `Steps.run_preserves`, `Steps.run_keeping_preserves`: what each step preserves, a run preserves.
* `Steps.run_keeping_eq_ok`, `Steps.run_keeping_bind`: a run of steps that give no state where they
  fail.
* `IsBatch`: a batch, which runs its steps; `IsBatch.run_eq`: it does nothing else.
-/

namespace CollectionArchive

variable {s α ε : Type}

namespace Steps

variable {step : s → α → Except ε Unit × s} {x x' x'' : s} {a : α} {as : List α} {e : ε}

theorem run_cons_of_ok (h : step x a = (.ok (), x')) (as : List α) :
    run step x (a :: as) = run step x' as := by
  rw [run, h]

theorem run_cons_of_error (h : step x a = (.error e, x')) (as : List α) :
    run step x (a :: as) = (.error e, x') := by
  rw [run, h]

theorem run_singleton (step : s → α → Except ε Unit × s) (x : s) (a : α) :
    run step x [a] = step x a := by
  rw [run]
  rcases step x a with ⟨⟨⟩ | ⟨⟩, x'⟩ <;> rfl

/-- A run cut in two: what comes behind is done if all before it succeeds. -/
theorem run_append (step : s → α → Except ε Unit × s) (x : s) (as bs : List α) :
    run step x (as ++ bs) =
      match run step x as with
      | (.ok (), x') => run step x' bs
      | (.error e, x') => (.error e, x') := by
  induction as generalizing x with
  | nil => rfl
  | cons a as ih =>
    rcases hstep : step x a with ⟨e | ⟨⟩, x'⟩
    · rw [List.cons_append, run_cons_of_error hstep, run_cons_of_error hstep]
    · rw [List.cons_append, run_cons_of_ok hstep, run_cons_of_ok hstep, ih]

/-- **A run fails with its first step that does**, and leaves what that step leaves. -/
theorem run_eq_error : run step x as = (.error e, x'') ↔ ∃ front a back x',
    as = front ++ a :: back ∧ run step x front = (.ok (), x') ∧ step x' a = (.error e, x'') := by
  constructor
  · intro h
    induction as generalizing x with
    | nil => cases h
    | cons a as ih =>
      rcases hstep : step x a with ⟨e' | ⟨⟩, x'⟩
      · rw [run_cons_of_error hstep] at h
        exact ⟨[], a, as, x, rfl, rfl, hstep.trans h⟩
      · rw [run_cons_of_ok hstep] at h
        obtain ⟨front, b, back, y, rfl, hfront, hb⟩ := ih h
        exact ⟨a :: front, b, back, y, rfl, (run_cons_of_ok hstep front).trans hfront, hb⟩
  · rintro ⟨front, a, back, x', rfl, hfront, ha⟩
    rw [run_append, hfront]
    exact run_cons_of_error ha back

theorem run_fails : (run step x as).1 = .error e ↔ ∃ front a back x',
    as = front ++ a :: back ∧ run step x front = (.ok (), x') ∧ (step x' a).1 = .error e := by
  constructor
  · intro h
    obtain ⟨front, a, back, x', has, hfront, ha⟩ :=
      run_eq_error.mp (Prod.ext h rfl : run step x as = (.error e, (run step x as).2))
    exact ⟨front, a, back, x', has, hfront, by rw [ha]⟩
  · rintro ⟨front, a, back, x', has, hfront, ha⟩
    rw [run_eq_error.mpr ⟨front, a, back, x', has, hfront, Prod.ext ha rfl⟩]

/-- What each step preserves, whatever becomes of it, a run preserves. -/
theorem run_preserves {P : s → Prop} (each : ∀ x a, P x → P (step x a).2) (hx : P x) :
    P (run step x as).2 := by
  induction as generalizing x with
  | nil => exact hx
  | cons a as ih =>
    have hnext := each x a hx
    rcases hstep : step x a with ⟨e | ⟨⟩, x'⟩
    · rw [hstep] at hnext
      rw [run_cons_of_error hstep]
      exact hnext
    · rw [hstep] at hnext
      rw [run_cons_of_ok hstep]
      exact ih hnext

section keeping

variable {step : s → α → Except ε s}

theorem keeping_eq_ok : keeping step x a = (.ok (), x') ↔ step x a = .ok x' := by
  rw [keeping]
  cases step x a with
  | ok y => simp
  | error e => simp

theorem keeping_eq_error : keeping step x a = (.error e, x') ↔ step x a = .error e ∧ x' = x := by
  rw [keeping]
  cases step x a with
  | ok y => simp
  | error e => simp [eq_comm]

theorem run_keeping_eq_ok : run (keeping step) x as = (.ok (), x') ↔ as.foldlM step x = .ok x' := by
  induction as generalizing x with
  | nil => simp [run, Outcome.pure_eq_ok]
  | cons a as ih =>
    rw [List.foldlM_cons, Outcome.bind_eq_ok]
    cases hstep : step x a with
    | ok y => simp [run_cons_of_ok (keeping_eq_ok.mpr hstep), ih]
    | error e => simp [run_cons_of_error (keeping_eq_error.mpr ⟨hstep, rfl⟩)]

/-- What each step preserves if it succeeds, a run preserves. -/
theorem run_keeping_preserves {P : s → Prop} (each : ∀ x a x', P x → step x a = .ok x' → P x')
    (hx : P x) : P (run (keeping step) x as).2 := by
  refine run_preserves (fun x a hx => ?_) hx
  cases hstep : step x a with
  | ok x' =>
    rw [keeping_eq_ok.mpr hstep]
    exact each x a x' hx hstep
  | error e =>
    rw [keeping_eq_error.mpr ⟨hstep, rfl⟩]
    exact hx

/-- A run goes on as its steps do that give no state where they fail. -/
theorem run_keeping_bind {β : Type} (step : s → α → Except ε s) (x : s) (as : List α)
    (next : s → Except ε β) :
    ((run (keeping step) x as).1 >>= fun _ => next (run (keeping step) x as).2) =
      as.foldlM step x >>= next := by
  induction as generalizing x with
  | nil => rfl
  | cons a as ih =>
    rw [List.foldlM_cons]
    cases hstep : step x a with
    | ok y => rw [run_cons_of_ok (keeping_eq_ok.mpr hstep), ih]; rfl
    | error e => rw [run_cons_of_error (keeping_eq_error.mpr ⟨hstep, rfl⟩)]; rfl

end keeping

end Steps

/-- A batch does its steps in their order, up to the first that fails. It leaves what that step
leaves, and so it can be cut in two anywhere. -/
structure IsBatch (step : s → α → Except ε Unit × s) (run : s → List α → Except ε Unit × s) :
    Prop where
  nil (x : s) : run x [] = (.ok (), x)
  single (x : s) (a : α) : run x [a] = step x a
  fails {x x'' : s} {as : List α} {e : ε} : run x as = (.error e, x'') ↔
    ∃ front a back x', as = front ++ a :: back ∧ run x front = (.ok (), x') ∧
      step x' a = (.error e, x'')
  append_ok {x x' : s} {as : List α} (done : run x as = (.ok (), x')) (bs : List α) :
    run x (as ++ bs) = run x' bs
  append_error {x x' : s} {as : List α} {e : ε} (failed : run x as = (.error e, x'))
    (bs : List α) : run x (as ++ bs) = (.error e, x')

namespace IsBatch

/-- Running steps is a batch. -/
theorem of_run (step : s → α → Except ε Unit × s) : IsBatch step (Steps.run step) where
  nil _ := rfl
  single := Steps.run_singleton step
  fails := Steps.run_eq_error
  append_ok done bs := by rw [Steps.run_append, done]
  append_error failed bs := by rw [Steps.run_append, failed]

/-- What goes on after a step that succeeds, and stops at one that fails, is a batch. -/
theorem of_steps {step : s → α → Except ε s} {run : s → List α → Except ε Unit × s}
    (nil : ∀ x, run x [] = (.ok (), x))
    (ok : ∀ {x a x'}, step x a = .ok x' → ∀ as, run x (a :: as) = run x' as)
    (error : ∀ {x a e}, step x a = .error e → ∀ as, run x (a :: as) = (.error e, x)) :
    IsBatch (Steps.keeping step) run := by
  have hrun : run = Steps.run (Steps.keeping step) := by
    funext x as
    induction as generalizing x with
    | nil => exact nil x
    | cons a as ih =>
      cases hstep : step x a with
      | ok x' => rw [ok hstep, ih, Steps.run_cons_of_ok (Steps.keeping_eq_ok.mpr hstep)]
      | error e =>
        rw [error hstep, Steps.run_cons_of_error (Steps.keeping_eq_error.mpr ⟨hstep, rfl⟩)]
  rw [hrun]
  exact of_run _

/-- A batch does nothing but to run its steps. -/
theorem run_eq {step : s → α → Except ε Unit × s} {run : s → List α → Except ε Unit × s}
    (batch : IsBatch step run) (x : s) (as : List α) : run x as = Steps.run step x as := by
  induction as generalizing x with
  | nil => exact batch.nil x
  | cons a as ih =>
    rcases hstep : step x a with ⟨e | ⟨⟩, x'⟩
    · rw [Steps.run_cons_of_error hstep]
      exact batch.append_error ((batch.single x a).trans hstep) as
    · rw [Steps.run_cons_of_ok hstep, ← ih]
      exact batch.append_ok ((batch.single x a).trans hstep) as

/-- A batch of steps that give no state where they fail succeeds as these do. -/
theorem succeeds {step : s → α → Except ε s} {run : s → List α → Except ε Unit × s}
    (batch : IsBatch (Steps.keeping step) run) {x x' : s} {as : List α} :
    run x as = (.ok (), x') ↔ as.foldlM step x = .ok x' := by
  rw [batch.run_eq, Steps.run_keeping_eq_ok]

end IsBatch

end CollectionArchive
