import CollectionArchive.Decimal.Digits
import Mathlib.Data.Nat.Init

/-!
# Decimal digits are read back

* `Decimal.digit?_digitChar`: the value of a digit that is written.
* `Decimal.spanDigits_append`, `Decimal.spanDigits_suffix`: digits are read up to the first
  character that is none.
* **`Decimal.exists_spanDigits`**: a natural number is read back from its digits, and starts with a
  zero only if it is zero.
-/

namespace CollectionArchive.Decimal

/-- The value of a digit that is written. -/
theorem digit?_digitChar {k : Nat} (h : k < 10) : digit? (Nat.digitChar k) = some k := by
  have hall : ∀ k < 10, digit? (Nat.digitChar k) = some k := by decide
  exact hall k h

/-- No digit is at the start of a text. -/
def NoDigit (cs : List Char) : Prop :=
  ∀ c ∈ cs.head?, digit? c = none

theorem spanDigits_of_noDigit {cs : List Char} (h : NoDigit cs) : spanDigits cs = ([], cs) := by
  cases cs with
  | nil => rfl
  | cons c cs =>
    have hc : digit? c = none := h c rfl
    rw [spanDigits, hc]

/-- Digits are read up to the first character that is none. -/
theorem spanDigits_append (cs : List Char) {more : List Char} (h : NoDigit more) :
    spanDigits (cs ++ more) = ((spanDigits cs).1, (spanDigits cs).2 ++ more) := by
  induction cs with
  | nil => exact spanDigits_of_noDigit h
  | cons c cs ih =>
    rw [List.cons_append, spanDigits, spanDigits]
    cases digit? c with
    | none => rfl
    | some d => simp only [ih]

/-- Digits go on to be read in what follows a text of digits. -/
theorem spanDigits_append_of_digits {cs : List Char} {ds : List Nat}
    (h : spanDigits cs = (ds, [])) (more : List Char) :
    spanDigits (cs ++ more) = (ds ++ (spanDigits more).1, (spanDigits more).2) := by
  induction cs generalizing ds with
  | nil =>
    obtain rfl := (Prod.mk.inj h).1
    rfl
  | cons c cs ih =>
    rw [spanDigits] at h
    rw [List.cons_append, spanDigits]
    cases hc : digit? c with
    | none =>
      rw [hc] at h
      cases (Prod.mk.inj h).2
    | some d =>
      rw [hc] at h
      obtain ⟨rfl, hrest⟩ := Prod.mk.inj h
      simp only [ih (Prod.ext rfl hrest), List.cons_append]

theorem spanDigits_suffix (cs : List Char) : (spanDigits cs).2 <:+ cs := by
  induction cs with
  | nil => exact List.suffix_rfl
  | cons c cs ih =>
    rw [spanDigits]
    cases digit? c with
    | none => exact List.suffix_rfl
    | some d => exact ih.trans (List.suffix_cons c cs)

/-- A sign is taken off the front of a text. -/
theorem splitSign_append (c : Char) (cs more : List Char) :
    splitSign (c :: cs ++ more) = ((splitSign (c :: cs)).1, (splitSign (c :: cs)).2 ++ more) := by
  by_cases hminus : c = '-'
  · subst hminus
    rfl
  · by_cases hplus : c = '+'
    · subst hplus
      rfl
    · simp [splitSign, hminus, hplus]

theorem splitSign_suffix (cs : List Char) : (splitSign cs).2 <:+ cs := by
  unfold splitSign
  split
  · exact List.suffix_cons _ _
  · exact List.suffix_cons _ _
  · exact List.suffix_rfl

/-- One more digit. -/
theorem ofDigits_concat (ds : List Nat) (d : Nat) :
    ofDigits (ds ++ [d]) = ofDigits ds * 10 + d := by
  rw [ofDigits, List.foldl_append, ← ofDigits, List.foldl_cons, List.foldl_nil]

/-- A digit is read back. -/
theorem spanDigits_digitChar {k : Nat} (h : k < 10) :
    spanDigits [Nat.digitChar k] = ([k], []) := by
  rw [spanDigits, digit?_digitChar h]
  rfl

/-- **A natural number is read back from its digits.** The first of them is zero only if the number
is. -/
theorem exists_spanDigits (n : Nat) : ∃ d ds, spanDigits (natChars n) = (d :: ds, []) ∧
    ofDigits (d :: ds) = n ∧ (d = 0 → ds = []) := by
  induction n using Nat.strongRecOn with
  | ind n ih =>
    rw [natChars, Nat.toDigits_eq_if (by decide)]
    split
    · rename_i hn
      exact ⟨n, [], spanDigits_digitChar hn, by simp [ofDigits], fun _ => rfl⟩
    · rename_i hn
      obtain ⟨d, ds, hspan, hvalue, hzero⟩ := ih (n / 10) (by omega)
      have hmod : n % 10 < 10 := Nat.mod_lt n (by decide)
      refine ⟨d, ds ++ [n % 10], ?_, ?_, fun hd => ?_⟩
      · rw [← natChars, spanDigits_append_of_digits hspan, spanDigits_digitChar hmod]
        rfl
      · rw [← List.cons_append, ofDigits_concat, hvalue]
        omega
      · -- a number of ten or more is no zero in front of a digit
        rw [hd, hzero hd] at hvalue
        have hsmall : n / 10 = 0 := hvalue.symm
        omega

/-- The characters of a natural number are digits. -/
theorem isDigit_of_mem_natChars {n : Nat} {c : Char} (h : c ∈ natChars n) : c.isDigit = true :=
  Nat.isDigit_of_mem_toDigits (by decide) (by decide) h

end CollectionArchive.Decimal
