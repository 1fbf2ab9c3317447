import CollectionArchive.Text.Blank
import Mathlib.Data.List.Basic

/-!
# Texts without blanks at their ends

* `Text.IsPlain`: no character is a blank; `Text.EndsPlain`: the last one is none.
* **`Text.trim_eq_self_of_ends`**: nothing is taken off a text that neither starts nor ends in a
  blank.
-/

namespace CollectionArchive.Text

/-- No character is a blank. -/
def IsPlain (cs : List Char) : Prop :=
  ∀ c ∈ cs, isBlank c = false

/-- The text does not end in a blank. -/
def EndsPlain (s : String) : Prop :=
  ∀ c ∈ s.toList.getLast?, isBlank c = false

variable {s t : String} {cs ds : List Char}

/-- What is taken off at the end is not there any more. -/
theorem not_of_getLast?_trimBoth {p : Char → Bool} :
    ∀ c ∈ (trimBoth p cs).getLast?, p c = false := by
  intro c hc
  rw [trimBoth, List.getLast?_reverse] at hc
  have hfirst := List.head?_dropWhile_not p (trimStart p cs).reverse
  rw [← trimStart, show (trimStart p _).head? = some c from hc] at hfirst
  exact hfirst

theorem trimStart_eq_self (h : ∀ c ∈ cs.head?, isBlank c = false) : trimStart isBlank cs = cs := by
  cases cs with
  | nil => rfl
  | cons c cs =>
    rw [trimStart, List.dropWhile_cons_of_neg]
    rw [h c rfl]
    decide

/-- **Nothing is taken off a text that neither starts nor ends in a blank.** -/
theorem trim_eq_self_of_ends (starts : ∀ c ∈ s.toList.head?, isBlank c = false)
    (ends : EndsPlain s) : trim s = s := by
  have hlast : ∀ c ∈ s.toList.reverse.head?, isBlank c = false := by
    rw [List.head?_reverse]
    exact ends
  rw [trim, trimBoth, trimStart_eq_self starts, trimStart_eq_self hlast, List.reverse_reverse,
    String.ofList_toList]

theorem endsPlain_of_getLast? {c : Char} (last : s.toList.getLast? = some c)
    (plain : isBlank c = false) : EndsPlain s :=
  fun _ hd => Option.some.inj (last.symm.trans hd) ▸ plain

theorem IsPlain.nil : IsPlain [] :=
  List.forall_mem_nil _

theorem IsPlain.append (hs : IsPlain cs) (ht : IsPlain ds) : IsPlain (cs ++ ds) :=
  List.forall_mem_append.mpr ⟨hs, ht⟩

theorem IsPlain.endsPlain (h : IsPlain s.toList) : EndsPlain s :=
  fun c hc => h c (List.mem_of_getLast? hc)

theorem IsPlain.endsPlain_ofList (h : IsPlain cs) : EndsPlain (String.ofList cs) :=
  IsPlain.endsPlain (by rwa [String.toList_ofList])

/-- Nothing is taken off a text without blanks. -/
theorem trim_eq_self (h : IsPlain s.toList) : trim s = s :=
  trim_eq_self_of_ends (fun c hc => h c (List.mem_of_head? hc)) h.endsPlain

theorem EndsPlain.append (hs : EndsPlain s) (ht : EndsPlain t) : EndsPlain (s ++ t) := by
  intro c hc
  rw [String.toList_append, List.getLast?_append, Option.mem_def, Option.or_eq_some_iff] at hc
  rcases hc with hc | ⟨_, hc⟩
  · exact ht c hc
  · exact hs c hc

/-- What ends a text decides how it ends. -/
theorem EndsPlain.append_of_ne (ht : EndsPlain t) (ne : t ≠ "") (s : String) :
    EndsPlain (s ++ t) := by
  intro c hc
  have hne : t.toList ≠ [] := fun h => ne (String.toList_eq_nil_iff.mp h)
  rw [String.toList_append, List.getLast?_append_of_ne_nil _ hne] at hc
  exact ht c hc

end CollectionArchive.Text
