import CollectionArchive.Json.Tree
import CollectionArchive.Json.Writer
import CollectionArchive.Proofs.Text.Utf8
import Mathlib.Tactic.SplitIfs

/-!
# Strings are read back

* `Json.Tree.hexUnit_hexQuad`: four hexadecimal digits are read back.
* `Json.Tree.readText_escapedChar`: so is one character of a string.
* **`Json.Tree.readText_quotedChars`**: so is a string, with all after it untouched.
-/

namespace CollectionArchive.Json.Tree

/-- No text of four characters is shorter than four bytes. -/
theorem shorterThan_four (a b c d : Char) (rest : List Char) :
    shorterThan 4 (a :: b :: c :: d :: rest) = false := by
  have ha := a.utf8Size_pos
  have hb := b.utf8Size_pos
  have hc := c.utf8Size_pos
  have hd := d.utf8Size_pos
  refine decide_eq_false ?_
  simp only [List.take_succ_cons, List.take_zero, List.foldl_cons, List.foldl_nil]
  omega

/-- Four hexadecimal digits are read back. -/
theorem hexUnit_hexQuad {n : Nat} (h : n < 0x10000) (rest : List Char) :
    hexUnit (hexQuad n ++ rest) = .ok (n, rest) := by
  have hvalue : ∀ k, Text.hexValue? (Nat.digitChar (k % 16)) = some (k % 16) := fun k =>
    Text.hexValue?_digitChar (Nat.mod_lt k (by decide))
  have hsum : n / 0x1000 % 16 * 0x1000 + n / 0x100 % 16 * 0x100 + n / 0x10 % 16 * 0x10 + n % 16
      = n := by
    omega
  simp only [hexQuad, List.map_cons, List.map_nil, List.cons_append, List.nil_append, hexUnit,
    shorterThan_four, hvalue, hsum]
  rfl

/-- A control that is written as a unit of 16 bits is read back; it is no half of a pair. -/
theorem pushUnit_control {c : Char} (h : c.toNat < 0x20) (cs : List Char) :
    ({ chars := cs } : TextState).pushUnit c.toNat = { chars := c :: cs } := by
  have hhigh : ¬ 0xD800 ≤ c.toNat := by omega
  have hlow : ¬ 0xDC00 ≤ c.toNat := by omega
  simp [TextState.pushUnit, hhigh, hlow, Char.ofNat_toNat]

/-- One character of a string is read back. -/
theorem readText_escapedChar (c : Char) (cs rest : List Char) :
    readText { chars := cs } (escapedChar c ++ rest) = readText { chars := c :: cs } rest := by
  unfold escapedChar
  split_ifs with hquote hback hb hf hn hr ht hcontrol
  · rw [beq_iff_eq.mp hquote]
    rfl
  · rw [beq_iff_eq.mp hback]
    rfl
  · rw [beq_iff_eq.mp hb]
    rfl
  · rw [beq_iff_eq.mp hf]
    rfl
  · rw [beq_iff_eq.mp hn]
    rfl
  · rw [beq_iff_eq.mp hr]
    rfl
  · rw [beq_iff_eq.mp ht]
    rfl
  · have hunit := hexUnit_hexQuad (show c.toNat < 0x10000 by omega) rest
    simp only [hexQuad, List.map_cons, List.map_nil] at hunit ⊢
    simp only [List.cons_append, List.nil_append] at hunit ⊢
    rw [readText, hunit]
    dsimp only
    rw [pushUnit_control hcontrol]
  · simp only [beq_iff_eq] at hquote hback
    rw [List.cons_append, List.nil_append, readText.eq_def]
    simp [hback, hcontrol]
    rfl

/-- The characters of a string are read back one after the other. -/
theorem readText_flatMap (cs read rest : List Char) :
    readText { chars := read } (cs.flatMap escapedChar ++ rest) =
      readText { chars := cs.reverse ++ read } rest := by
  induction cs generalizing read with
  | nil => rfl
  | cons c cs ih =>
    rw [List.flatMap_cons, List.append_assoc, readText_escapedChar, ih, List.reverse_cons,
      List.append_assoc, List.singleton_append]

/-- **A string is read back**, after its opening quote, and what follows it is left. -/
theorem readText_quotedChars (s : String) : ∃ after, quotedChars s = '"' :: after ∧
    ∀ rest, readText {} (after ++ rest) = .ok (some s, rest) := by
  refine ⟨s.toList.flatMap escapedChar ++ ['"'], by simp [quotedChars], fun rest => ?_⟩
  rw [List.append_assoc, readText_flatMap, List.singleton_append, readText, List.append_nil]
  simp [TextState.content, TextState.settle]

end CollectionArchive.Json.Tree
