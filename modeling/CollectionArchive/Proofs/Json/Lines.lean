import CollectionArchive.Proofs.Json.Writing
import CollectionArchive.Text.Lines

/-!
# JSON texts stand on one line

Line breaks in strings are escaped, and the compact form has none of its own.

* `Json.IsLine`: characters without a line break.
* **`Json.Value.isLine_chars`**: the compact form of a value is a line.
* `Bytes.lineFeed_notMem_ofText`: there is no line feed in the bytes of a line.
* `Bytes.pieces_flatMap`: lines that end in line feeds are found again.
-/

namespace CollectionArchive

namespace Json

/-- The characters have no line break among them. -/
def IsLine (cs : List Char) : Prop :=
  '\n' ∉ cs

instance (cs : List Char) : Decidable (IsLine cs) :=
  inferInstanceAs (Decidable (_ ∉ _))

namespace IsLine

theorem nil : IsLine [] :=
  List.not_mem_nil

theorem cons {c : Char} {cs : List Char} (hc : c ≠ '\n') (h : IsLine cs) : IsLine (c :: cs) :=
  fun hmem => (List.mem_cons.mp hmem).elim (fun heq => hc heq.symm) h

theorem append {cs ds : List Char} (h : IsLine cs) (h' : IsLine ds) : IsLine (cs ++ ds) :=
  fun hmem => (List.mem_append.mp hmem).elim h h'

theorem flatMap {α : Type} {f : α → List Char} {as : List α} (h : ∀ a ∈ as, IsLine (f a)) :
    IsLine (as.flatMap f) := by
  intro hmem
  obtain ⟨a, ha, hfa⟩ := List.mem_flatMap.mp hmem
  exact h a ha hfa

end IsLine

theorem isLine_hexQuad (n : Nat) : IsLine (hexQuad n) := by
  have hdigit : ∀ k < 16, Nat.digitChar k ≠ '\n' := by decide
  intro hmem
  obtain ⟨k, hk, hchar⟩ := List.mem_map.mp hmem
  refine hdigit k ?_ hchar
  simp only [List.mem_cons, List.not_mem_nil, or_false] at hk
  omega

theorem isLine_escapedChar (c : Char) : IsLine (escapedChar c) := by
  unfold escapedChar
  split_ifs with hquote hback hb hf hn hr ht hcontrol
  -- Seven escapes of one letter, one of a number, and a character that stands for itself.
  iterate 7 decide
  · exact .cons (by decide) (.cons (by decide) (isLine_hexQuad _))
  · exact .cons (fun h => hn (beq_iff_eq.mpr h)) .nil

theorem isLine_quotedChars (s : String) : IsLine (quotedChars s) :=
  .append (.cons (by decide) (.flatMap fun c _ => isLine_escapedChar c)) (by decide : IsLine ['"'])

theorem isLine_boolChars (b : Bool) : IsLine (boolChars b) := by
  cases b <;> decide

theorem isLine_number (n : Number) : IsLine n.chars :=
  fun hmem => absurd (Number.isGap_of_mem_chars hmem) (by decide)

theorem isLine_commaSeparated {parts : List (List Char)} (h : ∀ part ∈ parts, IsLine part) :
    IsLine (commaSeparated parts) := by
  induction parts with
  | nil => exact .nil
  | cons part parts ih =>
    obtain ⟨hpart, hparts⟩ := List.forall_mem_cons.mp h
    cases parts with
    | nil =>
      rw [Tree.commaSeparated_singleton]
      exact hpart
    | cons part' parts =>
      rw [Tree.commaSeparated_cons_cons]
      exact .append hpart (.cons (by decide) (ih hparts))

theorem isLine_bracketed {parts : List (List Char)} (h : ∀ part ∈ parts, IsLine part) :
    IsLine (bracketed parts) :=
  .append (.cons (by decide) (isLine_commaSeparated h)) (by decide : IsLine [']'])

theorem isLine_braced {parts : List (String × List Char)} (h : ∀ part ∈ parts, IsLine part.2) :
    IsLine (braced parts) := by
  refine .append (.cons (by decide) (isLine_commaSeparated fun part hpart => ?_))
    (by decide : IsLine ['\x7d'])
  obtain ⟨p, hp, rfl⟩ := List.mem_map.mp hpart
  exact .append (isLine_quotedChars p.1) (.cons (by decide) (h p hp))

namespace Value

mutual

/-- **The compact form of a value is a line.** -/
theorem isLine_chars (v : Value) : IsLine v.chars := by
  cases v with
  | null => exact (by decide : IsLine Value.null.chars)
  | bool b => exact isLine_boolChars b
  | number n => exact isLine_number n
  | text s => exact isLine_quotedChars s
  | array items => exact isLine_bracketed (isLine_itemChars items)
  | object members => exact isLine_braced (isLine_memberChars members)

theorem isLine_itemChars (items : List Value) : ∀ part ∈ itemChars items, IsLine part := by
  cases items with
  | nil => exact List.forall_mem_nil _
  | cons v vs => exact List.forall_mem_cons.mpr ⟨isLine_chars v, isLine_itemChars vs⟩

theorem isLine_memberChars (members : List (String × Value)) :
    ∀ part ∈ memberChars members, IsLine part.2 := by
  cases members with
  | nil => exact List.forall_mem_nil _
  | cons m ms =>
    obtain ⟨key, v⟩ := m
    exact List.forall_mem_cons.mpr ⟨isLine_chars v, isLine_memberChars ms⟩

end

end Value

end Json

/-! ## Lines of bytes -/

namespace Bytes

/-- Only a line break has a line feed among its bytes: all bytes of a longer sequence are large. -/
theorem eq_lineBreak_of_mem {c : Char} (h : lineFeed ∈ String.utf8EncodeChar c) : c = '\n' := by
  have hbyte : ∀ n, n % 256 ≠ 10 → lineFeed ≠ UInt8.ofNat n := by
    intro n hn heq
    have hmod := congrArg UInt8.toNat heq
    rw [UInt8.toNat_ofNat'] at hmod
    exact hn hmod.symm
  unfold String.utf8EncodeChar at h
  dsimp only at h
  split_ifs at h with hone
  · have hval : c.val.toNat % 256 = 10 :=
      Decidable.byContradiction fun hn => hbyte _ hn (List.mem_singleton.mp h)
    exact Char.ext (UInt32.toNat_inj.mp (show c.val.toNat = 10 by omega))
  all_goals
    refine absurd h ?_
    simp only [List.mem_cons, List.not_mem_nil, or_false, not_or]
    repeat' apply And.intro
    all_goals exact hbyte _ (by omega)

/-- There is no line feed in the bytes of a line. -/
theorem lineFeed_notMem_ofText {cs : List Char} (h : Json.IsLine cs) :
    lineFeed ∉ ofText (String.ofList cs) := by
  intro hmem
  rw [ofText_ofList] at hmem
  obtain ⟨c, hc, hbyte⟩ := List.mem_flatMap.mp hmem
  exact h (eq_lineBreak_of_mem hbyte ▸ hc)

/-- Lines that end in line feeds are found again, with nothing behind the last of them. -/
theorem pieces_flatMap {ls : List Bytes} (h : ∀ l ∈ ls, lineFeed ∉ l) :
    pieces (ls.flatMap fun l => l ++ [lineFeed]) = ls ++ [[]] := by
  have hends : ls.flatMap (fun l => l ++ [lineFeed]) = [lineFeed].intercalate (ls ++ [[]]) := by
    clear h
    induction ls with
    | nil => rfl
    | cons l ls ih =>
      obtain ⟨next, more, hmore⟩ : ∃ next more, ls ++ [[]] = next :: more :=
        List.exists_cons_of_ne_nil (by simp)
      rw [List.flatMap_cons, ih, List.cons_append, hmore, List.intercalate_cons_cons]
  rw [pieces, hends, List.splitOn_intercalate]
  · intro l hl
    rcases List.mem_append.mp hl with hl | hl
    · exact h l hl
    · rw [List.mem_singleton.mp hl]
      exact List.not_mem_nil
  · simp

end Bytes

end CollectionArchive
