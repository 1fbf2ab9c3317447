import CollectionArchive.Proofs.Identifier.Written

/-!
# The order of identifiers

Identifiers are in the order of their bytes. It is also the order of their written forms, since the
characters of digits ascend and the hyphens stand at the same places.

* `Bytes.precedes`: whether bytes come before others.
* `Text.lexPrecedes_append`: lists that start with lists of one length.
* `Text.lexPrecedes_map`: lists of things that are in the order of what they stand for.
* `Uuid.lexPrecedes_hyphenate`: hyphens make no difference.
* **`Identifier.precedes_eq`**: the order of identifiers is that of the bytes of their texts.
-/

namespace CollectionArchive

/-- Whether bytes come before others, by the first place where they differ. -/
def Bytes.precedes (as bs : Bytes) : Bool :=
  Text.lexPrecedes UInt8.toNat as bs

namespace Text

variable {α β : Type} {key : β → Nat}

/-- Two lists that start with lists of one length differ first in these, if these differ. -/
theorem lexPrecedes_append {as bs : List β} (h : as.length = bs.length) (xs ys : List β) :
    lexPrecedes key (as ++ xs) (bs ++ ys) =
      (lexPrecedes key as bs || (as.map key == bs.map key && lexPrecedes key xs ys)) := by
  induction as generalizing bs with
  | nil =>
    obtain rfl := List.length_eq_zero_iff.mp h.symm
    simp [lexPrecedes]
  | cons a as ih =>
    cases bs with
    | nil => cases h
    | cons b bs =>
      rw [List.cons_append, List.cons_append, lexPrecedes, lexPrecedes, ih (Nat.succ.inj h)]
      cases hk : key a == key b <;> simp [hk, Bool.or_assoc]

theorem lexPrecedes_cons_self (b : β) (xs ys : List β) :
    lexPrecedes key (b :: xs) (b :: ys) = lexPrecedes key xs ys := by
  simp [lexPrecedes]

/-- Things that have the numbers of what they stand for are in the same order. -/
theorem lexPrecedes_map {f : α → β} {number : α → Nat} {as bs : List α}
    (has : ∀ a ∈ as, key (f a) = number a) (hbs : ∀ b ∈ bs, key (f b) = number b) :
    lexPrecedes key (as.map f) (bs.map f) = lexPrecedes number as bs := by
  induction as generalizing bs with
  | nil => cases bs <;> rfl
  | cons a as ih =>
    cases bs with
    | nil => rfl
    | cons b bs =>
      obtain ⟨ha, has⟩ := List.forall_mem_cons.mp has
      obtain ⟨hb, hbs⟩ := List.forall_mem_cons.mp hbs
      rw [List.map_cons, List.map_cons, lexPrecedes, lexPrecedes, ha, hb, ih has hbs]

theorem digitChar_lt_iff {j k : Nat} (hj : j < 16) (hk : k < 16) :
    (Nat.digitChar j).toNat < (Nat.digitChar k).toNat ↔ j < k := by
  have hall : ∀ j < 16, ∀ k < 16,
      (Nat.digitChar j).toNat < (Nat.digitChar k).toNat ↔ j < k := by decide
  exact hall j hj k hk

end Text

namespace Uuid

/-- Digits are in the order of the bytes that they write. -/
theorem lexPrecedes_flatMap_hexPair (as bs : Bytes) :
    Text.lexPrecedes Char.toNat (as.flatMap Bytes.hexPair) (bs.flatMap Bytes.hexPair) =
      as.precedes bs := by
  unfold Bytes.precedes
  induction as generalizing bs with
  | nil => cases bs <;> rfl
  | cons a as ih =>
    cases bs with
    | nil => rfl
    | cons b bs =>
      have ha := a.toNat_lt
      have hb := b.toNat_lt
      have hhigh := Text.digitChar_lt_iff (show a.toNat / 16 < 16 by omega)
        (show b.toNat / 16 < 16 by omega)
      have hhigh' := Text.digitChar_lt_iff (show b.toNat / 16 < 16 by omega)
        (show a.toNat / 16 < 16 by omega)
      have hlow := Text.digitChar_lt_iff (show a.toNat % 16 < 16 by omega)
        (show b.toNat % 16 < 16 by omega)
      have hlow' := Text.digitChar_lt_iff (show b.toNat % 16 < 16 by omega)
        (show a.toNat % 16 < 16 by omega)
      simp only [List.flatMap_cons, Bytes.hexPair, List.cons_append, List.nil_append,
        Text.lexPrecedes, ih]
      generalize Text.lexPrecedes UInt8.toNat as bs = rest
      rw [Bool.eq_iff_iff]
      cases rest <;> simp only [Bool.or_eq_true, Bool.and_eq_true, decide_eq_true_eq, beq_iff_eq,
        and_true, Bool.false_eq_true, and_false, or_false] <;> omega

/-- Hyphens at the same places make no difference. -/
theorem lexPrecedes_hyphenate {key : Char → Nat} (sizes : List Nat) {cs ds : List Char}
    (h : cs.length = ds.length) :
    Text.lexPrecedes key (hyphenate sizes cs) (hyphenate sizes ds) =
      Text.lexPrecedes key cs ds := by
  induction sizes generalizing cs ds with
  | nil => rfl
  | cons n sizes ih =>
    cases sizes with
    | nil => rfl
    | cons m sizes =>
      have htake : (cs.take n).length = (ds.take n).length := by simp [h]
      have hdrop : (cs.drop n).length = (ds.drop n).length := by simp [h]
      have hstep (cs : List Char) : hyphenate (n :: m :: sizes) cs =
          cs.take n ++ '-' :: hyphenate (m :: sizes) (cs.drop n) := rfl
      rw [hstep, hstep, Text.lexPrecedes_append htake, Text.lexPrecedes_cons_self,
        ih hdrop, ← Text.lexPrecedes_append htake, List.take_append_drop, List.take_append_drop]

/-- Each character of the written form is a byte. -/
theorem ofText_text (u : Uuid) : Bytes.ofText u.text = u.chars.map fun c => c.toNat.toUInt8 := by
  have hencode : ∀ c ∈ u.chars, String.utf8EncodeChar c = [c.toNat.toUInt8] :=
    forall_mem_chars (by decide) (by decide) u
  rw [text, Bytes.ofText_ofList, List.flatMap_congr hencode, ← List.map_eq_flatMap]

/-- The written forms are in the order of the bytes. -/
theorem precedes_ofText (u v : Uuid) :
    (Bytes.ofText u.text).precedes (Bytes.ofText v.text) = Bytes.precedes u.bytes v.bytes := by
  have hcode (u : Uuid) : ∀ c ∈ u.chars, (c.toNat.toUInt8).toNat = c.toNat :=
    forall_mem_chars (by decide) (by decide) u
  have hlength : u.digits.length = v.digits.length := by rw [length_digits, length_digits]
  rw [Bytes.precedes, ofText_text, ofText_text, Text.lexPrecedes_map (hcode u) (hcode v), chars,
    chars, lexPrecedes_hyphenate groupSizes hlength, digits, digits, lexPrecedes_flatMap_hexPair]

end Uuid

/-- **The order of identifiers is that of the bytes of their texts.** -/
theorem Identifier.precedes_eq (a b : Identifier) :
    Ordered.precedes a b = (Bytes.ofText a.text).precedes (Bytes.ofText b.text) :=
  (Uuid.precedes_ofText a.uuid b.uuid).symm

end CollectionArchive
