import CollectionArchive.Identifier.Basic
import CollectionArchive.Proofs.Outcome
import CollectionArchive.Proofs.Text.Utf8
import Mathlib.Tactic.SplitIfs

/-!
# Identifiers are read back

* `Uuid.ungroup?_hyphenate`: digits are read back from their groups.
* `Uuid.parse_chars`: a UUID is read back from its written form.
* `Identifier.text_inj`: different identifiers are written differently.
* **`Identifier.parse_eq_ok`**: an identifier is read from its written form, and from no other.
-/

namespace CollectionArchive

namespace Uuid

/-- Digits are read back from their groups. -/
theorem ungroup?_hyphenate {sizes : List Nat} {cs : List Char}
    (h : cs.length = sizes.foldr (· + ·) 0) : ungroup? sizes (hyphenate sizes cs) = some cs := by
  induction sizes generalizing cs with
  | nil =>
    obtain rfl := List.length_eq_zero_iff.mp h
    rfl
  | cons n sizes ih =>
    rw [List.foldr_cons] at h
    cases sizes with
    | nil =>
      rw [hyphenate, ungroup?, if_pos]
      simpa using h
    | cons m sizes =>
      have htake : (cs.take n).length = n := by
        rw [List.length_take]
        omega
      have hlength : (cs.drop n).length = (m :: sizes).foldr (· + ·) 0 := by
        rw [List.length_drop]
        omega
      have hrest := ih hlength
      rw [hyphenate, ungroup?, List.drop_left' htake, List.take_left' htake]
      · simp only [hrest, Option.map_some, List.take_append_drop]
      · simp
      · simp

/-- Bytes are read back from their digits. -/
theorem pairs?_flatMap (bs : Bytes) : pairs? (bs.flatMap Bytes.hexPair) = some bs := by
  induction bs with
  | nil => rfl
  | cons b bs ih =>
    have hb := b.toNat_lt
    have hhigh := Text.hexValue?_digitChar (show b.toNat / 16 < 16 by omega)
    have hlow := Text.hexValue?_digitChar (show b.toNat % 16 < 16 by omega)
    have hbyte : (b.toNat / 16 * 16 + b.toNat % 16).toUInt8 = b := by
      rw [Nat.div_add_mod' b.toNat 16]
      exact UInt8.ofNat_toNat
    rw [List.flatMap_cons, Bytes.hexPair, List.cons_append, List.cons_append, List.nil_append,
      pairs?, hhigh, hlow, ih]
    simp only [Option.pure_def, Option.bind_eq_bind, Option.bind_some, hbyte]

theorem length_digits (u : Uuid) : u.digits.length = 32 := by
  have hpairs : ∀ bs : Bytes, (bs.flatMap Bytes.hexPair).length = 2 * bs.length := by
    intro bs
    induction bs with
    | nil => rfl
    | cons b bs ih =>
      rw [List.flatMap_cons, List.length_append, ih, List.length_cons, Bytes.hexPair,
        List.length_cons, List.length_singleton]
      omega
  rw [digits, hpairs, u.size]

/-- Bytes are written with the sixteen digits. -/
theorem exists_digitChar_of_mem {u : Uuid} {c : Char} (h : c ∈ u.digits) :
    ∃ k < 16, Nat.digitChar k = c := by
  obtain ⟨b, _, hb⟩ := List.mem_flatMap.mp h
  have hlt := b.toNat_lt
  rcases List.mem_cons.mp hb with rfl | hb
  · exact ⟨_, by omega, rfl⟩
  · rw [List.mem_singleton.mp hb]
    exact ⟨_, by omega, rfl⟩

theorem mem_hyphenate {sizes : List Nat} {cs : List Char} {c : Char} (h : c ∈ hyphenate sizes cs) :
    c = '-' ∨ c ∈ cs := by
  induction sizes generalizing cs with
  | nil => exact .inr h
  | cons n sizes ih =>
    cases sizes with
    | nil => exact .inr h
    | cons m sizes =>
      rcases List.mem_append.mp h with h | h
      · exact .inr (List.mem_of_mem_take h)
      · rcases List.mem_cons.mp h with rfl | h
        · exact .inl rfl
        · exact (ih h).imp_right List.mem_of_mem_drop

/-- What holds of the hyphen and the sixteen digits holds of each character. -/
theorem forall_mem_chars {P : Char → Prop} (hyphen : P '-')
    (digit : ∀ k < 16, P (Nat.digitChar k)) (u : Uuid) : ∀ c ∈ u.chars, P c := by
  intro c hc
  rcases mem_hyphenate hc with rfl | hc
  · exact hyphen
  · obtain ⟨k, hk, rfl⟩ := exists_digitChar_of_mem hc
    exact digit k hk

theorem length_chars (u : Uuid) : u.chars.length = 36 := by
  simp [chars, groupSizes, hyphenate, length_digits]

/-- The written form has 36 characters of one byte each. -/
theorem byteSize_chars (u : Uuid) : byteSize u.chars = 36 := by
  have hsize : ∀ c ∈ u.chars, c.utf8Size = 1 := forall_mem_chars (by decide) (by decide) u
  have hsum : ∀ (cs : List Char) (n : Nat), (∀ c ∈ cs, c.utf8Size = 1) →
      cs.foldl (fun size c => size + c.utf8Size) n = n + cs.length := by
    intro cs
    induction cs with
    | nil => exact fun n _ => rfl
    | cons c cs ih =>
      intro n h
      obtain ⟨hc, hcs⟩ := List.forall_mem_cons.mp h
      rw [List.foldl_cons, ih _ hcs, hc, List.length_cons]
      omega
  rw [byteSize, hsum u.chars 0 hsize, length_chars]

/-- **A UUID is read back from its written form.** -/
theorem parse_chars (u : Uuid) : parse u.chars = .ok u := by
  have hgroups : grouped? u.chars = some u.chars := by
    rw [grouped?, byteSize_chars]
    rfl
  have hread : ofGroups? u.chars = some u := by
    rw [ofGroups?, chars, ungroup?_hyphenate (by rw [length_digits]; rfl)]
    simp [ofDigits?, digits, pairs?_flatMap, ofBytes?, u.size]
  rw [parse, hgroups]
  simp only [hread, Option.elim]

end Uuid

namespace Identifier

/-- An identifier is read back from its written form. -/
theorem parse_text (i : Identifier) : parse i.text = .ok i := by
  rw [parse, text, Uuid.text, String.toList_ofList, Uuid.parse_chars]
  simp [ofUuid?, i.version, i.standard]

/-- Different identifiers are written differently. -/
theorem text_inj {i j : Identifier} : i.text = j.text ↔ i = j := by
  constructor
  · intro h
    have hread := i.parse_text
    rw [h, parse_text] at hread
    exact (Except.ok.inj hread).symm
  · rintro rfl
    rfl

/-- An identifier is read from its written form only. -/
theorem text_of_parse {s : String} {i : Identifier} (h : parse s = .ok i) :
    i.text = s := by
  unfold parse at h
  split at h
  · cases h
  · rename_i u _
    split_ifs at h with hspelling
    have hu := Outcome.elim_eq_ok.mp h
    unfold ofUuid? at hu
    split_ifs at hu
    obtain rfl := Option.some.inj hu
    have hchars : u.chars = s.toList := by simpa using hspelling
    rw [text, Uuid.text, hchars, String.ofList_toList]

/-- **An identifier is read from its written form, and from no other.** -/
theorem parse_eq_ok {s : String} {i : Identifier} : parse s = .ok i ↔ i.text = s :=
  ⟨text_of_parse, fun h => h ▸ i.parse_text⟩

end Identifier

end CollectionArchive
