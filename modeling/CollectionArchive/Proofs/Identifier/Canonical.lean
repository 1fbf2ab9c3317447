import CollectionArchive.Identifier.Forms
import CollectionArchive.Proofs.Identifier.Written
import CollectionArchive.Proofs.Json.Reading
import CollectionArchive.Proofs.Json.Writing
import Mathlib.Data.List.SplitLengths

/-!
# Which texts are identifiers

* `Identifier.IsCanonical`: the written form of identifiers, character by character.
* `Uuid.hyphenate_flatten`: groups of digits are joined by hyphens.
* `Uuid.exists_flatMap_hexPair`: digits in lower case are those of bytes.
* `Uuid.getElem?_chars_version`, `Uuid.getElem?_chars_layout`: where version and layout stand.
* **`Identifier.exists_iff_isCanonical`**: the texts that are identifiers.
* **`identifier_of_text`**: each way to an identifier takes these texts and gives them back.
-/

namespace CollectionArchive

namespace Text

/-- The hexadecimal digits in lower case. -/
def lowerHexDigits : List Char :=
  ['0', '1', '2', '3', '4', '5', '6', '7', '8', '9', 'a', 'b', 'c', 'd', 'e', 'f']

theorem mem_lowerHexDigits {c : Char} :
    c ∈ lowerHexDigits ↔ ∃ k < 16, Nat.digitChar k = c := by
  have hdigits : lowerHexDigits = (List.range 16).map Nat.digitChar := rfl
  rw [hdigits, List.mem_map]
  simp only [List.mem_range]

end Text

/-- The text is written as identifiers are: digits in lower case, in groups with hyphens between
them, of which one tells the version and one the layout. -/
structure Identifier.IsCanonical (s : String) : Prop where
  size : s.toList.length = 36
  grouped : ∃ groups : List (List Char), groups.map List.length = [8, 4, 4, 4, 12] ∧
    (∀ group ∈ groups, ∀ c ∈ group, c ∈ Text.lowerHexDigits) ∧
    s.toList = ['-'].intercalate groups
  version : s.toList[14]? = some '4'
  layout : ∃ c ∈ ['8', '9', 'a', 'b'], s.toList[19]? = some c

namespace Uuid

/-! ## Groups -/

/-- Digits that are put into groups are these groups with hyphens between them. -/
theorem hyphenate_flatten (groups : List (List Char)) :
    hyphenate (groups.map List.length) groups.flatten = ['-'].intercalate groups := by
  induction groups with
  | nil => rfl
  | cons group groups ih =>
    cases groups with
    | nil => simp [hyphenate]
    | cons group' groups =>
      rw [List.intercalate_cons_cons, ← ih]
      simp [hyphenate]

/-- The written form is that of the digits in groups. -/
theorem exists_groups (u : Uuid) : ∃ groups : List (List Char),
    groups.map List.length = [8, 4, 4, 4, 12] ∧ groups.flatten = u.digits ∧
      u.text.toList = ['-'].intercalate groups := by
  have hlength := u.length_digits
  have hmap : (groupSizes.splitLengths u.digits).map List.length = groupSizes :=
    List.map_splitLengths_length _ _ (by rw [hlength]; decide)
  have hflatten : (groupSizes.splitLengths u.digits).flatten = u.digits :=
    List.flatten_splitLengths _ _ (by rw [hlength]; decide)
  refine ⟨_, hmap, hflatten, ?_⟩
  rw [← hyphenate_flatten, hmap, hflatten, text, String.toList_ofList, chars]

/-! ## Digits -/

/-- Digits in lower case, an even number of them, are those of bytes. -/
theorem exists_flatMap_hexPair (n : Nat) {cs : List Char} (hlength : cs.length = 2 * n)
    (h : ∀ c ∈ cs, c ∈ Text.lowerHexDigits) :
    ∃ bs : Bytes, bs.length = n ∧ bs.flatMap Bytes.hexPair = cs := by
  induction n generalizing cs with
  | zero => exact ⟨[], rfl, (List.length_eq_zero_iff.mp hlength).symm⟩
  | succ n ih =>
    match cs, hlength, h with
    | a :: b :: rest, hlength, h =>
      obtain ⟨high, hhigh, rfl⟩ := Text.mem_lowerHexDigits.mp (h a (by simp))
      obtain ⟨low, hlow, rfl⟩ := Text.mem_lowerHexDigits.mp (h b (by simp))
      have hrest : rest.length = 2 * n := by
        simp only [List.length_cons] at hlength
        omega
      obtain ⟨bs, hbs, rfl⟩ := ih hrest fun c hc => h c (by simp [hc])
      have hbyte : (UInt8.ofNat (16 * high + low)).toNat = 16 * high + low := by
        rw [UInt8.toNat_ofNat']
        omega
      have hdiv : (16 * high + low) / 16 = high := by omega
      have hmod : (16 * high + low) % 16 = low := by omega
      refine ⟨UInt8.ofNat (16 * high + low) :: bs, by simp [hbs], ?_⟩
      rw [List.flatMap_cons, Bytes.hexPair, hbyte, hdiv, hmod]
      rfl

theorem getElem?_flatMap_hexPair (bs : Bytes) (n : Nat) :
    (bs.flatMap Bytes.hexPair)[2 * n]? = bs[n]?.map fun b => Nat.digitChar (b.toNat / 16) := by
  induction bs generalizing n with
  | nil => rfl
  | cons b bs ih =>
    cases n with
    | zero => rfl
    | succ n =>
      have hnext : 2 * (n + 1) = 2 * n + 2 := by omega
      rw [List.flatMap_cons, Bytes.hexPair, hnext]
      simpa using ih n

/-- The high half of a byte stands at twice its position among the digits. -/
theorem getElem?_digits (u : Uuid) (i : Fin 16) :
    u.digits[2 * i.val]? = some (Nat.digitChar ((u.byte i).toNat / 16)) := by
  have hi : i.val < u.bytes.length := by
    rw [u.size]
    exact i.isLt
  rw [digits, getElem?_flatMap_hexPair, List.getElem?_eq_getElem hi]
  rfl

/-- The version stands behind two groups and their hyphens. -/
theorem getElem?_chars_version (u : Uuid) : u.chars[14]? = some (Nat.digitChar u.version) := by
  have hdigit : u.chars[14]? = u.digits[12]? := by
    simp [chars, groupSizes, hyphenate, u.length_digits]
  rw [hdigit]
  exact u.getElem?_digits 6

/-- The layout is told behind three groups and their hyphens. -/
theorem getElem?_chars_layout (u : Uuid) :
    u.chars[19]? = some (Nat.digitChar ((u.byte 8).toNat / 16)) := by
  have hdigit : u.chars[19]? = u.digits[16]? := by
    simp [chars, groupSizes, hyphenate, u.length_digits]
  rw [hdigit]
  exact u.getElem?_digits 8

theorem version_eq_iff (u : Uuid) : u.version = 4 ↔ u.chars[14]? = some '4' := by
  have hall : ∀ k < 16, k = 4 ↔ Nat.digitChar k = '4' := by decide
  have hlt : u.version < 16 := by
    have hbyte := (u.byte 6).toNat_lt
    unfold version
    omega
  rw [getElem?_chars_version, Option.some.injEq]
  exact hall _ hlt

theorem isStandard_iff (u : Uuid) :
    u.isStandard = true ↔ ∃ c ∈ ['8', '9', 'a', 'b'], u.chars[19]? = some c := by
  have hall : ∀ k < 16, k / 4 = 2 ↔ Nat.digitChar k ∈ ['8', '9', 'a', 'b'] := by decide
  have hbyte := (u.byte 8).toNat_lt
  have hdiv : (u.byte 8).toNat / 64 = (u.byte 8).toNat / 16 / 4 := by omega
  rw [getElem?_chars_layout, isStandard, beq_iff_eq, hdiv, hall _ (by omega)]
  simp

end Uuid

namespace Identifier

/-! ## Texts -/

theorem toList_text (i : Identifier) : i.text.toList = i.uuid.chars :=
  String.toList_ofList

/-- Identifiers are written in this form. -/
theorem isCanonical_text (i : Identifier) : IsCanonical i.text := by
  obtain ⟨groups, hmap, hflatten, htext⟩ := i.uuid.exists_groups
  refine ⟨?_, ⟨groups, hmap, ?_, htext⟩, ?_, ?_⟩
  · rw [toList_text, Uuid.length_chars]
  · intro group hgroup c hc
    have hmem : c ∈ i.uuid.digits := hflatten ▸ List.mem_flatten_of_mem hgroup hc
    exact Text.mem_lowerHexDigits.mpr (Uuid.exists_digitChar_of_mem hmem)
  · rw [toList_text]
    exact i.uuid.version_eq_iff.mp i.version
  · rw [toList_text]
    exact i.uuid.isStandard_iff.mp i.standard

/-- **The texts that are identifiers**: digits in lower case and hyphens, with the right digits for
version and layout. -/
theorem exists_iff_isCanonical {s : String} : (∃ i : Identifier, i.text = s) ↔ IsCanonical s := by
  constructor
  · rintro ⟨i, rfl⟩
    exact i.isCanonical_text
  · intro h
    obtain ⟨groups, hmap, hdigits, htext⟩ := h.grouped
    have hlength : groups.flatten.length = 2 * 16 := by
      rw [List.length_flatten, hmap]
      rfl
    have hmem : ∀ c ∈ groups.flatten, c ∈ Text.lowerHexDigits := by
      intro c hc
      obtain ⟨group, hgroup, hc⟩ := List.mem_flatten.mp hc
      exact hdigits group hgroup c hc
    obtain ⟨bs, hsize, hbs⟩ := Uuid.exists_flatMap_hexPair 16 hlength hmem
    have hchars : (⟨bs, hsize⟩ : Uuid).chars = s.toList := by
      have hgroups := Uuid.hyphenate_flatten groups
      rw [hmap] at hgroups
      rw [htext, ← hgroups, ← hbs]
      rfl
    have hversion := h.version
    have hlayout := h.layout
    rw [← hchars] at hversion hlayout
    refine ⟨⟨⟨bs, hsize⟩, (Uuid.version_eq_iff _).mpr hversion,
      (Uuid.isStandard_iff _).mpr hlayout⟩, ?_⟩
    rw [text, Uuid.text, hchars, String.ofList_toList]

/-- A UUID is an identifier whenever its written form is. -/
theorem ofUuid_eq_ok {u : Uuid} {i : Identifier} : ofUuid u = .ok i ↔ i.text = u.text := by
  rw [ofUuid, Outcome.elim_eq_ok]
  constructor
  · intro h
    unfold ofUuid? at h
    split_ifs at h
    obtain rfl := Option.some.inj h
    rfl
  · intro h
    have hread := u.parse_chars
    have hchars : i.uuid.chars = u.chars := String.ofList_injective h
    rw [← hchars, Uuid.parse_chars] at hread
    obtain rfl := Except.ok.inj hread
    rw [ofUuid?, dif_pos ⟨i.version, i.standard⟩]

/-- What is not read as an identifier is reported with its text. -/
theorem exists_cause_of_parse {s : String} (h : ∀ i, parse s ≠ .ok i) :
    ∃ cause, parse s = .error ⟨s, cause⟩ := by
  unfold parse at h ⊢
  split
  · exact ⟨_, rfl⟩
  · split_ifs
    · exact ⟨_, rfl⟩
    · rename_i u hu hchars
      cases hrandom : ofUuid? u with
      | none => exact ⟨_, rfl⟩
      | some i =>
        refine absurd ?_ (h i)
        simp [hu, hchars, hrandom]

/-- Other spellings of a UUID are reported as such. -/
theorem parse_of_spelling {s : String} {u : Uuid} (hread : Uuid.parse s.toList = .ok u)
    (h : u.text ≠ s) : parse s = .error ⟨s, .spelling⟩ := by
  have hchars : u.chars ≠ s.toList := by
    intro hsame
    rw [Uuid.text, hsame, String.ofList_toList] at h
    exact h rfl
  rw [parse, hread]
  simp [hchars]

/-! ## Forms -/

/-- No character of the written form is escaped in JSON. -/
theorem compact_json (i : Identifier) : i.json.compact = "\"" ++ i.text ++ "\"" := by
  have hescaped : ∀ c ∈ i.uuid.chars, Json.escapedChar c = [c] :=
    i.uuid.forall_mem_chars (by decide) (by decide)
  have hplain : i.text.toList.flatMap Json.escapedChar = i.text.toList := by
    rw [toList_text, List.flatMap_congr hescaped]
    exact List.flatMap_singleton' _
  apply String.toList_injective
  rw [Json.Value.compact, String.toList_ofList, json, Json.Value.chars, Json.quotedChars, hplain]
  simp

theorem reader_parse_eq_ok {doc : String} {i : Identifier} :
    reader.parse doc = .ok i ↔ Json.Reader.text.parse doc = .ok i.text := by
  rw [Json.Reader.parse_eq_ok, Json.Reader.parse_eq_ok, reader, Outcome.bind_eq_ok]
  simp only [Outcome.mapError_eq_ok, parse_eq_ok]
  constructor
  · rintro ⟨⟨s, hread, rfl⟩, hmore⟩
    exact ⟨hread, hmore⟩
  · rintro ⟨hread, hmore⟩
    exact ⟨⟨i.text, hread, rfl⟩, hmore⟩

/-- An identifier is read from a JSON string that is its written form. -/
theorem parse_json (i : Identifier) : reader.parse i.json.compact = .ok i := by
  have hwrites := Json.Tree.ofText_of_writes (Json.Tree.Writes.text i.text)
  have hread : Json.Tree.ofText i.json.compact = (.text (some i.text), false) := hwrites
  rw [reader_parse_eq_ok, Json.Reader.parse_eq_ok, hread]
  exact ⟨rfl, rfl⟩

theorem Form.identifier_eq_ok {f : Form} {i : Identifier} :
    f.identifier = .ok i ↔ f.writing = i.text := by
  cases f with
  | text s =>
    rw [identifier, parse_eq_ok, writing]
    exact eq_comm
  | itself i' =>
    rw [identifier, writing, Except.ok.injEq, text_inj]

end Identifier

/-- **Identifiers are given in one written form**, which is read back as the same identifier. Every
other text is refused with an error that carries it, also the other spellings of UUIDs. Sixteen
bytes are an identifier whenever their hyphenated digits are one, and forms and JSON take and give
these texts and no others. -/
theorem identifier_of_text :
    (∀ s : String,
      ((∃ i, Identifier.parse s = .ok i) ↔ Identifier.IsCanonical s) ∧
      (∀ i, Identifier.parse s = .ok i ↔ i.text = s) ∧
      (¬ Identifier.IsCanonical s → ∃ cause, Identifier.parse s = .error ⟨s, cause⟩) ∧
      (∀ u, Uuid.parse s.toList = .ok u → u.text ≠ s →
        Identifier.parse s = .error ⟨s, .spelling⟩)) ∧
    (∀ u : Uuid,
      (∃ groups : List (List Char), groups.map List.length = [8, 4, 4, 4, 12] ∧
        groups.flatten = u.bytes.flatMap Bytes.hexPair ∧
        u.text.toList = ['-'].intercalate groups) ∧
      ∀ i, Identifier.ofUuid u = .ok i ↔ Identifier.parse u.text = .ok i) ∧
    (∀ (f : Identifier.Form) (i : Identifier), f.identifier = .ok i ↔ f.writing = i.text) ∧
    (∀ (doc : String) (i : Identifier),
      Identifier.reader.parse doc = .ok i ↔ Json.Reader.text.parse doc = .ok i.text) ∧
    ∀ i : Identifier, i.json.compact = "\"" ++ i.text ++ "\"" ∧
      Identifier.reader.parse i.json.compact = .ok i := by
  have hcanonical (s : String) : (∃ i, Identifier.parse s = .ok i) ↔ Identifier.IsCanonical s := by
    simp only [Identifier.parse_eq_ok]
    exact Identifier.exists_iff_isCanonical
  refine ⟨fun s => ⟨hcanonical s, fun i => Identifier.parse_eq_ok, fun h => ?_,
    fun u => Identifier.parse_of_spelling⟩, fun u => ⟨u.exists_groups, fun i => ?_⟩,
    fun f i => Identifier.Form.identifier_eq_ok, fun doc i => Identifier.reader_parse_eq_ok,
    fun i => ⟨i.compact_json, i.parse_json⟩⟩
  · exact Identifier.exists_cause_of_parse fun i hi => h ((hcanonical s).mp ⟨i, hi⟩)
  · rw [Identifier.ofUuid_eq_ok, Identifier.parse_eq_ok]

/-- Capital letters are another spelling. -/
theorem identifier_of_text_capitals :
    (∃ cause, Identifier.parse "BC1E7372-3C89-44E1-853B-6C97B24FB8A4" =
      .error ⟨"BC1E7372-3C89-44E1-853B-6C97B24FB8A4", cause⟩) ∧
    Identifier.parse "BC1E7372-3C89-44E1-853B-6C97B24FB8A4" =
      .error ⟨"BC1E7372-3C89-44E1-853B-6C97B24FB8A4", .spelling⟩ := by
  obtain ⟨hs, -⟩ := identifier_of_text
  obtain ⟨-, -, hrefused, hspelling⟩ := hs "BC1E7372-3C89-44E1-853B-6C97B24FB8A4"
  refine ⟨hrefused fun h => ?_, hspelling ⟨[0xbc, 0x1e, 0x73, 0x72, 0x3c, 0x89, 0x44, 0xe1, 0x85,
    0x3b, 0x6c, 0x97, 0xb2, 0x4f, 0xb8, 0xa4], rfl⟩ rfl (by decide)⟩
  obtain ⟨i, hi⟩ := Identifier.exists_iff_isCanonical.mpr h
  have hletter : 'B' ∈ i.uuid.chars := by
    rw [← i.toList_text, hi]
    decide
  have hcapital : ∀ c ∈ i.uuid.chars, c ≠ 'B' :=
    i.uuid.forall_mem_chars (by decide) (by decide)
  exact hcapital 'B' hletter rfl

end CollectionArchive
