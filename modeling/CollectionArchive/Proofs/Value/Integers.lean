import CollectionArchive.Proofs.Json.Integers
import CollectionArchive.Proofs.Json.Writing
import CollectionArchive.Proofs.Text.Blank
import CollectionArchive.Value.Cast

/-!
# Integers of JSON and their texts

An integer literal is cast as the number that it is read as, or as a text. What fits 64 bits with a
sign is exact on both ways. Of the rest, the text is always refused; the number is not where it is
rounded to `-2 ^ 63`, which is an integer of 64 bits again.

* `Json.IsIntegerLiteral`: the texts that are integer literals, and the integers that they write.
* `Json.IsIntegerLiteral.parse_eq_ok`: what is read of them.
* `Cast.IsExact`: the cast of a value gives an integer, or fails if that does not fit.
* `Cast.isExact_text`: texts are cast exactly.
* **`Cast.integer_of_literal`**: when numbers are.
-/

namespace CollectionArchive

open Binary64 (Finite)
open Json (Literal Number Value)

/-! ## Texts of digits -/

namespace Decimal

theorem spanDigits_map_digitChar {ds : List Nat} (digits : ∀ d ∈ ds, d < 10) :
    spanDigits (ds.map Nat.digitChar) = (ds, []) := by
  induction ds with
  | nil => rfl
  | cons d ds ih =>
    obtain ⟨hd, hds⟩ := List.forall_mem_cons.mp digits
    rw [List.map_cons, spanDigits, digit?_digitChar hd, ih hds]

/-- Digits are no sign. -/
theorem splitSign_map_digitChar {ds : List Nat} (digits : ∀ d ∈ ds, d < 10) :
    splitSign (ds.map Nat.digitChar) = (false, ds.map Nat.digitChar) := by
  cases ds with
  | nil => rfl
  | cons d ds =>
    have hd := digit?_digitChar (digits d List.mem_cons_self)
    have hminus := Json.Tree.ne_of_digit hd (show digit? '-' = none by decide)
    have hplus := Json.Tree.ne_of_digit hd (show digit? '+' = none by decide)
    rw [List.map_cons]
    unfold splitSign
    split
    · rename_i heq
      exact absurd (List.cons.inj heq).1 hminus
    · rename_i heq
      exact absurd (List.cons.inj heq).1 hplus
    · rfl

/-- Digits after a minus sign or none are read as the integer that they write. -/
theorem readInt?_signedChars {negative : Bool} {ds : List Nat} (hne : ds ≠ [])
    (digits : ∀ d ∈ ds, d < 10) :
    readInt? (Json.Tree.signedChars negative (ds.map Nat.digitChar)) =
      some (signed negative (ofDigits ds)) := by
  have hsplit : splitSign (Json.Tree.signedChars negative (ds.map Nat.digitChar)) =
      (negative, ds.map Nat.digitChar) := by
    cases negative with
    | true => rfl
    | false => exact splitSign_map_digitChar digits
  rw [readInt?, hsplit]
  simp only [spanDigits_map_digitChar digits]

end Decimal

/-! ## Literals -/

namespace Json

/-- An integer literal is read as its integer, if that is a word. A zero with a minus sign is read
as a double, and so is what fits no word. -/
theorem Literal.integer_or_double_of_number? {negative : Bool} {ds : List Nat} {n : Number}
    (h : number? ⟨negative, ds, none, none⟩ = some n) :
    (Number.IsWord (Decimal.signed negative (Decimal.ofDigits ds)) ∧
      n = .integer (Decimal.signed negative (Decimal.ofDigits ds))) ∨
    ∃ x, toDouble? ⟨negative, ds, none, none⟩ = some x ∧ n = .double x ∧
      (Decimal.ofDigits ds = 0 ∨
        ¬ Number.IsWord (Decimal.signed negative (Decimal.ofDigits ds))) := by
  simp only [number?, Option.isNone_none, Bool.and_self, Bool.true_and, Bool.and_eq_true,
    Bool.not_eq_true', decide_eq_true_eq] at h
  split_ifs at h with hplus hminus
  · obtain ⟨rfl, hbound⟩ := hplus
    cases h
    have hword : Number.IsWord (Decimal.ofDigits ds) := ⟨by omega, by omega⟩
    exact .inl ⟨hword, rfl⟩
  · obtain ⟨⟨rfl, -⟩, hbound⟩ := hminus
    cases h
    have hword : Number.IsWord (-(Decimal.ofDigits ds : Int)) := ⟨by omega, by omega⟩
    exact .inl ⟨hword, rfl⟩
  · obtain ⟨x, hx, rfl⟩ := Option.map_eq_some_iff.mp h
    refine .inr ⟨x, hx, rfl, ?_⟩
    by_cases hzero : Decimal.ofDigits ds = 0
    · exact .inl hzero
    · right
      rintro ⟨hlow, hhigh⟩
      cases negative with
      | false =>
        change (Decimal.ofDigits ds : Int) < 0x10000000000000000 at hhigh
        exact hplus ⟨rfl, by omega⟩
      | true =>
        change -0x8000000000000000 ≤ -(Decimal.ofDigits ds : Int) at hlow
        exact hminus ⟨⟨rfl, Nat.pos_of_ne_zero hzero⟩, by omega⟩

/-- The text is an integer literal of these digits: they stand after a minus sign or none, and the
first of them is no zero unless it is the only one. -/
structure IsIntegerLiteral (s : String) (negative : Bool) (ds : List Nat) : Prop where
  chars : s.toList = Tree.signedChars negative (ds.map Nat.digitChar)
  nonempty : ds ≠ []
  digits : ∀ d ∈ ds, d < 10
  front : ∀ d rest, ds ≠ 0 :: d :: rest

namespace IsIntegerLiteral

variable {s : String} {negative : Bool} {ds : List Nat}

theorem readLiteral_eq (h : IsIntegerLiteral s negative ds) :
    Tree.readLiteral negative (ds.map Nat.digitChar) = .ok (⟨negative, ds, none, none⟩, []) := by
  have hsome : Tree.someDigits (ds.map Nat.digitChar) = .ok (ds, []) := by
    rw [Tree.someDigits, Decimal.spanDigits_map_digitChar h.digits]
    split
    · rename_i heq
      exact absurd (congrArg Prod.fst heq) h.nonempty
    · rename_i heq
      exact absurd (congrArg Prod.fst heq) h.nonempty
    · rfl
  have hwhole : Tree.wholeDigits (ds.map Nat.digitChar) = .ok (ds, []) := by
    rw [Tree.wholeDigits, hsome]
    simp only [bind, Except.bind]
    split
    · exact absurd rfl (h.front _ _)
    · rfl
  rw [Tree.readLiteral, hwhole]
  rfl

/-- **A literal is read as its number**, unless that is out of range. -/
theorem parse_eq_ok (h : IsIntegerLiteral s negative ds) {v : Value} :
    parse s = .ok v ↔ ∃ n, Literal.number? ⟨negative, ds, none, none⟩ = some n ∧ v = .number n := by
  have hwrites := Tree.Writes.literal h.readLiteral_eq
  rw [← h.chars] at hwrites
  have htree := Tree.ofText_of_writes hwrites
  rw [String.ofList_toList] at htree
  rw [parse, Reader.parse_eq_ok, htree]
  simp only [Reader.value, Tree.value, Outcome.elim_eq_ok, Option.map_eq_some_iff, and_true,
    eq_comm (b := v)]

theorem isBlank_of_mem (h : IsIntegerLiteral s negative ds) :
    ∀ c ∈ s.toList, Text.isBlank c = false := by
  have hdigit : ∀ k < 10, Text.isBlank (Nat.digitChar k) = false := by decide
  have hdigits : ∀ c ∈ ds.map Nat.digitChar, Text.isBlank c = false := by
    intro c hc
    obtain ⟨d, hd, rfl⟩ := List.mem_map.mp hc
    exact hdigit d (h.digits d hd)
  rw [h.chars]
  cases negative with
  | true => exact List.forall_mem_cons.mpr ⟨rfl, hdigits⟩
  | false => exact hdigits

end IsIntegerLiteral

end Json

/-! ## Casts -/

namespace Cast

/-- The cast of a value gives the integer, and fails if that does not fit 64 bits. -/
structure IsExact (v : Value) (i : Int) : Prop where
  fits : ∀ k : Integer, (k : Int) = i → value .integer v = .ok (.integer k)
  fails : (∀ k : Integer, (k : Int) ≠ i) → ∃ reason, value .integer v = .error reason

/-- What is cast without a mismatch is exact if the integer is the one that is found. -/
theorem isExact_iff {v : Value} {i : Int} {flaw : CastFlaw} {found : Option Integer}
    (h : integer v = orFlaw flaw found) : IsExact v i ↔ found = Integer.ofInt? i := by
  have hvalue : value .integer v = PropertyValue.integer <$> orFlaw flaw found := by
    rw [← h]
    rfl
  constructor
  · rintro ⟨hfits, hfails⟩
    rw [hvalue] at hfits hfails
    by_cases hi : -0x8000000000000000 ≤ i ∧ i < 0x8000000000000000
    · obtain ⟨k, hk, hkind⟩ := Outcome.map_eq_ok.mp (hfits ⟨i, hi⟩ rfl)
      rw [Integer.ofInt?, dif_pos hi, Outcome.elim_eq_ok.mp hk]
      exact congrArg some (PropertyValue.integer.inj hkind)
    · obtain ⟨reason, hreason⟩ := hfails fun k hk => hi (hk ▸ k.2)
      rw [Integer.ofInt?, dif_neg hi]
      cases found with
      | none => rfl
      | some k => cases hreason
  · rintro rfl
    constructor
    · rintro k rfl
      rw [hvalue, Integer.ofInt?, dif_pos k.2]
      rfl
    · intro hnone
      refine ⟨.invalid flaw, ?_⟩
      rw [hvalue, Integer.ofInt?, dif_neg fun hi => hnone ⟨i, hi⟩ rfl]
      rfl

/-- **Texts of integers are cast exactly.** -/
theorem isExact_text {s : String} {negative : Bool} {ds : List Nat}
    (h : Json.IsIntegerLiteral s negative ds) :
    IsExact (.text s) (Decimal.signed negative (Decimal.ofDigits ds)) := by
  have hread : integer (.text s) = orFlaw (.noInteger s)
      (Integer.ofInt? (Decimal.signed negative (Decimal.ofDigits ds))) := by
    rw [integer, Text.trim_eq_self h.isBlank_of_mem, h.chars,
      Decimal.readInt?_signedChars h.nonempty h.digits]
    rfl
  exact (isExact_iff hread).mpr rfl

/-- A double beyond the integers of 64 bits is none of them. -/
theorem integerOf?_of_le_size {x : Finite} (h : 0x8000000000000001 ≤ x.size) :
    integerOf? (.double x) = none := by
  have hden : (0 : ℚ) < x.denominator := by exact_mod_cast Nat.pow_pos Nat.succ_pos'
  have hmagnitude : 0x8000000000000001 ≤ x.magnitude / x.denominator := by
    rw [Finite.size_eq, le_div_iff₀ hden] at h
    rw [Nat.le_div_iff_mul_le (by exact_mod_cast hden)]
    exact_mod_cast h
  have hnumerator : x.numerator.natAbs = x.magnitude := by
    rw [Finite.numerator]
    split_ifs
    · exact Int.natAbs_neg _
    · rfl
  have htruncate : x.truncate.natAbs = x.magnitude / x.denominator := by
    rw [Finite.truncate, Int.natAbs_tdiv, hnumerator, Int.natAbs_natCast]
    rfl
  rw [integerOf?, Integer.ofInt?, dif_neg (by omega)]
  split_ifs <;> rfl

/-- Integers just below `-2 ^ 63`, which are no further from it than from the next double. -/
def IsRoundedUp (i : Int) : Prop :=
  -0x8000000000000400 ≤ i ∧ i < -0x8000000000000000

theorem integerOf?_of_roundedUp {negative : Bool} {ds : List Nat} {n : Number}
    (hn : Literal.number? ⟨negative, ds, none, none⟩ = some n)
    (h : IsRoundedUp (Decimal.signed negative (Decimal.ofDigits ds))) :
    integerOf? n = some ⟨-0x8000000000000000, by decide⟩ := by
  obtain ⟨hlow, hhigh⟩ := h
  have hminus : negative = true := by
    by_contra hplus
    rw [Bool.eq_false_of_not_eq_true hplus] at hhigh
    simp only [Decimal.signed, Bool.false_eq_true, if_false] at hhigh
    omega
  subst hminus
  obtain ⟨hword, -⟩ | ⟨x, hx, rfl, -⟩ := Literal.integer_or_double_of_number? hn
  · have hleast := hword.1
    omega
  · simp only [Decimal.signed, if_true] at hlow hhigh
    rw [Literal.toDouble?_of_near true (by omega) (by omega)] at hx
    cases hx
    decide +kernel

/-- Other integers are taken as they are. -/
theorem integerOf?_of_number? {negative : Bool} {ds : List Nat} {n : Number}
    (digits : ∀ d ∈ ds, d < 10) (hn : Literal.number? ⟨negative, ds, none, none⟩ = some n)
    (h : ¬ IsRoundedUp (Decimal.signed negative (Decimal.ofDigits ds))) :
    integerOf? n = Integer.ofInt? (Decimal.signed negative (Decimal.ofDigits ds)) := by
  obtain ⟨-, rfl⟩ | ⟨x, hx, rfl, hzero | hword⟩ := Literal.integer_or_double_of_number? hn
  · rfl
  · rw [Literal.toDouble?_of_zero negative hzero] at hx
    cases hx
    rw [hzero]
    cases negative <;> decide +kernel
  · have hfar : 0x8000000000000400 < Decimal.ofDigits ds := by
      rw [Number.IsWord] at hword
      rw [IsRoundedUp] at h
      cases negative with
      | false =>
        simp only [Decimal.signed, Bool.false_eq_true, if_false] at hword
        omega
      | true =>
        simp only [Decimal.signed, if_true] at h hword
        omega
    have hsize := Literal.le_size_of_toDouble? digits hfar hx
    have hlarge : Integer.ofInt? (Decimal.signed negative (Decimal.ofDigits ds)) = none := by
      rw [Integer.ofInt?, dif_neg]
      cases negative <;> simp only [Decimal.signed] <;> omega
    rw [integerOf?_of_le_size (by linarith), hlarge]

/-- **An integer literal is cast exactly as a text. As a number it is so too, but for the integers
that are rounded up to `-2 ^ 63`:** each of them is cast to that. -/
theorem integer_of_literal {s : String} {negative : Bool} {ds : List Nat} {v : Value} {i : Int}
    (literal : Json.IsIntegerLiteral s negative ds)
    (denotes : i = Decimal.signed negative (Decimal.ofDigits ds)) (parsed : Json.parse s = .ok v) :
    IsExact (.text s) i ∧ (IsExact v i ↔ ¬ IsRoundedUp i) ∧
      (IsRoundedUp i → value .integer v = .ok (.integer ⟨-0x8000000000000000, by decide⟩)) := by
  obtain ⟨n, hn, rfl⟩ := literal.parse_eq_ok.mp parsed
  subst denotes
  have hiff : IsExact (.number n) (Decimal.signed negative (Decimal.ofDigits ds)) ↔
      integerOf? n = Integer.ofInt? (Decimal.signed negative (Decimal.ofDigits ds)) :=
    isExact_iff rfl
  refine ⟨isExact_text literal, ⟨?_, ?_⟩, ?_⟩
  · intro hexact hrounded
    have hhigh := hrounded.2
    rw [hiff, integerOf?_of_roundedUp hn hrounded, Integer.ofInt?, dif_neg (by omega)] at hexact
    cases hexact
  · intro hrounded
    exact hiff.mpr (integerOf?_of_number? literal.digits hn hrounded)
  · intro hrounded
    have hfound := integerOf?_of_roundedUp hn hrounded
    rw [value, integer, hfound]
    rfl

theorem literal_belowLeast : Json.IsIntegerLiteral "-9223372036854775809" true
    [9, 2, 2, 3, 3, 7, 2, 0, 3, 6, 8, 5, 4, 7, 7, 5, 8, 0, 9] where
  chars := by decide
  nonempty := by decide
  digits := by decide
  front := by
    intro d rest h
    cases h

theorem parse_belowLeast : Json.parse "-9223372036854775809" =
    .ok (.number (.double ⟨true, 0x10000000000000, 11, by decide⟩)) :=
  literal_belowLeast.parse_eq_ok.mpr ⟨_, by decide +kernel, rfl⟩

/-- The integer below the least one is refused as a text, and cast to the least one as a number. -/
theorem integer_of_literal_belowLeast : ∃ v, Json.parse "-9223372036854775809" = .ok v ∧
    IsExact (.text "-9223372036854775809") (-9223372036854775809) ∧
      ¬ IsExact v (-9223372036854775809) ∧
      value .integer v = .ok (.integer ⟨-9223372036854775808, by decide⟩) := by
  have hrounded : IsRoundedUp (-9223372036854775809) := by
    constructor <;> decide
  have hdenotes : (-9223372036854775809 : Int) = Decimal.signed true (Decimal.ofDigits
      [9, 2, 2, 3, 3, 7, 2, 0, 3, 6, 8, 5, 4, 7, 7, 5, 8, 0, 9]) := by
    decide
  obtain ⟨htext, hnumber, hvalue⟩ :=
    integer_of_literal literal_belowLeast hdenotes parse_belowLeast
  exact ⟨_, parse_belowLeast, htext, fun h => hnumber.mp h hrounded, hvalue hrounded⟩

/-- Numbers are not always cast exactly. -/
theorem not_integer_of_literal : ¬ ∀ (s : String) (negative : Bool) (ds : List Nat) (v : Value),
    Json.IsIntegerLiteral s negative ds → Json.parse s = .ok v →
      IsExact (.text s) (Decimal.signed negative (Decimal.ofDigits ds)) ∧
        IsExact v (Decimal.signed negative (Decimal.ofDigits ds)) := by
  intro h
  obtain ⟨-, hexact⟩ := h _ _ _ _ literal_belowLeast parse_belowLeast
  have hfound : integerOf? (.double ⟨true, 0x10000000000000, 11, by decide⟩) = none :=
    (isExact_iff rfl).mp hexact
  revert hfound
  decide +kernel

end Cast

end CollectionArchive
