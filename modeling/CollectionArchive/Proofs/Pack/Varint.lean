import CollectionArchive.Pack.Varint
import Mathlib.Tactic.ByContra
import Mathlib.Tactic.SplitIfs

/-!
# Reading numbers back

* `Varint.decodeFrom_encode`: reading a written number adds it, shifted, to what was read before.
* **`Varint.decode_encode`**: a number of 64 bits is read back from its bytes, whatever follows.
* `Varint.Spells`: bytes that are read as a number, and none of them left.
* **`Varint.decode_eq_ok`**: a number is read from the bytes that spell it, and what follows them is
  left.
-/

namespace CollectionArchive.Varint

theorem encode_of_lt {n : Nat} (h : n < 128) : encode n = [n.toUInt8] := by
  rw [encode, dif_pos h]

theorem encode_of_le {n : Nat} (h : 128 ≤ n) :
    encode n = (n % 128 + 128).toUInt8 :: encode (n / 128) := by
  rw [encode, dif_neg (Nat.not_lt.mpr h)]

theorem encode_ne_nil (n : Nat) : encode n ≠ [] := by
  by_cases h : n < 128
  · rw [encode_of_lt h]
    exact List.cons_ne_nil _ _
  · rw [encode_of_le (Nat.le_of_not_lt h)]
    exact List.cons_ne_nil _ _

theorem toNat_last {n : Nat} (h : n < 128) : n.toUInt8.toNat = n := by
  rw [Nat.toUInt8_eq, UInt8.toNat_ofNat']
  omega

theorem toNat_more (n : Nat) : (n % 128 + 128).toUInt8.toNat = n % 128 + 128 := by
  rw [Nat.toUInt8_eq, UInt8.toNat_ofNat']
  omega

/-- A number of which a multiple fits 64 bits is not too long to be written where it stands. -/
theorem shift_lt {n shift : Nat} (hn : 128 ≤ n) (h : n * Nat.pow 2 shift < 0x10000000000000000) :
    shift + 7 < 64 := by
  by_contra hc
  have hpow : Nat.pow 2 64 ≤ Nat.pow 2 (shift + 7) :=
    Nat.pow_le_pow_right (by decide) (Nat.le_of_not_lt hc)
  have hmul : 128 * Nat.pow 2 shift ≤ n * Nat.pow 2 shift := Nat.mul_le_mul_right _ hn
  have hsplit : Nat.pow 2 (shift + 7) = Nat.pow 2 shift * 128 := Nat.pow_add 2 shift 7
  have h64 : Nat.pow 2 64 = 0x10000000000000000 := rfl
  omega

/-- The payloads of the bytes add up to the number, each at its shift; none is cut as long as the
whole fits 64 bits. -/
theorem decodeFrom_encode (n : Nat) (rest : Bytes) :
    ∀ (value shift : Nat), n * Nat.pow 2 shift < 0x10000000000000000 →
      decodeFrom value shift (encode n ++ rest) = .ok (value + n * Nat.pow 2 shift, rest) := by
  induction n using Nat.strongRecOn with
  | ind n ih =>
    intro value shift h
    by_cases hn : n < 128
    · rw [encode_of_lt hn]
      have hlow : low n.toUInt8 = n := by rw [low, toNat_last hn, Nat.mod_eq_of_lt hn]
      have hends : continues n.toUInt8 = false := by
        rw [continues, toNat_last hn, decide_eq_false (Nat.not_le.mpr hn)]
      simp only [List.cons_append, List.nil_append, decodeFrom, hlow, hends, Nat.mod_eq_of_lt h,
        Bool.not_false, if_true]
    · have hle : 128 ≤ n := Nat.le_of_not_lt hn
      have hshift : ¬ 64 ≤ shift + 7 := Nat.not_le.mpr (shift_lt hle h)
      have hlow : low (n % 128 + 128).toUInt8 = n % 128 := by rw [low, toNat_more]; omega
      have hmore : continues (n % 128 + 128).toUInt8 = true := by
        rw [continues, toNat_more, decide_eq_true (by omega)]
      have hpow : Nat.pow 2 (shift + 7) = Nat.pow 2 shift * 128 := Nat.pow_add 2 shift 7
      have hsum : n % 128 * Nat.pow 2 shift + n / 128 * Nat.pow 2 (shift + 7) =
          n * Nat.pow 2 shift := by
        calc n % 128 * Nat.pow 2 shift + n / 128 * Nat.pow 2 (shift + 7)
          _ = (n % 128 + 128 * (n / 128)) * Nat.pow 2 shift := by
            rw [hpow, Nat.add_mul, Nat.mul_comm (Nat.pow 2 shift), ← Nat.mul_assoc,
              Nat.mul_comm (n / 128)]
          _ = n * Nat.pow 2 shift := by rw [Nat.mod_add_div]
      have hfirst : n % 128 * Nat.pow 2 shift < 0x10000000000000000 := by omega
      have hrest : n / 128 * Nat.pow 2 (shift + 7) < 0x10000000000000000 := by omega
      rw [encode_of_le hle]
      simp only [List.cons_append, decodeFrom, hlow, hmore, Nat.mod_eq_of_lt hfirst,
        Bool.not_true, Bool.false_eq_true, if_false, hshift]
      rw [ih (n / 128) (by omega) _ _ hrest, Nat.add_assoc, hsum]

/-- **A number of 64 bits is read back from its bytes**, and nothing after them is taken. -/
theorem decode_encode {n : Nat} (h : n < 0x10000000000000000) (rest : Bytes) :
    decode (encode n ++ rest) = .ok (n, rest) := by
  have := decodeFrom_encode n rest 0 0 (by rwa [show Nat.pow 2 0 = 1 from rfl, Nat.mul_one])
  rwa [show Nat.pow 2 0 = 1 from rfl, Nat.mul_one, Nat.zero_add] at this

/-! ## What is read -/

/-- Bytes that are read as a number, with none of them left. -/
def Spells (field : Bytes) (n : Nat) : Prop :=
  decode field = .ok (n, [])

theorem decodeFrom_append {value shift n : Nat} {bs rest : Bytes}
    (h : decodeFrom value shift bs = .ok (n, rest)) (more : Bytes) :
    decodeFrom value shift (bs ++ more) = .ok (n, rest ++ more) := by
  induction bs generalizing value shift with
  | nil => cases h
  | cons b bs ih =>
    rw [List.cons_append]
    simp only [decodeFrom] at h ⊢
    split_ifs at h ⊢ with hends
    · obtain ⟨rfl, rfl⟩ := Prod.mk.inj (Except.ok.inj h)
      rfl
    · exact ih h

theorem exists_decodeFrom {value shift n : Nat} {bs rest : Bytes}
    (h : decodeFrom value shift bs = .ok (n, rest)) :
    ∃ field, bs = field ++ rest ∧ decodeFrom value shift field = .ok (n, []) := by
  induction bs generalizing value shift with
  | nil => cases h
  | cons b bs ih =>
    simp only [decodeFrom] at h
    split_ifs at h with hends hlong
    · obtain ⟨rfl, rfl⟩ := Prod.mk.inj (Except.ok.inj h)
      exact ⟨[b], rfl, by simp only [decodeFrom, hends, if_true]⟩
    · obtain ⟨field, rfl, hfield⟩ := ih h
      refine ⟨b :: field, rfl, ?_⟩
      simp only [decodeFrom, hends, if_false, hlong]
      exact hfield

/-- **A number is read from the bytes that spell it**, and what follows them is left. -/
theorem decode_eq_ok {n : Nat} {bs rest : Bytes} :
    decode bs = .ok (n, rest) ↔ ∃ field, bs = field ++ rest ∧ Spells field n := by
  constructor
  · exact exists_decodeFrom
  · rintro ⟨field, rfl, hfield⟩
    exact decodeFrom_append hfield rest

theorem decodeFrom_eq_error {value shift : Nat} {bs : Bytes} {c : Corruption}
    (h : decodeFrom value shift bs = .error c) : c = .varintTruncated ∨ c = .varintOverflow := by
  induction bs generalizing value shift with
  | nil =>
    obtain rfl := Except.error.inj h
    exact .inl rfl
  | cons b bs ih =>
    simp only [decodeFrom] at h
    split_ifs at h
    · obtain rfl := Except.error.inj h
      exact .inr rfl
    · exact ih h

end CollectionArchive.Varint
