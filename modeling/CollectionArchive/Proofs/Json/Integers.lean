import CollectionArchive.Json.Number
import CollectionArchive.Proofs.Decimal.Rounding

/-!
# Integers that become doubles

An integer literal that fits no word is read as a double. Its digits are collected as long as they
fit a word, and the rest of them are counted; both steps round.

* `Literal.collect_of_lt`, `Literal.collect_of_le`: what is collected of digits.
* **`Literal.toDouble?_of_near`**: just above `2 ^ 63` a literal is read as `2 ^ 63`.
* **`Literal.le_size_of_toDouble?`**: a larger one is read as something larger than `2 ^ 63`.
-/

namespace CollectionArchive.Json.Literal

open Binary64 (Finite)

/-! ## Digits -/

/-- The number that digits write after those of another number. -/
def extend (n : Nat) (ds : List Nat) : Nat :=
  ds.foldl (fun n d => n * 10 + d) n

theorem le_extend (n : Nat) (ds : List Nat) : n ≤ extend n ds := by
  induction ds generalizing n with
  | nil => exact Nat.le_refl n
  | cons d ds ih =>
    have hnext := ih (n * 10 + d)
    change n ≤ extend (n * 10 + d) ds
    omega

/-- Digits of a word are all collected. -/
theorem collect_of_lt {n : Nat} {ds : List Nat} (h : extend n ds < significandBound) :
    collect n ds = (extend n ds, 0) := by
  induction ds generalizing n with
  | nil => rfl
  | cons d ds ih =>
    have hnext : n * 10 + d < significandBound := Nat.lt_of_le_of_lt (le_extend _ ds) h
    rw [collect, if_pos hnext]
    exact ih h

/-- Of more digits so many are collected that no other fits. -/
theorem collect_of_le {n : Nat} {ds : List Nat} (digits : ∀ d ∈ ds, d < 10)
    (hn : n < significandBound) (h : significandBound ≤ extend n ds) :
    0 < (collect n ds).2 ∧ significandBound ≤ (collect n ds).1 * 10 + 9 := by
  induction ds generalizing n with
  | nil => exact absurd h (Nat.not_le.mpr hn)
  | cons d ds ih =>
    obtain ⟨hd, hds⟩ := List.forall_mem_cons.mp digits
    rw [collect]
    by_cases hnext : n * 10 + d < significandBound
    · rw [if_pos hnext]
      exact ih hds hnext h
    · rw [if_neg hnext]
      refine ⟨Nat.succ_pos _, ?_⟩
      show significandBound ≤ n * 10 + 9
      omega

/-! ## Rounding -/

/-- Words of 64 bits with the highest bit set are rounded to multiples of `2048`. -/
theorem rounded_word {n : Nat} (hlow : 0x8000000000000000 ≤ n) (hhigh : n < significandBound) :
    Finite.roundedExponent n 1 = 11 ∧
      Finite.roundedSignificand n 1 = Finite.nearestEven n 2048 := by
  have hlog : n.log2 = 63 := by
    rw [Nat.log2_eq_iff (by omega)]
    exact ⟨hlow, hhigh⟩
  have hpower : 1 * Nat.pow 2 (63 : Int).toNat ≤ n * Nat.pow 2 (-63 : Int).toNat := by
    show 1 * 0x8000000000000000 ≤ n * 1
    omega
  have horder : Finite.binaryOrder n 1 = 63 := by
    have hone : Nat.log2 1 = 0 := by decide
    simp only [Finite.binaryOrder, hlog, hone]
    exact if_pos hpower
  have hexponent : Finite.roundedExponent n 1 = 11 := by
    rw [Finite.roundedExponent, horder]
    rfl
  refine ⟨hexponent, ?_⟩
  rw [Finite.roundedSignificand, hexponent]
  show Finite.nearestEven (n * 1) (1 * 2048) = _
  rw [Nat.mul_one, Nat.one_mul]

/-- Half a unit above `2 ^ 63`, at most, a word is rounded down to it. -/
theorem ofNat?_of_near {n : Nat} (hlow : 0x8000000000000000 < n)
    (hhigh : n ≤ 0x8000000000000400) :
    Finite.ofNat? n = some ⟨false, 0x10000000000000, 11, by decide⟩ := by
  obtain ⟨hexponent, hsignificand⟩ :=
    rounded_word (Nat.le_of_lt hlow) (Nat.lt_of_le_of_lt hhigh (by decide))
  have hnearest : Finite.nearestEven n 2048 = 0x10000000000000 := by
    simp only [Finite.nearestEven]
    split_ifs <;> omega
  rw [Finite.ofNat?, Finite.round?_eq (by omega), hsignificand, hexponent, hnearest]
  rfl

/-- A larger word is rounded to something larger. -/
theorem le_size_of_word {n : Nat} {x : Finite} (hlow : 0x8000000000000400 < n)
    (hhigh : n < significandBound) (h : Finite.ofNat? n = some x) :
    0x8000000000000800 ≤ x.size := by
  obtain ⟨hexponent, hsignificand⟩ := rounded_word (by omega) hhigh
  have hnearest : 0x10000000000001 ≤ Finite.nearestEven n 2048 := by
    simp only [Finite.nearestEven]
    split_ifs <;> omega
  rw [Finite.size_of_round? (by omega) h, hsignificand, hexponent]
  have hcast : (0x10000000000001 : ℚ) ≤ Finite.nearestEven n 2048 := by exact_mod_cast hnearest
  calc (0x8000000000000800 : ℚ) = 0x10000000000001 * 2 ^ (11 : ℤ) := by norm_num
    _ ≤ Finite.nearestEven n 2048 * 2 ^ (11 : ℤ) :=
      mul_le_mul_of_nonneg_right hcast (by positivity)

/-- A positive number is not rounded below `1`. -/
theorem one_le_size {n : Nat} {x : Finite} (hn : 0 < n) (h : Finite.ofNat? n = some x) :
    1 ≤ x.size := by
  have hone : ((0x10000000000000 : ℕ) : ℚ) * 2 ^ (-52 : ℤ) = 1 := by norm_num
  rw [← hone]
  apply Finite.le_size_of_ofNat? hn h (by decide)
  rw [hone]
  exact_mod_cast hn

/-! ## Literals -/

theorem toDouble?_of_digits (negative : Bool) (ds : List Nat) :
    toDouble? ⟨negative, ds, none, none⟩ =
      double? negative (collect 0 ds).1 ((collect 0 ds).2 : Nat) := by
  simp only [toDouble?, Option.getD_none, collect, List.length_nil, Nat.sub_zero, Int.natCast_zero,
    Int.sub_zero]

/-- A positive significand is rounded, and so is its product with the power of ten. -/
theorem double?_eq_some {negative : Bool} {s k : Nat} {x : Finite} (hs : 0 < s)
    (h : double? negative s (k : Nat) = some x) : ∃ y power z, Finite.ofNat? s = some y ∧
      Finite.ofNat? (Nat.pow 10 k) = some power ∧ y.mul? power = some z ∧ x.size = z.size := by
  obtain ⟨y, hy, h⟩ := Option.bind_eq_some_iff.mp h
  obtain ⟨z, hz, h⟩ := Option.bind_eq_some_iff.mp h
  have hsize : x.size = z.size := by
    obtain rfl := Option.some.inj h
    cases negative <;> rfl
  rw [scale?, Int.natAbs_natCast] at hz
  by_cases hk : k ≤ 308
  · rw [if_pos hk] at hz
    obtain ⟨power, hpower, hz⟩ := Option.bind_eq_some_iff.mp hz
    rw [if_pos (Int.natCast_nonneg k)] at hz
    exact ⟨y, power, z, hy, hpower, hz, hsize⟩
  · have hone := one_le_size hs hy
    have hne : (y.significand == 0) = false := by
      by_contra hzero
      rw [Bool.not_eq_false, beq_iff_eq] at hzero
      rw [Finite.size, hzero] at hone
      norm_num at hone
    rw [if_neg hk, hne, if_neg Bool.false_ne_true, if_pos (Int.natCast_nonneg k)] at hz
    cases hz

theorem toDouble?_of_zero {ds : List Nat} (negative : Bool) (h : Decimal.ofDigits ds = 0) :
    toDouble? ⟨negative, ds, none, none⟩ = some (Finite.zero negative) := by
  have hcollect : collect 0 ds = (Decimal.ofDigits ds, 0) :=
    collect_of_lt (Nat.lt_of_le_of_lt (Nat.le_of_eq h) (by decide))
  have hdouble : ∀ b, double? b 0 0 = some (Finite.zero b) := by decide +kernel
  rw [toDouble?_of_digits, hcollect, h]
  exact hdouble negative

/-- **Just above `2 ^ 63` a literal is read as `2 ^ 63`.** -/
theorem toDouble?_of_near {ds : List Nat} (negative : Bool)
    (hlow : 0x8000000000000000 < Decimal.ofDigits ds)
    (hhigh : Decimal.ofDigits ds ≤ 0x8000000000000400) :
    toDouble? ⟨negative, ds, none, none⟩ =
      some ⟨negative, 0x10000000000000, 11, by decide⟩ := by
  have hcollect : collect 0 ds = (Decimal.ofDigits ds, 0) :=
    collect_of_lt (Nat.lt_of_le_of_lt hhigh (by decide))
  have hscale : scale? ⟨false, 0x10000000000000, 11, by decide⟩ 5 0 =
      some ⟨false, 0x10000000000000, 11, by decide⟩ := by
    decide +kernel
  rw [toDouble?_of_digits, hcollect]
  change double? negative (Decimal.ofDigits ds) 0 = _
  rw [double?, ofNat?_of_near hlow hhigh, Option.bind_eq_bind, Option.bind_some, hscale]
  cases negative <;> rfl

/-- A tenth of the bound for significands, scaled by ten or more, is far above `2 ^ 63`. -/
theorem le_size_of_scaled {s k : Nat} {y power z : Finite} (hs : significandBound ≤ s * 10 + 9)
    (hk : 0 < k) (hy : Finite.ofNat? s = some y)
    (hpower : Finite.ofNat? (Nat.pow 10 k) = some power) (hz : y.mul? power = some z) :
    0x8000000000000800 ≤ z.size := by
  have hleast : 0x1800000000000000 ≤ s := by
    rw [significandBound] at hs
    omega
  have hten : 8 ≤ Nat.pow 10 k :=
    Nat.le_trans (by decide) (Nat.pow_le_pow_right (by decide : 0 < 10) hk)
  have hsignificand : ((0x18000000000000 : ℕ) : ℚ) * 2 ^ (8 : ℤ) ≤ y.size := by
    apply Finite.le_size_of_ofNat? (by omega) hy (by decide)
    have hcast : (0x1800000000000000 : ℚ) ≤ s := by exact_mod_cast hleast
    norm_num
    exact_mod_cast hcast
  have height : ((0x10000000000000 : ℕ) : ℚ) * 2 ^ (-49 : ℤ) ≤ power.size := by
    apply Finite.le_size_of_ofNat? (by omega) hpower (by decide)
    have hcast : (8 : ℚ) ≤ (Nat.pow 10 k : ℕ) := by exact_mod_cast hten
    calc ((0x10000000000000 : ℕ) : ℚ) * 2 ^ (-49 : ℤ) = 8 := by norm_num
      _ ≤ (Nat.pow 10 k : ℕ) := hcast
  norm_num at hsignificand height
  have hproduct : ((0x18000000000000 : ℕ) : ℚ) * 2 ^ (11 : ℤ) ≤ z.size := by
    apply Finite.le_size_of_mul? (by linarith) (by linarith) hz (by decide)
    norm_num
    nlinarith
  norm_num at hproduct
  linarith

/-- **What lies further above is read as something larger than `2 ^ 63`.** Either all digits fit a
word and the last place decides, or a tenth of that bound is already collected. -/
theorem le_size_of_toDouble? {negative : Bool} {ds : List Nat} {x : Finite}
    (digits : ∀ d ∈ ds, d < 10) (hlow : 0x8000000000000400 < Decimal.ofDigits ds)
    (h : toDouble? ⟨negative, ds, none, none⟩ = some x) : 0x8000000000000800 ≤ x.size := by
  rw [toDouble?_of_digits] at h
  by_cases hbound : Decimal.ofDigits ds < significandBound
  · have hcollect : collect 0 ds = (Decimal.ofDigits ds, 0) := collect_of_lt hbound
    rw [hcollect] at h
    obtain ⟨y, power, z, hy, hpower, hz, hsize⟩ := double?_eq_some (by omega) h
    have hword := le_size_of_word hlow hbound hy
    have hone := one_le_size (Nat.pow_pos Nat.succ_pos') hpower
    have hvalue : ((0x10000000000001 : ℕ) : ℚ) * 2 ^ (11 : ℤ) = 0x8000000000000800 := by norm_num
    rw [hsize, ← hvalue]
    apply Finite.le_size_of_mul? (by linarith) (by linarith) hz (by decide)
    rw [hvalue]
    nlinarith
  · have hzero : (0 : Nat) < significandBound := by decide
    obtain ⟨hdropped, hcollected⟩ := collect_of_le digits hzero (Nat.le_of_not_lt hbound)
    have hpos : 0 < (collect 0 ds).1 := by
      rw [significandBound] at hcollected
      omega
    obtain ⟨y, power, z, hy, hpower, hz, hsize⟩ := double?_eq_some hpos h
    rw [hsize]
    exact le_size_of_scaled hcollected hdropped hy hpower hz

end CollectionArchive.Json.Literal
