import CollectionArchive.Decimal.Binary64
import Mathlib.Algebra.Order.Field.Power
import Mathlib.Algebra.Order.Field.Rat
import Mathlib.Tactic.Linarith
import Mathlib.Tactic.NormNum
import Mathlib.Tactic.Positivity
import Mathlib.Tactic.Ring
import Mathlib.Tactic.SplitIfs

/-!
# Rounding keeps to the numbers in use

* `Finite.size`: the magnitude of a number, exactly.
* `Finite.zpow_binaryOrder_le`: the order of a fraction is that of a power of two below it.
* **`Finite.le_size_of_round?`**: a fraction is not rounded below a number in use that it reaches;
  `Finite.le_size_of_mul?`: nor is a product.
-/

namespace CollectionArchive.Binary64.Finite

/-- The magnitude of a number. -/
def size (x : Finite) : ℚ :=
  x.significand * (2 : ℚ) ^ x.exponent

/-- A power of two as a fraction of natural powers. -/
theorem zpow_eq_div (e : ℤ) :
    (2 : ℚ) ^ e = (Nat.pow 2 e.toNat : ℕ) / (Nat.pow 2 (-e).toNat : ℕ) := by
  rcases Int.le_total 0 e with h | h
  · have hzero : (-e).toNat = 0 := by omega
    obtain ⟨n, rfl⟩ := Int.eq_ofNat_of_zero_le h
    rw [hzero]
    simp
  · have hzero : e.toNat = 0 := by omega
    obtain ⟨n, hn⟩ := Int.eq_ofNat_of_zero_le (show 0 ≤ -e by omega)
    obtain rfl : e = -(n : ℤ) := by omega
    rw [hzero]
    simp

/-- The value is the fraction of the magnitude over the denominator. -/
theorem size_eq (x : Finite) : x.size = x.magnitude / x.denominator := by
  rw [size, zpow_eq_div, magnitude, denominator, Nat.cast_mul, mul_div_assoc]

/-! ## Parts of rounding -/

/-- A fraction is not rounded below a whole number that it reaches. -/
theorem le_nearestEven {n num den : ℕ} (hden : 0 < den) (h : (n : ℚ) ≤ num / den) :
    n ≤ nearestEven num den := by
  have hmul : n * den ≤ num := by
    have hrat := (le_div_iff₀ (by exact_mod_cast hden)).mp h
    exact_mod_cast hrat
  have hwhole : n ≤ num / den := (Nat.le_div_iff_mul_le hden).mpr hmul
  simp only [nearestEven]
  split_ifs <;> omega

theorem zpow_log2_le {n : ℕ} (h : 0 < n) : (2 : ℚ) ^ (n.log2 : ℤ) ≤ n := by
  have hlog := Nat.log2_self_le (Nat.ne_of_gt h)
  rw [zpow_natCast]
  exact_mod_cast hlog

theorem lt_zpow_log2 (n : ℕ) : (n : ℚ) < (2 : ℚ) ^ ((n.log2 : ℤ) + 1) := by
  have hlog := Nat.lt_log2_self (n := n)
  have hcast : ((n.log2 : ℤ) + 1) = ((n.log2 + 1 : ℕ) : ℤ) := by push_cast; rfl
  rw [hcast, zpow_natCast]
  exact_mod_cast hlog

/-- The order of a fraction is that of a power of two below it. -/
theorem zpow_binaryOrder_le {num den : ℕ} (hnum : 0 < num) (hden : 0 < den) :
    (2 : ℚ) ^ binaryOrder num den ≤ num / den := by
  have hdenQ : (0 : ℚ) < den := by exact_mod_cast hden
  rw [le_div_iff₀ hdenQ]
  simp only [binaryOrder]
  generalize hk : (num.log2 : ℤ) - den.log2 = k
  split_ifs with h
  · -- the power itself has been compared with the fraction
    rw [zpow_eq_div, div_mul_eq_mul_div, div_le_iff₀ (by exact_mod_cast Nat.pow_pos (by decide))]
    exact_mod_cast (by rw [Nat.mul_comm]; exact h :
      Nat.pow 2 k.toNat * den ≤ num * Nat.pow 2 (-k).toNat)
  · have hsplit : (2 : ℚ) ^ (num.log2 : ℤ) = 2 ^ (k - 1) * 2 ^ ((den.log2 : ℤ) + 1) := by
      rw [← zpow_add₀ (by norm_num)]
      congr 1
      omega
    have hlow := zpow_log2_le hnum
    have hhigh := lt_zpow_log2 den
    have hpos : (0 : ℚ) < 2 ^ (k - 1) := by positivity
    calc (2 : ℚ) ^ (k - 1) * den ≤ 2 ^ (k - 1) * 2 ^ ((den.log2 : ℤ) + 1) :=
          mul_le_mul_of_nonneg_left hhigh.le hpos.le
      _ = 2 ^ (num.log2 : ℤ) := hsplit.symm
      _ ≤ num := hlow

theorem size_of_ofParts? {negative : Bool} {m : ℕ} {e : ℤ} {x : Finite}
    (h : ofParts? negative m e = some x) : x.size = m * (2 : ℚ) ^ e := by
  rw [ofParts?] at h
  split_ifs at h
  obtain rfl := Option.some.inj h
  rfl

/-- The exponent at which a fraction is rounded. -/
def roundedExponent (num den : ℕ) : ℤ :=
  max (binaryOrder num den - 52) (-1074)

/-- The significand to which a fraction is rounded at that exponent. -/
def roundedSignificand (num den : ℕ) : ℕ :=
  nearestEven (num * Nat.pow 2 (-roundedExponent num den).toNat)
    (den * Nat.pow 2 (roundedExponent num den).toNat)

theorem round?_eq {negative : Bool} {num den : ℕ} (hnum : 0 < num) :
    round? negative num den =
      if roundedSignificand num den == 0x20000000000000 then
        ofParts? negative 0x10000000000000 (roundedExponent num den + 1)
      else ofParts? negative (roundedSignificand num den) (roundedExponent num den) := by
  have hne : (num == 0) = false := by simpa using Nat.ne_of_gt hnum
  simp only [round?, hne, Bool.false_eq_true, if_false]
  rfl

theorem size_of_round? {negative : Bool} {num den : ℕ} {x : Finite} (hnum : 0 < num)
    (h : round? negative num den = some x) :
    x.size = roundedSignificand num den * (2 : ℚ) ^ roundedExponent num den := by
  rw [round?_eq hnum] at h
  split_ifs at h with hcarry
  · rw [size_of_ofParts? h, beq_iff_eq.mp hcarry, zpow_add_one₀ (by norm_num)]
    push_cast
    ring
  · exact size_of_ofParts? h

/-- What is rounded is the fraction, counted in units of the last place. -/
theorem div_units (num den : ℕ) (e : ℤ) :
    ((num * Nat.pow 2 (-e).toNat : ℕ) : ℚ) / (den * Nat.pow 2 e.toNat : ℕ) =
      (num : ℚ) / den / (2 : ℚ) ^ e := by
  rw [zpow_eq_div, Nat.cast_mul, Nat.cast_mul, div_div_div_eq]

/-! ## Bounds -/

/-- **A fraction is not rounded below a number in use that it reaches.** Where that number is
written to the last place of the result, it is a whole number of units; where it is written more
finely, it is below all results with that last place. -/
theorem le_size_of_round? {negative : Bool} {num den m : ℕ} {e : ℤ} {x : Finite}
    (hnum : 0 < num) (hden : 0 < den) (h : round? negative num den = some x)
    (hcanonical : Canonical m e) (hle : (m : ℚ) * 2 ^ e ≤ num / den) :
    (m : ℚ) * 2 ^ e ≤ x.size := by
  obtain ⟨hm, hleast, -, -⟩ := hcanonical
  rw [size_of_round? hnum h]
  generalize hunit : roundedExponent num den = unit
  have hunitPos : (0 : ℚ) < 2 ^ unit := by positivity
  have hscaled : 0 < den * Nat.pow 2 unit.toNat := Nat.mul_pos hden (Nat.pow_pos (by decide))
  have hreach : ∀ n : ℕ, (n : ℚ) * 2 ^ unit ≤ num / den → n ≤ roundedSignificand num den := by
    intro n hn
    rw [roundedSignificand, hunit]
    apply le_nearestEven hscaled
    rw [div_units]
    exact (le_div_iff₀ hunitPos).mpr hn
  rcases le_or_gt unit e with hcoarse | hfine
  · obtain ⟨k, hk⟩ := Int.eq_ofNat_of_zero_le (show 0 ≤ e - unit by omega)
    have hvalue : (m : ℚ) * 2 ^ e = ((m * 2 ^ k : ℕ) : ℚ) * 2 ^ unit := by
      have he : e = k + unit := by omega
      rw [he, zpow_add₀ (by norm_num), zpow_natCast]
      push_cast
      ring
    rw [hvalue] at hle ⊢
    have hsignificand : ((m * 2 ^ k : ℕ) : ℚ) ≤ roundedSignificand num den := by
      exact_mod_cast hreach _ hle
    exact mul_le_mul_of_nonneg_right hsignificand hunitPos.le
  · have horder : binaryOrder num den = 52 + unit := by
      rw [roundedExponent] at hunit
      omega
    have hpower : ((0x10000000000000 : ℕ) : ℚ) * 2 ^ unit = 2 ^ binaryOrder num den := by
      rw [horder, zpow_add₀ (by norm_num)]
      norm_num
    have hleastResult : 0x10000000000000 ≤ roundedSignificand num den := by
      apply hreach
      rw [hpower]
      exact zpow_binaryOrder_le hnum hden
    have hfinePower : (2 : ℚ) ^ e ≤ 2 ^ (unit - 1) :=
      zpow_le_zpow_right₀ (by norm_num) (by omega)
    have hmQ : (m : ℚ) ≤ 0x20000000000000 := by exact_mod_cast hm.le
    calc (m : ℚ) * 2 ^ e ≤ 0x20000000000000 * 2 ^ (unit - 1) :=
          mul_le_mul hmQ hfinePower (by positivity) (by norm_num)
      _ = ((0x10000000000000 : ℕ) : ℚ) * 2 ^ unit := by
          rw [zpow_sub_one₀ (by norm_num)]
          norm_num
          ring
      _ ≤ roundedSignificand num den * 2 ^ unit := by
          apply mul_le_mul_of_nonneg_right _ hunitPos.le
          exact_mod_cast hleastResult

/-- Nor is a natural number. -/
theorem le_size_of_ofNat? {n m : ℕ} {e : ℤ} {x : Finite} (hn : 0 < n) (h : ofNat? n = some x)
    (hcanonical : Canonical m e) (hle : (m : ℚ) * 2 ^ e ≤ n) : (m : ℚ) * 2 ^ e ≤ x.size := by
  apply le_size_of_round? hn Nat.one_pos h hcanonical
  rwa [Nat.cast_one, div_one]

/-- Nor is a product. -/
theorem le_size_of_mul? {x y z : Finite} {m : ℕ} {e : ℤ} (hx : 0 < x.size) (hy : 0 < y.size)
    (h : x.mul? y = some z) (hcanonical : Canonical m e)
    (hle : (m : ℚ) * 2 ^ e ≤ x.size * y.size) : (m : ℚ) * 2 ^ e ≤ z.size := by
  have hpos : ∀ {w : Finite}, 0 < w.size → 0 < w.magnitude := by
    intro w hw
    apply Nat.pos_of_ne_zero
    intro hzero
    rw [size_eq, hzero, Nat.cast_zero, zero_div] at hw
    exact lt_irrefl _ hw
  have hden : ∀ w : Finite, 0 < w.denominator := fun w => Nat.pow_pos (by decide)
  apply le_size_of_round? (Nat.mul_pos (hpos hx) (hpos hy)) (Nat.mul_pos (hden x) (hden y)) h
    hcanonical
  rw [Nat.cast_mul, Nat.cast_mul, mul_div_mul_comm, ← size_eq, ← size_eq]
  exact hle

end CollectionArchive.Binary64.Finite
