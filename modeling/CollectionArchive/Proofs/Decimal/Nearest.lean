import CollectionArchive.Proofs.Decimal.Rounding
import Mathlib.Algebra.Order.Floor.Ring
import Mathlib.Data.Rat.Floor

/-!
# Values, and how far rounding goes from them

* `Finite.value`: the value of a number, exactly; its floor, whether it is whole, and whether two
  are equal are what the functions of these names tell.
* `Finite.exists_round?`: a fraction that is not too large is rounded to some number.
* **`Finite.abs_size_sub_le`**: which is at most half a unit in the last place away.
-/

namespace CollectionArchive.Binary64.Finite

/-! ## Values -/

/-- The value of a number. -/
def value (x : Finite) : ℚ :=
  if x.negative then -x.size else x.size

theorem denominator_pos (x : Finite) : 0 < x.denominator :=
  Nat.pow_pos (by decide)

theorem size_nonneg (x : Finite) : 0 ≤ x.size := by
  unfold size
  positivity

theorem value_eq (x : Finite) : x.value = x.numerator / (x.denominator : ℤ) := by
  rw [value, numerator, size_eq]
  split_ifs
  · push_cast
    ring
  · push_cast
    ring

theorem abs_value (x : Finite) : |x.value| = x.size := by
  unfold value
  split_ifs
  · rw [abs_neg, abs_of_nonneg x.size_nonneg]
  · exact abs_of_nonneg x.size_nonneg

/-- The floor is that of the value. -/
theorem floor_eq (x : Finite) : x.floor = ⌊x.value⌋ := by
  rw [value_eq, Int.cast_natCast, Rat.floor_intCast_div_natCast]
  rfl

/-- What is left above the floor. -/
theorem fract_value (x : Finite) :
    Int.fract x.value = ((x.numerator % (x.denominator : ℤ)).toNat : ℕ) / (x.denominator : ℚ) := by
  have hden : (0 : ℤ) < x.denominator := by exact_mod_cast x.denominator_pos
  have hdenQ : (x.denominator : ℚ) ≠ 0 := by exact_mod_cast x.denominator_pos.ne'
  have hrest : ((x.numerator % (x.denominator : ℤ)).toNat : ℤ) =
      x.numerator - x.denominator * x.floor := by
    rw [Int.toNat_of_nonneg (Int.emod_nonneg _ hden.ne'), Int.emod_def, floor]
  have hcast : (((x.numerator % (x.denominator : ℤ)).toNat : ℕ) : ℚ) =
      x.numerator - x.denominator * x.floor := by exact_mod_cast hrest
  rw [hcast, Int.fract, ← floor_eq, value_eq, Int.cast_natCast, sub_div,
    mul_div_cancel_left₀ _ hdenQ]

theorem natAbs_numerator (x : Finite) : x.numerator.natAbs = x.magnitude := by
  rw [numerator]
  split_ifs
  · exact Int.natAbs_neg _
  · rfl

/-- A number is whole if its value is an integer, which is what it is truncated to. -/
theorem value_eq_intCast {x : Finite} {k : ℤ} :
    x.value = k ↔ x.isWhole = true ∧ x.truncate = k := by
  have hden : (x.denominator : ℤ) ≠ 0 := by exact_mod_cast x.denominator_pos.ne'
  have hdenQ : ((x.denominator : ℤ) : ℚ) ≠ 0 := by exact_mod_cast hden
  have hwhole : x.isWhole = true ↔ (x.denominator : ℤ) ∣ x.numerator := by
    rw [isWhole, beq_iff_eq, ← Nat.dvd_iff_mod_eq_zero, ← natAbs_numerator, Int.natCast_dvd]
  rw [value_eq, div_eq_iff hdenQ, hwhole, truncate]
  constructor
  · intro h
    have hmul : x.numerator = k * x.denominator := by exact_mod_cast h
    exact ⟨⟨k, by rw [hmul, Int.mul_comm]⟩, by rw [hmul, Int.mul_tdiv_cancel _ hden]⟩
  · rintro ⟨hdvd, rfl⟩
    exact_mod_cast (Int.tdiv_mul_cancel hdvd).symm

/-! ## Equal numbers -/

/-- The parts of a number follow from its size: where one of two has the larger exponent, it has a
significand that the other could not write. -/
theorem parts_of_size_eq {x y : Finite} (h : x.size = y.size) :
    x.significand = y.significand ∧ x.exponent = y.exponent := by
  have hle : ∀ {x y : Finite}, x.size = y.size → y.exponent ≤ x.exponent := by
    intro x y h
    by_contra hlt
    obtain ⟨hx, hleast, -, -⟩ := x.canonical
    have hy : 0x10000000000000 ≤ y.significand := y.canonical.2.2.2.resolve_right (by omega)
    have hfine : (2 : ℚ) ^ (x.exponent + 1) ≤ 2 ^ y.exponent :=
      zpow_le_zpow_right₀ (by norm_num) (by omega)
    have hpos : (0 : ℚ) < 2 ^ x.exponent := by positivity
    have hxQ : (x.significand : ℚ) < 0x20000000000000 := by exact_mod_cast hx
    have hyQ : (0x10000000000000 : ℚ) ≤ y.significand := by exact_mod_cast hy
    have hless : x.size < y.size := by
      calc x.size < 0x20000000000000 * 2 ^ x.exponent := mul_lt_mul_of_pos_right hxQ hpos
        _ = 0x10000000000000 * 2 ^ (x.exponent + 1) := by
            rw [zpow_add_one₀ (by norm_num)]
            ring
        _ ≤ y.size := mul_le_mul hyQ hfine (by positivity) (by positivity)
    exact hless.ne h
  have hexponent : x.exponent = y.exponent := le_antisymm (hle h.symm) (hle h)
  have hpos : (2 : ℚ) ^ y.exponent ≠ 0 := by positivity
  rw [size, size, hexponent] at h
  exact ⟨by exact_mod_cast mul_right_cancel₀ hpos h, hexponent⟩

theorem size_eq_zero {x : Finite} : x.size = 0 ↔ x.significand = 0 := by
  have hpos : (2 : ℚ) ^ x.exponent ≠ 0 := by positivity
  rw [size, mul_eq_zero_iff_right hpos, Nat.cast_eq_zero]

/-- **Numbers compare equal if their values are.** -/
theorem equal_iff {x y : Finite} : x.equal y = true ↔ x.value = y.value := by
  simp only [equal, Bool.and_eq_true, Bool.or_eq_true, beq_iff_eq]
  constructor
  · rintro ⟨⟨hsignificand, hexponent⟩, hsign⟩
    have hsize : x.size = y.size := by rw [size, size, hsignificand, hexponent]
    rcases hsign with hsign | hzero
    · rw [value, value, hsize, hsign]
    · have hx := size_eq_zero.mpr hzero
      rw [value, value, ← hsize, hx]
      simp
  · intro h
    have hsize : x.size = y.size := by rw [← abs_value, ← abs_value, h]
    refine ⟨parts_of_size_eq hsize, ?_⟩
    by_cases hzero : x.size = 0
    · exact .inr (size_eq_zero.mp hzero)
    · -- of two numbers with one size other than zero and different signs, only one is positive
      left
      have hpos : 0 < x.size := lt_of_le_of_ne x.size_nonneg (Ne.symm hzero)
      rw [value, value, ← hsize] at h
      cases hx : x.negative <;> cases hy : y.negative <;> simp only [hx, hy] at h ⊢ <;>
        simp at h <;> linarith

/-! ## Whether and how far fractions are rounded -/

/-- The order of a fraction is that of a power of two above half of it. -/
theorem lt_zpow_binaryOrder {num den : ℕ} (hden : 0 < den) :
    (num : ℚ) / den < 2 ^ (binaryOrder num den + 1) := by
  have hdenQ : (0 : ℚ) < den := by exact_mod_cast hden
  rw [div_lt_iff₀ hdenQ]
  simp only [binaryOrder]
  generalize hk : (num.log2 : ℤ) - den.log2 = k
  split_ifs with h
  · have hsplit : (2 : ℚ) ^ ((num.log2 : ℤ) + 1) = 2 ^ (k + 1) * 2 ^ (den.log2 : ℤ) := by
      rw [← zpow_add₀ (by norm_num)]
      congr 1
      omega
    have hpos : (0 : ℚ) < 2 ^ (k + 1) := by positivity
    calc (num : ℚ) < 2 ^ ((num.log2 : ℤ) + 1) := lt_zpow_log2 num
      _ = 2 ^ (k + 1) * 2 ^ (den.log2 : ℤ) := hsplit
      _ ≤ 2 ^ (k + 1) * den := mul_le_mul_of_nonneg_left (zpow_log2_le hden) hpos.le
  · -- the power itself has been compared with the fraction
    rw [Int.sub_add_cancel, zpow_eq_div, div_mul_eq_mul_div,
      lt_div_iff₀ (by exact_mod_cast Nat.pow_pos (by decide))]
    exact_mod_cast (by rw [Nat.mul_comm (Nat.pow 2 k.toNat)]; exact Nat.lt_of_not_le h :
      num * Nat.pow 2 (-k).toNat < Nat.pow 2 k.toNat * den)

/-- The nearest whole number is at most a half away. -/
theorem abs_nearestEven_sub_le {num den : ℕ} (hden : 0 < den) :
    |(nearestEven num den : ℚ) - num / den| ≤ 1 / 2 := by
  have hdenQ : (0 : ℚ) < den := by exact_mod_cast hden
  have hsplit : (num : ℚ) = den * (num / den : ℕ) + (num % den : ℕ) := by
    exact_mod_cast (Nat.div_add_mod num den).symm
  have hquotient : (num : ℚ) / den = (num / den : ℕ) + (num % den : ℕ) / den := by
    rw [hsplit]
    field_simp
  have hrest : (0 : ℚ) ≤ (num % den : ℕ) / den := by positivity
  have hrest' : ((num % den : ℕ) : ℚ) / den < 1 := by
    rw [div_lt_one hdenQ]
    exact_mod_cast Nat.mod_lt num hden
  rw [hquotient]
  simp only [nearestEven]
  split_ifs with hbelow habove
  · have hhalf : ((num % den : ℕ) : ℚ) / den ≤ 1 / 2 := by
      rw [div_le_iff₀ hdenQ]
      have hcast : (2 : ℚ) * (num % den : ℕ) < den := by exact_mod_cast hbelow
      linarith
    rw [abs_le]
    constructor <;> linarith
  · have hhalf : 1 / 2 ≤ ((num % den : ℕ) : ℚ) / den := by
      rw [le_div_iff₀ hdenQ]
      have hcast : (den : ℚ) < 2 * (num % den : ℕ) := by exact_mod_cast habove
      linarith
    push_cast
    rw [abs_le]
    constructor <;> linarith
  · have hhalf : ((num % den : ℕ) : ℚ) / den = 1 / 2 := by
      rw [div_eq_iff hdenQ.ne']
      have heq : 2 * (num % den) = den := by omega
      have hcast : (2 : ℚ) * (num % den : ℕ) = den := by exact_mod_cast heq
      linarith
    have heven : ((num / den % 2 : ℕ) : ℚ) ≤ 1 := by
      have hmod : num / den % 2 ≤ 1 := by omega
      exact_mod_cast hmod
    have heven' : (0 : ℚ) ≤ (num / den % 2 : ℕ) := by positivity
    push_cast at heven heven' ⊢
    rw [hhalf, abs_le]
    constructor <;> linarith

/-- A fraction is not rounded above a whole number that it does not reach. -/
theorem nearestEven_le {n num den : ℕ} (hden : 0 < den) (h : (num : ℚ) / den < n) :
    nearestEven num den ≤ n := by
  have herror : (nearestEven num den : ℚ) - num / den ≤ 1 / 2 :=
    (abs_le.mp (abs_nearestEven_sub_le hden)).2
  have hless : (nearestEven num den : ℚ) < (n + 1 : ℕ) := by
    push_cast
    linarith
  exact Nat.lt_succ_iff.mp (by exact_mod_cast hless)

theorem negative_of_ofParts? {negative : Bool} {m : ℕ} {e : ℤ} {x : Finite}
    (h : ofParts? negative m e = some x) : x.negative = negative := by
  rw [ofParts?] at h
  split_ifs at h
  obtain rfl := Option.some.inj h
  rfl

/-- Rounding keeps the sign, of zero too. -/
theorem negative_of_round? {negative : Bool} {num den : ℕ} {x : Finite}
    (h : round? negative num den = some x) : x.negative = negative := by
  by_cases hzero : num = 0
  · subst hzero
    obtain rfl := Option.some.inj h
    rfl
  · rw [round?_eq (Nat.pos_of_ne_zero hzero)] at h
    split_ifs at h
    · exact negative_of_ofParts? h
    · exact negative_of_ofParts? h

section

variable {negative : Bool} {num den : ℕ}

theorem roundedExponent_le (hnum : 0 < num) (hden : 0 < den) {k : ℤ} (h : (num : ℚ) / den < 2 ^ k) :
    roundedExponent num den ≤ max (k - 53) (-1074) := by
  have horder : binaryOrder num den < k :=
    (zpow_lt_zpow_iff_right₀ (by norm_num)).mp ((zpow_binaryOrder_le hnum hden).trans_lt h)
  rw [roundedExponent]
  omega

theorem roundedSignificand_le (hden : 0 < den) : roundedSignificand num den ≤ 0x20000000000000 := by
  have hscaled : 0 < den * Nat.pow 2 (roundedExponent num den).toNat :=
    Nat.mul_pos hden (Nat.pow_pos (by decide))
  have hunitPos : (0 : ℚ) < 2 ^ roundedExponent num den := by positivity
  apply nearestEven_le hscaled
  rw [div_units, div_lt_iff₀ hunitPos]
  calc (num : ℚ) / den < 2 ^ (binaryOrder num den + 1) := lt_zpow_binaryOrder hden
    _ ≤ 2 ^ (53 + roundedExponent num den) := by
        apply zpow_le_zpow_right₀ (by norm_num)
        rw [roundedExponent]
        omega
    _ = (0x20000000000000 : ℕ) * 2 ^ roundedExponent num den := by
        rw [zpow_add₀ (by norm_num)]
        norm_num

/-- The significand has 53 bits, unless the exponent is the least one. -/
theorem le_roundedSignificand (hnum : 0 < num) (hden : 0 < den) :
    0x10000000000000 ≤ roundedSignificand num den ∨ roundedExponent num den = -1074 := by
  rcases le_or_gt (binaryOrder num den - 52) (-1074) with hleast | hlarge
  · right
    rw [roundedExponent]
    omega
  · left
    have hunit : roundedExponent num den = binaryOrder num den - 52 := by
      rw [roundedExponent]
      omega
    have hunitPos : (0 : ℚ) < 2 ^ roundedExponent num den := by positivity
    have hscaled : 0 < den * Nat.pow 2 (roundedExponent num den).toNat :=
      Nat.mul_pos hden (Nat.pow_pos (by decide))
    apply le_nearestEven hscaled
    rw [div_units, le_div_iff₀ hunitPos]
    calc ((0x10000000000000 : ℕ) : ℚ) * 2 ^ roundedExponent num den
        = 2 ^ (52 + roundedExponent num den) := by
          rw [zpow_add₀ (by norm_num)]
          norm_num
      _ = 2 ^ binaryOrder num den := by
          congr 1
          omega
      _ ≤ num / den := zpow_binaryOrder_le hnum hden

/-- A number is at most half a unit in the last place away from the fraction that is rounded. -/
theorem abs_size_sub_le (hnum : 0 < num) (hden : 0 < den) {x : Finite}
    (h : round? negative num den = some x) :
    |x.size - num / den| ≤ 2 ^ (roundedExponent num den - 1) := by
  have hunitPos : (0 : ℚ) < 2 ^ roundedExponent num den := by positivity
  have hscaled : 0 < den * Nat.pow 2 (roundedExponent num den).toNat :=
    Nat.mul_pos hden (Nat.pow_pos (by decide))
  have hvalue : (num : ℚ) / den =
      num / den / 2 ^ roundedExponent num den * 2 ^ roundedExponent num den :=
    (div_mul_cancel₀ _ hunitPos.ne').symm
  rw [size_of_round? hnum h, hvalue, ← sub_mul, abs_mul, abs_of_pos hunitPos,
    zpow_sub_one₀ (by norm_num), mul_comm (2 ^ roundedExponent num den)]
  apply mul_le_mul_of_nonneg_right _ hunitPos.le
  rw [← div_units, roundedSignificand]
  exact (abs_nearestEven_sub_le hscaled).trans (by norm_num)

/-- **A fraction below a power of two that is in use is rounded**, by half a unit in the last place
of the numbers below that power, or less. -/
theorem exists_round? (negative : Bool) (hden : 0 < den) {k : ℤ} (hk : k ≤ 1023)
    (h : (num : ℚ) / den < 2 ^ k) :
    ∃ x, round? negative num den = some x ∧ x.negative = negative ∧
      |x.size - num / den| ≤ 2 ^ max (k - 54) (-1075) := by
  by_cases hzero : num = 0
  · subst hzero
    refine ⟨zero negative, rfl, rfl, ?_⟩
    have hsize : (zero negative).size = 0 := size_eq_zero.mpr rfl
    rw [hsize, Nat.cast_zero, zero_div, sub_zero, abs_zero]
    positivity
  · have hnum : 0 < num := Nat.pos_of_ne_zero hzero
    have hexponent := roundedExponent_le hnum hden h
    have hleast : -1074 ≤ roundedExponent num den := le_max_right _ _
    have hlow := le_roundedSignificand hnum hden
    have hhigh : roundedSignificand num den ≤ 0x20000000000000 := roundedSignificand_le hden
    obtain ⟨x, hx⟩ : ∃ x, round? negative num den = some x := by
      rw [round?_eq hnum]
      split_ifs with hcarry
      · exact ⟨_, dif_pos ⟨by decide, by omega, by omega, .inl (by decide)⟩⟩
      · rw [beq_iff_eq] at hcarry
        exact ⟨_, dif_pos ⟨by omega, hleast, by omega, hlow⟩⟩
    refine ⟨x, hx, negative_of_round? hx, (abs_size_sub_le hnum hden hx).trans ?_⟩
    apply zpow_le_zpow_right₀ (by norm_num)
    omega

end

/-- So is a product. -/
theorem exists_mul? {x y : Finite} {k : ℤ} (hk : k ≤ 1023) (h : x.size * y.size < 2 ^ k) :
    ∃ z, x.mul? y = some z ∧ z.negative = (x.negative != y.negative) ∧
      |z.size - x.size * y.size| ≤ 2 ^ max (k - 54) (-1075) := by
  have hproduct : ((x.magnitude * y.magnitude : ℕ) : ℚ) / (x.denominator * y.denominator : ℕ) =
      x.size * y.size := by
    rw [Nat.cast_mul, Nat.cast_mul, mul_div_mul_comm, ← size_eq, ← size_eq]
  rw [← hproduct] at h ⊢
  exact exists_round? _ (Nat.mul_pos x.denominator_pos y.denominator_pos) hk h

/-- What is left above the floor is rounded to a number of at most one. -/
theorem exists_fraction? (x : Finite) : ∃ y, x.fraction? = some y ∧ y.negative = false ∧
    |y.size - Int.fract x.value| ≤ 2 ^ (-54 : ℤ) := by
  have hbound : (((x.numerator % (x.denominator : ℤ)).toNat : ℕ) : ℚ) / x.denominator <
      2 ^ (0 : ℤ) := by
    rw [← fract_value, zpow_zero]
    exact Int.fract_lt_one _
  obtain ⟨y, hy, hsign, herror⟩ :=
    exists_round? false x.denominator_pos (by decide) hbound
  rw [fract_value]
  exact ⟨y, hy, hsign, herror⟩

/-- A number without a minus sign loses its digits after the point. -/
theorem toNat_truncate {x : Finite} (h : x.negative = false) :
    (x.truncate.toNat : ℚ) ≤ x.size ∧ x.size < x.truncate.toNat + 1 := by
  have htruncate : x.truncate.toNat = x.magnitude / x.denominator := by
    rw [truncate, numerator, h]
    rfl
  have hdenQ : (0 : ℚ) < x.denominator := by exact_mod_cast x.denominator_pos
  rw [htruncate, size_eq, le_div_iff₀ hdenQ, div_lt_iff₀ hdenQ]
  constructor
  · exact_mod_cast Nat.div_mul_le_self x.magnitude x.denominator
  · have hlt := Nat.lt_div_mul_add x.denominator_pos (a := x.magnitude)
    have hcast : (x.magnitude : ℚ) <
        (x.magnitude / x.denominator : ℕ) * x.denominator + x.denominator := by
      exact_mod_cast hlt
    linarith

end CollectionArchive.Binary64.Finite
