import CollectionArchive.Proofs.Decimal.Nearest
import CollectionArchive.Proofs.Outcome
import CollectionArchive.Value.Cast

/-!
# Numbers of JSON and what is cast from them

A number of JSON has an exact value, whether it is an integer or a double. A number that cannot be
kept as an integer, a truth value or a date is refused; none is replaced by another.

* `Json.Number.value`: the value of a number.
* `Cast.integerOf?_eq_some`, `Cast.boolOfNumber?_eq_some`: the numbers that are integers of 64 bits,
  and those that stand for truth values.
* `Instant.IsAt`: the instants that are so many seconds after the start of 1970.
* **`Cast.value_of_number`**: what is cast from numbers.
-/

namespace CollectionArchive

open Binary64 (Finite)
open Json (Number)

/-- The value of a number. -/
def Json.Number.value : Number → ℚ
  | integer i => i
  | double x => x.value

/-! ## Integers -/

theorem Integer.ofInt?_eq_some {i : Int} {k : Integer} : ofInt? i = some k ↔ (k : Int) = i := by
  unfold ofInt?
  split_ifs with h
  · rw [Option.some.injEq, eq_comm, Subtype.ext_iff]
  · constructor
    · intro hnone
      cases hnone
    · rintro rfl
      exact absurd k.2 h

/-- The integer that is found is the value of the number. -/
theorem Cast.integerOf?_eq_some {n : Number} {k : Integer} :
    integerOf? n = some k ↔ n.value = (k : Int) := by
  cases n with
  | integer i =>
    rw [integerOf?, Integer.ofInt?_eq_some, eq_comm, Number.value]
    exact Int.cast_inj.symm
  | double x =>
    rw [Number.value, Finite.value_eq_intCast, integerOf?]
    split_ifs with hwhole
    · rw [Integer.ofInt?_eq_some, eq_comm, and_iff_right hwhole]
    · simp [hwhole]

/-! ## Truth values -/

namespace Binary64.Finite

/-- One. -/
def one : Finite :=
  ⟨false, 0x10000000000000, -52, by decide⟩

theorem ofNat?_one : ofNat? 1 = some one := by
  decide

theorem value_zero (negative : Bool) : (zero negative).value = 0 := by
  have hsize : (zero negative).size = 0 := size_eq_zero.mpr rfl
  rw [value, hsize]
  simp

theorem value_one : one.value = 1 := by
  norm_num [value, size, one]

/-- Integers other than zero and one are not rounded to them. -/
theorem value_of_ofInt? {i : Int} {x : Finite} (h : ofInt? i = some x) :
    (x.value = 0 ↔ i = 0) ∧ (x.value = 1 ↔ i = 1) := by
  by_cases hsmall : i.natAbs < 2
  · have hcases : i = -1 ∨ i = 0 ∨ i = 1 := by omega
    rcases hcases with rfl | rfl | rfl
    · have hminus : ofInt? (-1) = some one.neg := by decide
      obtain rfl := Option.some.inj (hminus.symm.trans h)
      norm_num [value, size, one, neg]
    · have hzero : ofInt? 0 = some (zero false) := by decide
      obtain rfl := Option.some.inj (hzero.symm.trans h)
      simp [value_zero]
    · obtain rfl := Option.some.inj (ofNat?_one.symm.trans h)
      simp [value_one]
  · have hlarge : (2 : ℚ) ≤ x.size := by
      have htwo : ((0x10000000000000 : ℕ) : ℚ) * 2 ^ (-51 : ℤ) = 2 := by norm_num
      have hreach : ((0x10000000000000 : ℕ) : ℚ) * 2 ^ (-51 : ℤ) ≤ i.natAbs / (1 : ℕ) := by
        rw [htwo, Nat.cast_one, div_one]
        exact_mod_cast Nat.le_of_not_lt hsmall
      rw [← htwo]
      exact le_size_of_round? (by omega) Nat.one_pos h (by decide) hreach
    have hvalue : 2 ≤ |x.value| := by
      rw [abs_value]
      exact hlarge
    constructor
    · refine iff_of_false (fun heq => ?_) (by omega)
      norm_num [heq] at hvalue
    · refine iff_of_false (fun heq => ?_) (by omega)
      norm_num [heq] at hvalue

end Binary64.Finite

/-- The nearest double tells whether a number is zero or one. -/
theorem Json.Number.value_of_toDouble? {n : Number} {x : Finite} (h : n.toDouble? = some x) :
    (x.value = 0 ↔ n.value = 0) ∧ (x.value = 1 ↔ n.value = 1) := by
  cases n with
  | integer i =>
    obtain ⟨hzero, hone⟩ := Finite.value_of_ofInt? h
    constructor
    · rw [hzero, value, Int.cast_eq_zero]
    · rw [hone, value, Int.cast_eq_one]
  | double y =>
    obtain rfl := Option.some.inj h
    exact ⟨Iff.rfl, Iff.rfl⟩

/-- Zero and one have doubles. -/
theorem Json.Number.ne_of_toDouble? {n : Number} (h : n.toDouble? = none) :
    n.value ≠ 0 ∧ n.value ≠ 1 := by
  cases n with
  | integer i =>
    constructor
    · intro hzero
      obtain rfl := Int.cast_eq_zero.mp hzero
      revert h
      decide
    · intro hone
      obtain rfl := Int.cast_eq_one.mp hone
      revert h
      decide
  | double y => cases h

/-- The truth values are zero and one. -/
theorem Cast.boolOfNumber?_eq_some {n : Number} {b : Bool} :
    boolOfNumber? n = some b ↔ n.value = if b then 1 else 0 := by
  rw [boolOfNumber?]
  cases hdouble : n.toDouble? with
  | none =>
    obtain ⟨hzero, hone⟩ := Number.ne_of_toDouble? hdouble
    cases b <;> simp [hzero, hone]
  | some x =>
    obtain ⟨hzero, hone⟩ := Number.value_of_toDouble? hdouble
    have hequal : (Finite.ofNat? 1).any x.equal = true ↔ n.value = 1 := by
      rw [Finite.ofNat?_one, Option.any_some, Finite.equal_iff, Finite.value_one, hone]
    have hequal' : x.equal (Finite.zero false) = true ↔ n.value = 0 := by
      rw [Finite.equal_iff, Finite.value_zero, hzero]
    simp only [Option.bind_eq_bind, Option.bind_some, hequal, hequal']
    by_cases hz : n.value = 0
    · rw [if_pos hz, hz]
      cases b <;> simp
    · rw [if_neg hz]
      by_cases ho : n.value = 1
      · rw [if_pos ho, ho]
        cases b <;> simp
      · rw [if_neg ho]
        cases b <;> simp [hz, ho]

/-! ## Dates -/

namespace Instant

/-- The instant is so many seconds after the start of 1970: its seconds are the whole ones, and its
nanoseconds are those of the rest. As the rest is rounded, they can be one off where it is less than
a millionth of a nanosecond away from a whole one. -/
structure IsAt (d : Instant) (x : ℚ) : Prop where
  seconds : d.seconds = ⌊x⌋
  nanos_lt : d.nanos < billion
  nanos_le : (d.nanos : ℚ) ≤ Int.fract x * billion + 1 / 1000000
  lt_nanos : Int.fract x * billion < d.nanos + 1 + 1 / 1000000

theorem ofParts?_eq_some {seconds : Int} {nanos : Nat} {d : Instant} :
    ofParts? seconds nanos = some d ↔ d.seconds = seconds ∧ d.nanos = nanos := by
  unfold ofParts?
  split_ifs with h
  · rw [Option.some.injEq, eq_comm, mk.injEq]
  · constructor
    · intro hnone
      cases hnone
    · rintro ⟨rfl, rfl⟩
      exact absurd d.valid h

/-- Below a second, all seconds in use have instants. -/
theorem exists_ofParts? {seconds : Int} {nanos : Nat} (h : nanos < billion) :
    (∃ d, ofParts? seconds nanos = some d) ↔ earliest ≤ seconds ∧ seconds ≤ latest := by
  unfold ofParts?
  split_ifs with hvalid
  · exact iff_of_true ⟨_, rfl⟩ ⟨hvalid.1, hvalid.2.1⟩
  · constructor
    · rintro ⟨d, hd⟩
      cases hd
    · rintro ⟨hlow, hhigh⟩
      exact absurd ⟨hlow, hhigh, by omega, .inl h⟩ hvalid

/-- A billion. -/
def billionDouble : Finite :=
  ⟨false, 8388608000000000, -23, by decide⟩

theorem ofNat?_billion : Finite.ofNat? billion = some billionDouble := by
  decide

theorem size_billionDouble : billionDouble.size = billion := by
  norm_num [Finite.size, billionDouble, billion]

/-- The nanoseconds from the numbers that are rounded on the way to them. -/
theorem nanosOfDouble?_eq {x rest scale scaled : Finite} (hrest : x.fraction? = some rest)
    (hscale : Finite.ofNat? billion = some scale) (hscaled : rest.mul? scale = some scaled) :
    nanosOfDouble? x = some (min scaled.truncate.toNat (billion - 1)) := by
  unfold nanosOfDouble?
  rw [hrest, hscale]
  show (rest.mul? scale >>= fun s => pure (min s.truncate.toNat (billion - 1))) = _
  rw [hscaled]
  rfl

/-- **The nanoseconds of a double are those above its floor.** Both roundings are by less than half
a millionth of a nanosecond, and a rest that is rounded to a full second stays below it. -/
theorem exists_nanosOfDouble? (x : Finite) : ∃ nanos, nanosOfDouble? x = some nanos ∧
    nanos < billion ∧ (nanos : ℚ) ≤ Int.fract x.value * billion + 1 / 1000000 ∧
      Int.fract x.value * billion < nanos + 1 + 1 / 1000000 := by
  have hnonneg : 0 ≤ Int.fract x.value := Int.fract_nonneg _
  have hlt : Int.fract x.value < 1 := Int.fract_lt_one _
  have hbillion : (billion : ℚ) = 1000000000 := by norm_num [billion]
  obtain ⟨rest, hrest, hsign, herror⟩ := x.exists_fraction?
  obtain ⟨hlow, hhigh⟩ := abs_le.mp herror
  have hbound : rest.size * billionDouble.size < 2 ^ (30 : ℤ) := by
    rw [size_billionDouble, hbillion]
    norm_num at hhigh ⊢
    linarith
  obtain ⟨scaled, hscaled, hsign', herror'⟩ := Finite.exists_mul? (by decide) hbound
  obtain ⟨hlow', hhigh'⟩ := abs_le.mp herror'
  rw [size_billionDouble, hbillion] at hlow' hhigh'
  obtain ⟨hfloor, hceil⟩ := Finite.toNat_truncate (x := scaled) (by rw [hsign', hsign]; rfl)
  refine ⟨min scaled.truncate.toNat (billion - 1),
    nanosOfDouble?_eq hrest ofNat?_billion hscaled, ?_, ?_, ?_⟩
  · exact (Nat.min_le_right _ _).trans_lt (by decide)
  · have hmin : ((min scaled.truncate.toNat (billion - 1) : ℕ) : ℚ) ≤ scaled.truncate.toNat := by
      exact_mod_cast Nat.min_le_left _ _
    rw [hbillion]
    norm_num at hhigh hhigh'
    linarith
  · rw [hbillion]
    rcases Nat.le_total scaled.truncate.toNat (billion - 1) with hle | hge
    · rw [Nat.min_eq_left hle]
      norm_num at hlow hlow'
      linarith
    · -- a rest of almost a second, which both roundings may have made a full one
      have hlast : ((billion - 1 : ℕ) : ℚ) = 999999999 := by norm_num [billion]
      rw [Nat.min_eq_right hge, hlast]
      linarith

end Instant

/-- What a number of seconds is cast to, and when. -/
theorem Cast.instantOf?_isAt (n : Number) :
    (∀ d, instantOf? n = some d → d.IsAt n.value) ∧
      ((∃ d, instantOf? n = some d) ↔
        Instant.earliest ≤ ⌊n.value⌋ ∧ ⌊n.value⌋ ≤ Instant.latest) := by
  cases n with
  | integer i =>
    have hfloor : ⌊(Number.integer i).value⌋ = i := Int.floor_intCast i
    have hfract : Int.fract (Number.integer i).value = 0 := Int.fract_intCast i
    constructor
    · intro d hd
      obtain ⟨hseconds, hnanos⟩ := Instant.ofParts?_eq_some.mp hd
      refine ⟨hseconds.trans hfloor.symm, ?_, ?_, ?_⟩
      · rw [hnanos]
        decide
      · rw [hnanos, hfract]
        norm_num
      · rw [hnanos, hfract]
        norm_num
    · rw [hfloor]
      exact Instant.exists_ofParts? (by decide)
  | double x =>
    obtain ⟨nanos, hnanos, hlt, hle, hgt⟩ := Instant.exists_nanosOfDouble? x
    have hparts : instantOf? (.double x) = Instant.ofParts? ⌊x.value⌋ nanos := by
      rw [instantOf?, Instant.ofDouble?, hnanos, Finite.floor_eq]
      rfl
    rw [hparts]
    constructor
    · intro d hd
      obtain ⟨hseconds, rfl⟩ := Instant.ofParts?_eq_some.mp hd
      exact ⟨hseconds, hlt, hle, hgt⟩
    · exact Instant.exists_ofParts? hlt

/-! ## Casts of numbers -/

namespace Cast

theorem orFlaw_eq_ok {α : Type} {flaw : CastFlaw} {x : Option α} {a : α} :
    orFlaw flaw x = .ok a ↔ x = some a :=
  Outcome.elim_eq_ok

/-- **Numbers are cast by their exact value.** A number is cast to an integer if it is one of 64
bits, to a truth value if it is zero or one, and to a date if its whole seconds are in use; what is
cast is that integer, that truth value and that date. -/
theorem value_of_number (n : Number) :
    (∀ v, value .integer (.number n) = .ok v ↔
      ∃ k : Integer, n.value = (k : Int) ∧ v = .integer k) ∧
    (∀ v, value .boolean (.number n) = .ok v ↔
      ∃ b : Bool, (n.value = if b then 1 else 0) ∧ v = .boolean b) ∧
    (∀ v, value .date (.number n) = .ok v → ∃ d : Instant, v = .date d ∧ d.IsAt n.value) ∧
    ((∃ v, value .date (.number n) = .ok v) ↔
      Instant.earliest ≤ ⌊n.value⌋ ∧ ⌊n.value⌋ ≤ Instant.latest) := by
  have hdate : ∀ v, value .date (.number n) = .ok v ↔
      ∃ d, instantOf? n = some d ∧ PropertyValue.date d = v := by
    intro v
    show PropertyValue.date <$> orFlaw (.dateOutOfRange n) (instantOf? n) = _ ↔ _
    simp only [Outcome.map_eq_ok, orFlaw_eq_ok]
  obtain ⟨hisAt, hexists⟩ := instantOf?_isAt n
  refine ⟨fun v => ?_, fun v => ?_, fun v h => ?_, ?_⟩
  · show PropertyValue.integer <$> orFlaw (.noIntegerInRange n) (integerOf? n) = _ ↔ _
    simp only [Outcome.map_eq_ok, orFlaw_eq_ok, integerOf?_eq_some, eq_comm (b := v)]
  · show PropertyValue.boolean <$> orFlaw (.neitherZeroNorOne n) (boolOfNumber? n) = _ ↔ _
    simp only [Outcome.map_eq_ok, orFlaw_eq_ok, boolOfNumber?_eq_some, eq_comm (b := v)]
  · obtain ⟨d, hd, rfl⟩ := (hdate v).mp h
    exact ⟨d, rfl, hisAt d hd⟩
  · rw [← hexists]
    constructor
    · rintro ⟨v, hv⟩
      obtain ⟨d, hd, -⟩ := (hdate v).mp hv
      exact ⟨d, hd⟩
    · rintro ⟨d, hd⟩
      exact ⟨_, (hdate _).mpr ⟨d, hd, rfl⟩⟩

/-- The number just below zero is in the last nanosecond before 1970. -/
example : instantOf? (.double ⟨true, 1, -1074, by decide⟩) = some ⟨-1, 999999999, by decide⟩ := by
  decide +kernel

end Cast

end CollectionArchive
