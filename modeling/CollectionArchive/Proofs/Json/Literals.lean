import CollectionArchive.Proofs.Json.Values

/-!
# Texts of doubles are literals

A double is written with its shortest digits, with a point among them or an exponent after them.
Whatever number such a text is read as, it is a number literal, and no integer.

* `Decimal.IsRun`, `Decimal.IsWhole`: digits, and digits in front of a point.
* `Json.Tree.IsFraction`, `Json.Tree.IsExponent`: what follows the digits in front of the point.
* `Json.Tree.exists_readLiteral_of_parts`: a literal is read from its parts.
* `Decimal.shortest_ne_zero`: the digits of a double other than zero are not all zero.
* **`Json.Number.exists_isFloatLiteral`**: the text of each double is a literal.
-/

namespace CollectionArchive

open Binary64 (Finite)

namespace Decimal

/-! ## Digits -/

/-- At least one digit, and nothing else. -/
structure IsRun (cs : List Char) : Prop where
  ne_nil : cs ≠ []
  digits : ∀ c ∈ cs, c.isDigit = true

/-- Digits in front of a point: a zero is not followed by another digit. -/
inductive IsWhole : List Char → Prop
  | zero : IsWhole ['0']
  | digits {c : Char} {cs : List Char} (front : c ≠ '0')
    (digits : ∀ d ∈ c :: cs, d.isDigit = true) : IsWhole (c :: cs)

/-- The value of a digit. -/
def digitValue (c : Char) : Nat :=
  c.toNat - 48

theorem digit?_of_isDigit {c : Char} (h : c.isDigit = true) : digit? c = some (digitValue c) :=
  if_pos h

theorem digitValue_ne_zero {c : Char} (h : c.isDigit = true) (hzero : c ≠ '0') :
    digitValue c ≠ 0 := by
  intro hvalue
  have hleast : '0'.val ≤ c.val := of_decide_eq_true (Bool.and_eq_true_iff.mp h).1
  have hleast : 48 ≤ c.toNat := UInt32.le_iff_toNat_le.mp hleast
  refine hzero (Char.toNat_inj.mp ?_)
  rw [digitValue] at hvalue
  exact Nat.le_antisymm (Nat.le_of_sub_eq_zero hvalue) hleast

/-- Digits are read up to what is none. -/
theorem spanDigits_of_digits {cs rest : List Char} (h : ∀ c ∈ cs, c.isDigit = true)
    (hrest : NoDigit rest) : spanDigits (cs ++ rest) = (cs.map digitValue, rest) := by
  induction cs with
  | nil => exact spanDigits_of_noDigit hrest
  | cons c cs ih =>
    obtain ⟨hc, hcs⟩ := List.forall_mem_cons.mp h
    rw [List.cons_append, spanDigits, digit?_of_isDigit hc]
    simp only [ih hcs, List.map_cons]

end Decimal

namespace Json.Tree

open Decimal (IsRun IsWhole digitValue NoDigit)

/-! ## Parts of literals -/

theorem someDigits_of_isRun {cs rest : List Char} (h : IsRun cs) (hrest : NoDigit rest) :
    someDigits (cs ++ rest) = .ok (cs.map digitValue, rest) := by
  rw [someDigits, Decimal.spanDigits_of_digits h.digits hrest]
  cases cs with
  | nil => exact absurd rfl h.ne_nil
  | cons c cs => rfl

theorem wholeDigits_of_isWhole {cs rest : List Char} (h : IsWhole cs) (hrest : NoDigit rest) :
    wholeDigits (cs ++ rest) = .ok (cs.map digitValue, rest) := by
  cases h with
  | zero =>
    have hrun : IsRun ['0'] := ⟨List.cons_ne_nil _ _, by simp⟩
    rw [wholeDigits, someDigits_of_isRun hrun hrest]
    rfl
  | @digits c cs front digits =>
    have hrun : IsRun (c :: cs) := ⟨List.cons_ne_nil _ _, digits⟩
    rw [wholeDigits, someDigits_of_isRun hrun hrest]
    simp only [bind, Except.bind]
    split
    · rename_i hzero
      have hc := Decimal.digitValue_ne_zero (digits c List.mem_cons_self) front
      exact absurd (List.cons.inj hzero).1 hc
    · rfl

/-- A point and digits, or nothing. -/
inductive IsFraction : List Char → Prop
  | none : IsFraction []
  | point {cs : List Char} (run : IsRun cs) : IsFraction ('.' :: cs)

/-- An exponent with its sign, or nothing. -/
inductive IsExponent : List Char → Prop
  | none : IsExponent []
  | signed {sign : Char} {cs : List Char} (either : sign = '-' ∨ sign = '+') (run : IsRun cs) :
    IsExponent ('e' :: sign :: cs)

theorem IsFraction.noDigit {cs rest : List Char} (h : IsFraction cs) (hrest : NoDigit rest) :
    NoDigit (cs ++ rest) := by
  cases h with
  | none => exact hrest
  | point =>
    rintro _ ⟨⟩
    decide

theorem IsExponent.noDigit {cs : List Char} (h : IsExponent cs) : NoDigit cs := by
  cases h with
  | none => exact fun _ hc => by cases hc
  | signed =>
    rintro _ ⟨⟩
    decide

theorem IsExponent.ne_point {cs after : List Char} (h : IsExponent cs) : cs ≠ '.' :: after := by
  rintro rfl
  cases h

theorem exists_fractionDigits {cs rest : List Char} (h : IsFraction cs) (hrest : IsExponent rest) :
    ∃ ds, fractionDigits (cs ++ rest) = .ok (ds, rest) ∧ (ds = Option.none → cs = []) := by
  cases h with
  | none =>
    refine ⟨Option.none, ?_, fun _ => rfl⟩
    rw [List.nil_append, fractionDigits.eq_def]
    split
    · rename_i after
      exact absurd rfl hrest.ne_point
    · rfl
  | @point cs run =>
    refine ⟨some (cs.map digitValue), ?_, by rintro ⟨⟩⟩
    rw [List.cons_append, fractionDigits, someDigits_of_isRun run hrest.noDigit]
    rfl

theorem exists_exponentDigits {cs : List Char} (h : IsExponent cs) :
    ∃ e, exponentDigits cs = .ok (e, []) ∧ (e = Option.none → cs = []) := by
  cases h with
  | none => exact ⟨Option.none, rfl, fun _ => rfl⟩
  | @signed sign cs hsign run =>
    have hdigits : someDigits cs = .ok (cs.map digitValue, []) := by
      have hend : NoDigit [] := by rintro _ ⟨⟩
      have hrun := someDigits_of_isRun run hend
      rwa [List.append_nil] at hrun
    have hsplit : ∃ minus, Decimal.splitSign (sign :: cs) = (minus, cs) := by
      rcases hsign with rfl | rfl
      · exact ⟨true, rfl⟩
      · exact ⟨false, rfl⟩
    obtain ⟨minus, hsplit⟩ := hsplit
    refine ⟨some (Decimal.signed minus (Decimal.ofDigits (cs.map digitValue))), ?_, by rintro ⟨⟩⟩
    have hmark : ('e' == 'e' || 'e' == 'E') = true := rfl
    rw [exponentDigits, if_pos hmark, hsplit]
    dsimp only
    rw [hdigits]
    rfl

/-- **A literal is read from its parts.** -/
theorem exists_readLiteral_of_parts (negative : Bool) {whole fraction exponent : List Char}
    (hwhole : IsWhole whole) (hfraction : IsFraction fraction) (hexponent : IsExponent exponent) :
    ∃ l, readLiteral negative (whole ++ (fraction ++ exponent)) = .ok (l, []) ∧
      (l.fraction = none → fraction = []) ∧ (l.exponent = none → exponent = []) := by
  obtain ⟨ds, hds, hnoPoint⟩ := exists_fractionDigits hfraction hexponent
  obtain ⟨e, he, hnoMark⟩ := exists_exponentDigits hexponent
  refine ⟨⟨negative, whole.map digitValue, ds, e⟩, ?_, hnoPoint, hnoMark⟩
  rw [readLiteral, wholeDigits_of_isWhole hwhole (hfraction.noDigit hexponent.noDigit)]
  simp only [bind, Except.bind]
  rw [hds]
  dsimp only
  rw [he]
  rfl

end Json.Tree

namespace Decimal

open Json.Tree (IsFraction IsExponent)

/-! ## The digits of doubles -/

/-- The interval of a double other than zero does not reach down to zero. -/
theorem Interval.low_pos {x : Finite} (h : x.significand ≠ 0) : 0 < (interval x).low := by
  have hscale : 0 < Nat.pow 2 x.exponent.toNat := Nat.pow_pos (by decide)
  simp only [interval]
  refine Nat.mul_pos ?_ hscale
  split_ifs <;> omega

theorem Interval.ne_zero_of_contains {i : Interval} (h : 0 < i.low) {c : Nat} {k : Int}
    (hc : i.contains c k = true) : c ≠ 0 := by
  rintro rfl
  have hden : 0 < (tenPower k).2 := Nat.pow_pos (by decide)
  have hpos : 0 < i.low * (tenPower k).2 := Nat.mul_pos h hden
  simp only [contains, Nat.zero_mul] at hc
  split_ifs at hc
  · simp at hc
    omega
  · simp at hc

theorem Interval.ne_zero_of_nearest? {i : Interval} (h : 0 < i.low) {k : Int} {d : Nat × Int}
    (hd : i.nearest? k = some d) : d.1 ≠ 0 := by
  simp only [nearest?] at hd
  generalize Finite.nearestEven (i.value * (tenPower k).2) ((tenPower k).1 * i.unit) = best at hd
  generalize (if (best == i.value * (tenPower k).2 / ((tenPower k).1 * i.unit)) = true then
    i.value * (tenPower k).2 / ((tenPower k).1 * i.unit) + 1
    else i.value * (tenPower k).2 / ((tenPower k).1 * i.unit)) = other at hd
  split_ifs at hd with hbest hother
  · cases hd
    exact ne_zero_of_contains h hbest
  · cases hd
    exact ne_zero_of_contains h hother

/-- The shortest digits of a double other than zero are not all zero. -/
theorem shortest_ne_zero {x : Finite} (h : x.significand ≠ 0) : (shortest x).1 ≠ 0 := by
  rw [shortest]
  cases hfound : (List.range 17).findSome? fun n =>
      (interval x).nearest? (decimalOrder (interval x).value (interval x).unit - (n + 1 : Nat)) with
  | some d =>
    obtain ⟨n, _, hn⟩ := List.exists_of_findSome?_eq_some hfound
    exact Interval.ne_zero_of_nearest? (Interval.low_pos h) hn
  | none =>
    rw [Option.getD_none, exact]
    have hpower : ∀ b e : Nat, 0 < b → Nat.pow b e ≠ 0 := fun b e hb =>
      Nat.pos_iff_ne_zero.mp (Nat.pow_pos hb)
    split_ifs
    · exact Nat.mul_ne_zero h (hpower 2 _ (by decide))
    · exact Nat.mul_ne_zero h (hpower 5 _ (by decide))

/-- The digits of a number other than zero start with another digit than zero, also without the
zeros at their end. -/
theorem exists_trimmed {n : Nat} (h : n ≠ 0) : ∃ c cs,
    ((natChars n).reverse.dropWhile (· == '0')).reverse = c :: cs ∧ c ≠ '0' ∧
      ∀ d ∈ c :: cs, d.isDigit = true := by
  obtain ⟨d, ds, hspan, hvalue, hzero⟩ := exists_spanDigits n
  have hdigits : ∀ c ∈ natChars n, c.isDigit = true := fun c => isDigit_of_mem_natChars
  cases hchars : natChars n with
  | nil =>
    rw [hchars] at hspan
    cases hspan
  | cons c cs =>
    rw [hchars] at hspan hdigits
    have hc : digitValue c = d := by
      rw [spanDigits, digit?_of_isDigit (hdigits c List.mem_cons_self)] at hspan
      exact (List.cons.inj (Prod.mk.inj hspan).1).1
    have hfront : c ≠ '0' := by
      rintro rfl
      obtain rfl : 0 = d := hc
      rw [hzero rfl] at hvalue
      exact h hvalue.symm
    have hstop : [c].dropWhile (· == '0') = [c] :=
      List.dropWhile_cons_of_neg (by rwa [beq_iff_eq])
    rw [List.reverse_cons, List.dropWhile_append]
    split_ifs with hempty
    · rw [hstop]
      exact ⟨c, [], rfl, hfront, fun d hd =>
        hdigits d (List.mem_cons.mpr (.inl (by simpa using hd)))⟩
    · rw [List.reverse_append]
      refine ⟨c, _, rfl, hfront, fun d hd => hdigits d ?_⟩
      rcases List.mem_cons.mp hd with rfl | hd
      · exact List.mem_cons_self
      · refine List.mem_cons_of_mem _ (List.mem_reverse.mp ?_)
        exact (List.dropWhile_sublist _).subset (List.mem_reverse.mp hd)

/-! ## Layouts -/

theorem isRun_append {cs ds : List Char} (h : IsRun cs) (hds : ∀ d ∈ ds, d.isDigit = true) :
    IsRun (cs ++ ds) :=
  ⟨List.append_ne_nil_of_left_ne_nil h.ne_nil ds, List.forall_mem_append.mpr ⟨h.digits, hds⟩⟩

theorem isDigit_of_mem_zeros {n : Nat} {d : Char} (h : d ∈ List.replicate n '0') :
    d.isDigit = true := by
  rw [List.eq_of_mem_replicate h]
  rfl

/-- Digits with a point among them: digits in front of it and behind it. -/
theorem exists_positional {c : Char} {cs : List Char} (hfront : c ≠ '0')
    (hdigits : ∀ d ∈ c :: cs, d.isDigit = true) (point : Int) : ∃ whole fraction,
      positional (c :: cs) point = whole ++ '.' :: fraction ∧ IsWhole whole ∧ IsRun fraction := by
  have hrun : IsRun (c :: cs) := ⟨List.cons_ne_nil _ _, hdigits⟩
  rw [positional]
  split_ifs with hpoint hlength
  · refine ⟨['0'], List.replicate (-point).toNat '0' ++ c :: cs, rfl, .zero, ?_⟩
    exact ⟨List.append_ne_nil_of_right_ne_nil _ hrun.ne_nil,
      List.forall_mem_append.mpr ⟨fun d => isDigit_of_mem_zeros, hdigits⟩⟩
  · refine ⟨c :: cs ++ List.replicate (point.toNat - (c :: cs).length) '0', ['0'], ?_, ?_, ?_⟩
    · rfl
    · exact .digits hfront (isRun_append hrun fun d => isDigit_of_mem_zeros).digits
    · exact ⟨List.cons_ne_nil _ _, by simp⟩
  · obtain ⟨n, hn⟩ : ∃ n, point.toNat = n + 1 := Nat.exists_eq_succ_of_ne_zero (by omega)
    rw [hn] at hlength ⊢
    refine ⟨c :: cs.take n, cs.drop n, rfl, .digits hfront fun d hd => ?_, ?_, fun d hd => ?_⟩
    · exact hdigits d (List.take_subset (n + 1) (c :: cs) hd)
    · rw [ne_eq, List.drop_eq_nil_iff]
      rw [List.length_cons] at hlength
      omega
    · exact hdigits d (List.mem_cons_of_mem c (List.drop_subset n cs hd))

/-- Digits with an exponent after them. -/
theorem exists_scientific {c : Char} {cs : List Char} (hfront : c ≠ '0')
    (hdigits : ∀ d ∈ c :: cs, d.isDigit = true) (point : Int) : ∃ fraction exponent,
      scientific (c :: cs) point = [c] ++ (fraction ++ exponent) ∧ IsWhole [c] ∧
        IsFraction fraction ∧ IsExponent exponent ∧ exponent ≠ [] := by
  obtain ⟨hc, hcs⟩ := List.forall_mem_cons.mp hdigits
  have hexponent : IsRun (natChars (point - 1).natAbs) := by
    refine ⟨?_, fun d => isDigit_of_mem_natChars⟩
    obtain ⟨d, ds, hspan, _⟩ := exists_spanDigits (point - 1).natAbs
    intro hnil
    rw [hnil] at hspan
    cases hspan
  refine ⟨if (c :: cs).length ≤ 1 then [] else '.' :: cs,
    'e' :: (if point - 1 < 0 then '-' else '+') :: natChars (point - 1).natAbs, ?_, ?_, ?_, ?_, ?_⟩
  · rw [scientific]
    simp
  · exact .digits hfront (by simpa using hc)
  · split_ifs with hlength
    · exact .none
    · refine .point ⟨?_, hcs⟩
      rintro rfl
      exact hlength (Nat.le_refl 1)
  · refine .signed ?_ hexponent
    split_ifs
    · exact .inl rfl
    · exact .inr rfl
  · exact List.cons_ne_nil _ _

end Decimal

namespace Json.Number

open Json.Tree (signedChars readLiteral)

/-- The text is a literal that has a point or an exponent, and so that of no integer. -/
def IsFloatLiteral (negative : Bool) (cs : List Char) : Prop :=
  ∃ l, readLiteral negative cs = .ok (l, []) ∧ (l.fraction.isNone && l.exponent.isNone) = false

theorem isFloatLiteral_of_parts (negative : Bool) {whole fraction exponent : List Char}
    (hwhole : Decimal.IsWhole whole) (hfraction : Tree.IsFraction fraction)
    (hexponent : Tree.IsExponent exponent) (h : fraction ≠ [] ∨ exponent ≠ []) :
    IsFloatLiteral negative (whole ++ (fraction ++ exponent)) := by
  obtain ⟨l, hread, hnoPoint, hnoMark⟩ :=
    Tree.exists_readLiteral_of_parts negative hwhole hfraction hexponent
  refine ⟨l, hread, ?_⟩
  rw [Bool.and_eq_false_iff, Option.isNone_eq_false_iff, Option.isNone_eq_false_iff,
    Option.isSome_iff_ne_none, Option.isSome_iff_ne_none]
  exact h.imp (mt hnoPoint) (mt hnoMark)

/-- **The text of each double is a literal**, with a point or an exponent. -/
theorem exists_isFloatLiteral (x : Finite) : ∃ negative cs,
    (double x).chars = signedChars negative cs ∧ IsFloatLiteral negative cs := by
  have hsign : ∀ cs, (if x.negative then ['-'] else []) ++ cs = signedChars x.negative cs := by
    intro cs
    rw [signedChars]
    split_ifs <;> rfl
  rw [chars, Decimal.Layout.chars]
  generalize (if x.negative = true then ['-'] else []) = sign at hsign ⊢
  cases hshortest : Decimal.shortest x with | mk n k
  by_cases hzero : (x.significand == 0) = true
  · have hrun : Decimal.IsRun ['0'] := ⟨List.cons_ne_nil _ _, by simp⟩
    rw [if_pos hzero]
    exact ⟨_, _, hsign _, isFloatLiteral_of_parts _ .zero (.point hrun) .none
      (.inl (List.cons_ne_nil _ _))⟩
  have hn : n ≠ 0 := by
    have hne := Decimal.shortest_ne_zero (mt beq_iff_eq.mpr hzero)
    rwa [hshortest] at hne
  obtain ⟨c, cs, htrimmed, hfront, hdigits⟩ := Decimal.exists_trimmed hn
  rw [if_neg hzero]
  dsimp only
  rw [htrimmed]
  split_ifs with hlayout
  · obtain ⟨whole, fraction, hchars, hwhole, hfraction⟩ :=
      Decimal.exists_positional hfront hdigits ((Decimal.natChars n).length + k)
    refine ⟨_, _, hsign _, ?_⟩
    rw [hchars, ← List.append_nil ('.' :: fraction)]
    exact isFloatLiteral_of_parts _ hwhole (.point hfraction) .none (.inl (List.cons_ne_nil _ _))
  · obtain ⟨fraction, exponent, hchars, hwhole, hfraction, hexponent, hne⟩ :=
      Decimal.exists_scientific hfront hdigits ((Decimal.natChars n).length + k)
    refine ⟨_, _, hsign _, ?_⟩
    rw [hchars]
    exact isFloatLiteral_of_parts _ hwhole hfraction hexponent (.inr hne)

end Json.Number

end CollectionArchive
