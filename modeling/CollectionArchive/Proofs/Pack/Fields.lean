import CollectionArchive.Proofs.Pack.Varint

/-!
# The bytes of a number

A number of variable length ends at the first byte that does not continue. Its value is the sum of
the payloads of its bytes, each shifted by seven bits more than the one before it; a word keeps the
lowest 64 bits of that sum.

* `Varint.IsField`, `Varint.weight`: the bytes of one number, and its value.
* `Varint.Reads`: how reading ends, whatever the bytes are; **`Varint.decode_eq_ok_iff`**.
* `Varint.IsExact`: nothing but the value is read, and what is no number of 64 bits is refused.
* **`Varint.reading_exact_iff`**: this holds unless there are ten bytes of which the last has a
  payload above one.
* `Varint.append`: the bytes put at the end of a buffer one by one.
* **`Varint.append_then_decode`**: a number that was put at the end of a buffer is read back.
-/

namespace CollectionArchive.Varint

/-- The bytes of one number: all but the last say that more follow. -/
def IsField (field : Bytes) : Prop :=
  ∃ front last, field = front ++ [last] ∧ (∀ b ∈ front, continues b = true) ∧
    continues last = false

/-- The payloads of bytes, the first at the bit `shift`, each further one seven bits higher. -/
def weightFrom (shift : Nat) : Bytes → Nat
  | [] => 0
  | b :: bs => low b * Nat.pow 2 shift + weightFrom (shift + 7) bs

/-- The number that bytes write. -/
def weight (field : Bytes) : Nat :=
  weightFrom 0 field

theorem low_lt (b : UInt8) : low b < 128 :=
  Nat.mod_lt _ (by decide)

theorem pow_shift (shift : Nat) : Nat.pow 2 (shift + 7) = 128 * Nat.pow 2 shift := by
  rw [Nat.mul_comm]
  exact Nat.pow_add 2 shift 7

theorem weightFrom_append (shift : Nat) (bs cs : Bytes) :
    weightFrom shift (bs ++ cs) = weightFrom shift bs + weightFrom (shift + 7 * bs.length) cs := by
  induction bs generalizing shift with
  | nil => simp [weightFrom]
  | cons b bs ih =>
    have hshift : shift + 7 + 7 * bs.length = shift + 7 * (b :: bs).length := by
      rw [List.length_cons]
      omega
    rw [List.cons_append, weightFrom, weightFrom, ih, hshift, Nat.add_assoc]

/-- Bytes write less than the bit after their last payload. -/
theorem weightFrom_lt (shift : Nat) (bs : Bytes) :
    weightFrom shift bs + Nat.pow 2 shift ≤ Nat.pow 2 (shift + 7 * bs.length) := by
  induction bs generalizing shift with
  | nil => simp [weightFrom]
  | cons b bs ih =>
    have hrest := ih (shift + 7)
    have hlow : low b * Nat.pow 2 shift ≤ 127 * Nat.pow 2 shift :=
      Nat.mul_le_mul_right _ (Nat.le_of_lt_succ (low_lt b))
    have hshift : shift + 7 + 7 * bs.length = shift + 7 * (b :: bs).length := by
      rw [List.length_cons]
      omega
    rw [hshift, pow_shift] at hrest
    rw [weightFrom]
    omega

/-! ## How reading ends -/

/-- How reading ends after `count` bytes of which `value` was read. Of the ten bytes at most of a
number the sum is kept as far as it fits 64 bits; if ten bytes continue, the number is refused, and
so is one that is cut off. -/
inductive Reads (value count : Nat) : Bytes → Except Corruption (Nat × Bytes) → Prop
  | number {field rest : Bytes} (isField : IsField field) (short : count + field.length ≤ 10) :
    Reads value count (field ++ rest)
      (.ok ((value + weightFrom (7 * count) field) % 0x10000000000000000, rest))
  | tooLong {front rest : Bytes} (long : count + front.length = 10)
    (more : ∀ b ∈ front, continues b = true) :
    Reads value count (front ++ rest) (.error .varintOverflow)
  | unended {bs : Bytes} (short : count + bs.length < 10) (more : ∀ b ∈ bs, continues b = true) :
    Reads value count bs (.error .varintTruncated)

/-- A payload is put on top of what was read, and what a word cannot hold of it is lost. -/
theorem add_payload {value count n : Nat} (hcount : count ≤ 9)
    (hvalue : value < Nat.pow 2 (7 * count)) (hn : n < 128) :
    value + n * Nat.pow 2 (7 * count) % 0x10000000000000000 =
      (value + n * Nat.pow 2 (7 * count)) % 0x10000000000000000 := by
  by_cases hlast : count = 9
  · subst hlast
    have h63 : Nat.pow 2 (7 * 9) = 0x8000000000000000 := rfl
    rw [h63] at hvalue ⊢
    omega
  · have hpow : Nat.pow 2 (7 * count) ≤ Nat.pow 2 56 :=
      Nat.pow_le_pow_right (by decide) (by omega)
    have hmul : n * Nat.pow 2 (7 * count) ≤ 127 * Nat.pow 2 (7 * count) :=
      Nat.mul_le_mul_right _ (Nat.le_of_lt_succ hn)
    have h56 : Nat.pow 2 56 = 0x100000000000000 := rfl
    rw [Nat.mod_eq_of_lt (by omega), Nat.mod_eq_of_lt (by omega)]

/-- Before the last possible byte nothing is lost. -/
theorem add_payload_lt {value count n : Nat} (hcount : count < 9)
    (hvalue : value < Nat.pow 2 (7 * count)) (hn : n < 128) :
    value + n * Nat.pow 2 (7 * count) % 0x10000000000000000 =
        value + n * Nat.pow 2 (7 * count) ∧
      value + n * Nat.pow 2 (7 * count) < Nat.pow 2 (7 * (count + 1)) := by
  have hpow : Nat.pow 2 (7 * count) ≤ Nat.pow 2 56 :=
    Nat.pow_le_pow_right (by decide) (by omega)
  have hmul : n * Nat.pow 2 (7 * count) ≤ 127 * Nat.pow 2 (7 * count) :=
    Nat.mul_le_mul_right _ (Nat.le_of_lt_succ hn)
  have h56 : Nat.pow 2 56 = 0x100000000000000 := rfl
  have hnext : Nat.pow 2 (7 * (count + 1)) = 128 * Nat.pow 2 (7 * count) := pow_shift (7 * count)
  rw [hnext, Nat.mod_eq_of_lt (by omega)]
  omega

theorem isField_singleton {b : UInt8} (h : continues b = false) : IsField [b] :=
  ⟨[], b, rfl, List.forall_mem_nil _, h⟩

theorem IsField.cons {b : UInt8} {field : Bytes} (hb : continues b = true) (h : IsField field) :
    IsField (b :: field) := by
  obtain ⟨front, last, rfl, hfront, hlast⟩ := h
  exact ⟨b :: front, last, rfl, List.forall_mem_cons.mpr ⟨hb, hfront⟩, hlast⟩

/-- Every reading ends in one of the three ways. The induction is on the bytes; what was read so far
stays below the bit at which the next payload is put. -/
theorem reads_decodeFrom (bs : Bytes) : ∀ {value count : Nat}, count ≤ 9 →
    value < Nat.pow 2 (7 * count) → Reads value count bs (decodeFrom value (7 * count) bs) := by
  induction bs with
  | nil =>
    intro value count hcount _
    exact .unended (by simp; omega) (List.forall_mem_nil _)
  | cons b bs ih =>
    intro value count hcount hvalue
    have hlow := low_lt b
    rw [decodeFrom]
    by_cases hends : continues b = false
    · have hread : Reads value count ([b] ++ bs) _ :=
        .number (isField_singleton hends) (by simp; omega)
      simp only [weightFrom, Nat.add_zero, List.singleton_append] at hread
      simp only [hends, Bool.not_false, if_true, add_payload hcount hvalue hlow]
      exact hread
    · have hmore : continues b = true := Bool.of_not_eq_false hends
      simp only [hmore, Bool.not_true, Bool.false_eq_true, if_false]
      by_cases hlong : count = 9
      · subst hlong
        rw [if_pos (by decide)]
        have hread : Reads value 9 ([b] ++ bs) _ := .tooLong rfl (by simpa using hmore)
        exact hread
      · obtain ⟨hsum, hbound⟩ := add_payload_lt (by omega) hvalue hlow
        rw [if_neg (by omega), hsum]
        have hrest := ih (show count + 1 ≤ 9 by omega) hbound
        rw [show 7 * (count + 1) = 7 * count + 7 by omega] at hrest
        generalize decodeFrom _ _ bs = outcome at hrest
        cases hrest with
        | @number field rest isField short =>
          have hread : Reads value count ((b :: field) ++ rest) _ :=
            .number (isField.cons hmore) (by simp; omega)
          rw [weightFrom, ← Nat.add_assoc] at hread
          exact hread
        | @tooLong front rest long more =>
          have hlength : count + (b :: front).length = 10 := by simp; omega
          have hread : Reads value count ((b :: front) ++ rest) _ :=
            .tooLong hlength (List.forall_mem_cons.mpr ⟨hmore, more⟩)
          exact hread
        | unended short more =>
          exact .unended (by simp; omega) (List.forall_mem_cons.mpr ⟨hmore, more⟩)

theorem IsField.exists_last {field : Bytes} (h : IsField field) :
    ∃ last ∈ field, continues last = false := by
  obtain ⟨front, last, rfl, -, hlast⟩ := h
  exact ⟨last, by simp, hlast⟩

/-- One sequence of bytes starts with the bytes of one number only. -/
theorem IsField.unique {field field' rest rest' : Bytes} (h : IsField field) (h' : IsField field')
    (heq : field ++ rest = field' ++ rest') : field = field' ∧ rest = rest' := by
  obtain ⟨front, last, rfl, hfront, hlast⟩ := h
  obtain ⟨front', last', rfl, hfront', hlast'⟩ := h'
  induction front generalizing front' with
  | nil =>
    cases front' with
    | nil => simpa using heq
    | cons b front' =>
      obtain ⟨rfl, -⟩ := List.cons.inj heq
      have hb := (List.forall_mem_cons.mp hfront').1
      exact absurd (hlast.symm.trans hb) Bool.false_ne_true
  | cons a front ih =>
    obtain ⟨ha, hfront⟩ := List.forall_mem_cons.mp hfront
    cases front' with
    | nil =>
      obtain ⟨rfl, -⟩ := List.cons.inj heq
      exact absurd (hlast'.symm.trans ha) Bool.false_ne_true
    | cons b front' =>
      obtain ⟨rfl, htail⟩ := List.cons.inj heq
      obtain ⟨hfield, hrest⟩ := ih hfront front' htail (List.forall_mem_cons.mp hfront').2
      exact ⟨congrArg (a :: ·) hfield, hrest⟩

/-- **What is read is the value of the bytes of one number**, as far as it fits 64 bits. -/
theorem decode_eq_ok_iff {bs rest : Bytes} {n : Nat} : decode bs = .ok (n, rest) ↔
    ∃ field, bs = field ++ rest ∧ IsField field ∧ field.length ≤ 10 ∧
      n = weight field % 0x10000000000000000 := by
  have hreads : Reads 0 0 bs (decode bs) := reads_decodeFrom bs (Nat.zero_le _) (by decide)
  constructor
  · intro h
    rw [h] at hreads
    cases hreads with
    | number isField short => exact ⟨_, rfl, isField, by omega, by rw [Nat.zero_add]; rfl⟩
  · rintro ⟨field, rfl, hfield, hlength, rfl⟩
    have hlast := hfield.exists_last
    generalize hbs : field ++ rest = bs at hreads
    generalize decode bs = outcome at hreads
    cases hreads with
    | @number field' rest' hfield' =>
      obtain ⟨rfl, rfl⟩ := hfield.unique hfield' hbs
      rw [Nat.zero_add]
      rfl
    | @tooLong front rest' long more =>
      obtain ⟨last, hmem, hends⟩ := hlast
      have hfront : field <+: front := by
        apply List.prefix_of_prefix_length_le (List.prefix_append field rest)
        · rw [hbs]
          exact List.prefix_append front rest'
        · omega
      exact absurd (hends.symm.trans (more last (hfront.subset hmem))) Bool.false_ne_true
    | unended _ more =>
      obtain ⟨last, hmem, hends⟩ := hlast
      have hinside : last ∈ bs := hbs ▸ List.mem_append_left rest hmem
      exact absurd (hends.symm.trans (more last hinside)) Bool.false_ne_true

/-! ## Exact reading -/

/-- Nothing but the value of a number is read. A number that does not fit 64 bits is refused, and so
are bytes that end within a number. -/
structure IsExact (bs : Bytes) : Prop where
  value : ∀ n rest, decode bs = .ok (n, rest) →
    ∃ field, bs = field ++ rest ∧ IsField field ∧ n = weight field
  tooLarge : ∀ field rest, bs = field ++ rest → IsField field →
    0x10000000000000000 ≤ weight field → ∃ c, decode bs = .error c
  unended : (∀ field rest, bs = field ++ rest → ¬ IsField field) → ∃ c, decode bs = .error c

/-- The bytes start with a number of ten bytes of which the last has a payload above one. -/
def IsCut (bs : Bytes) : Prop :=
  ∃ front last rest, bs = front ++ last :: rest ∧ front.length = 9 ∧
    (∀ b ∈ front, continues b = true) ∧ continues last = false ∧ 1 < low last

/-- Of ten bytes the last counts for the highest bit and those above it. -/
theorem weight_tenth {front : Bytes} (h : front.length = 9) (last : UInt8) :
    weight (front ++ [last]) = weight front + low last * 0x8000000000000000 ∧
      weight front < 0x8000000000000000 := by
  have hfront := weightFrom_lt 0 front
  have hpow : Nat.pow 2 (0 + 7 * front.length) = 0x8000000000000000 := by rw [h]
  have hone : Nat.pow 2 0 = 1 := rfl
  rw [hpow, hone] at hfront
  have happend := weightFrom_append 0 front [last]
  rw [weightFrom, weightFrom, hpow, Nat.add_zero] at happend
  exact ⟨happend, hfront⟩

/-- A number of at most ten bytes does not fit 64 bits exactly if it is cut. -/
theorem isCut_iff {field rest : Bytes} (hfield : IsField field) (hlength : field.length ≤ 10) :
    IsCut (field ++ rest) ↔ 0x10000000000000000 ≤ weight field := by
  constructor
  · rintro ⟨front, last, rest', heq, hfront, hmore, hends, hlast⟩
    have hcut : IsField (front ++ [last]) := ⟨front, last, rfl, hmore, hends⟩
    have heq' : field ++ rest = front ++ [last] ++ rest' := by simpa using heq
    obtain ⟨rfl, -⟩ := hfield.unique hcut heq'
    obtain ⟨hweight, -⟩ := weight_tenth hfront last
    omega
  · intro hlarge
    obtain ⟨front, last, rfl, hmore, hends⟩ := hfield
    rw [List.length_append, List.length_singleton] at hlength
    have hfront : front.length = 9 := by
      by_contra hne
      have hlt := weightFrom_lt 0 (front ++ [last])
      have hpow : Nat.pow 2 (0 + 7 * (front ++ [last]).length) ≤ Nat.pow 2 63 :=
        Nat.pow_le_pow_right (by decide) (by simp; omega)
      have h63 : Nat.pow 2 63 = 0x8000000000000000 := rfl
      rw [weight] at hlarge
      omega
    obtain ⟨hweight, hbound⟩ := weight_tenth hfront last
    exact ⟨front, last, rest, by simp, hfront, hmore, hends, by omega⟩

/-- A cut number is read, though it does not fit. -/
theorem IsCut.not_isExact {bs : Bytes} (h : IsCut bs) : ¬ IsExact bs := by
  obtain ⟨front, last, rest, rfl, hfront, hmore, hends, hlast⟩ := h
  intro hexact
  have hfield : IsField (front ++ [last]) := ⟨front, last, rfl, hmore, hends⟩
  have hsplit : front ++ last :: rest = front ++ [last] ++ rest := by simp
  obtain ⟨hweight, -⟩ := weight_tenth hfront last
  obtain ⟨c, hc⟩ := hexact.tooLarge _ rest hsplit hfield (by omega)
  have hread := decode_eq_ok_iff.mpr ⟨_, hsplit, hfield, by simp [hfront], rfl⟩
  rw [hc] at hread
  cases hread

/-- What is read of bytes that are not cut is a value that fits. -/
theorem value_of_not_isCut {bs rest : Bytes} {n : Nat} (huncut : ¬ IsCut bs)
    (h : decode bs = .ok (n, rest)) :
    ∃ field, bs = field ++ rest ∧ IsField field ∧ n = weight field ∧
      weight field < 0x10000000000000000 := by
  obtain ⟨field, rfl, hfield, hlength, rfl⟩ := decode_eq_ok_iff.mp h
  have hfits : weight field < 0x10000000000000000 := by
    by_contra hlarge
    exact huncut ((isCut_iff hfield hlength).mpr (Nat.le_of_not_lt hlarge))
  exact ⟨field, rfl, hfield, Nat.mod_eq_of_lt hfits, hfits⟩

theorem isExact_of_not_isCut {bs : Bytes} (huncut : ¬ IsCut bs) : IsExact bs := by
  constructor
  · intro n rest h
    obtain ⟨field, hsplit, hfield, hvalue, -⟩ := value_of_not_isCut huncut h
    exact ⟨field, hsplit, hfield, hvalue⟩
  · intro field rest hsplit hfield hlarge
    cases hdecode : decode bs with
    | error c => exact ⟨c, rfl⟩
    | ok read =>
      obtain ⟨field', hsplit', hfield', -, hfits⟩ := value_of_not_isCut huncut hdecode
      obtain ⟨rfl, -⟩ := hfield.unique hfield' (hsplit.symm.trans hsplit')
      exact absurd hlarge (Nat.not_le.mpr hfits)
  · intro hnone
    cases hdecode : decode bs with
    | error c => exact ⟨c, rfl⟩
    | ok read =>
      obtain ⟨field, hsplit, hfield, -⟩ := value_of_not_isCut huncut hdecode
      exact absurd hfield (hnone field _ hsplit)

/-- **What is read is the value of the bytes of one number, as far as it fits 64 bits.** That is the
value itself, and what does not fit is refused, unless there are ten bytes of which the last has a
payload above one: then the bits above the 64th are lost. -/
theorem reading_exact_iff (bs : Bytes) :
    (∀ n rest, decode bs = .ok (n, rest) ↔ ∃ field, bs = field ++ rest ∧ IsField field ∧
      field.length ≤ 10 ∧ n = weight field % 0x10000000000000000) ∧
      (IsExact bs ↔ ¬ IsCut bs) := by
  refine ⟨fun n rest => decode_eq_ok_iff, ?_, isExact_of_not_isCut⟩
  intro hexact hcut
  exact hcut.not_isExact hexact

/-- A number is read with bits lost: nine bytes without payload and a tenth with the value two write
a number of 65 bits, of which only zeros are kept. -/
theorem not_reading_exact : ¬ ∀ bs, IsExact bs := by
  intro h
  have hmore : ∀ b ∈ List.replicate 9 (0x80 : UInt8), continues b = true := by
    intro b hb
    rw [List.eq_of_mem_replicate hb]
    rfl
  have hcut : IsCut (List.replicate 9 0x80 ++ [0x02]) :=
    ⟨List.replicate 9 0x80, 0x02, [], rfl, rfl, hmore, rfl, by decide⟩
  exact hcut.not_isExact (h _)

/-! ## Appending to a buffer -/

theorem toNat_shiftRight (n : UInt64) : (n >>> 7).toNat = n.toNat / 128 := by
  rw [UInt64.toNat_shiftRight]
  simp [Nat.shiftRight_eq_div_pow]

/-- Puts a number at the end of a buffer, byte by byte. -/
def append (buffer : Bytes) (n : UInt64) : Bytes :=
  let group := (n &&& 0x7F).toUInt8
  if n >>> 7 = 0 then buffer ++ [group] else append (buffer ++ [group ||| 0x80]) (n >>> 7)
termination_by n.toNat
decreasing_by
  rename_i hrest
  have hpos : (n >>> 7).toNat ≠ 0 := fun h => hrest (UInt64.toNat_inj.mp h)
  rw [toNat_shiftRight] at hpos ⊢
  omega

theorem toNat_group (n : UInt64) : (n &&& 0x7F).toUInt8.toNat = n.toNat % 128 := by
  have hmask : n.toNat &&& 0x7F = n.toNat % 128 := Nat.and_two_pow_sub_one_eq_mod n.toNat 7
  rw [UInt64.toNat_toUInt8, UInt64.toNat_and]
  show (n.toNat &&& 0x7F) % 256 = n.toNat % 128
  rw [hmask]
  omega

theorem toNat_group_or (n : UInt64) :
    ((n &&& 0x7F).toUInt8 ||| 0x80).toNat = n.toNat % 128 + 128 := by
  have hlow : n.toNat % 128 < 2 ^ 7 := Nat.mod_lt _ (by decide)
  have hor : 128 + n.toNat % 128 = 128 ||| n.toNat % 128 := Nat.two_pow_add_eq_or_of_lt hlow 1
  rw [UInt8.toNat_or, toNat_group]
  show n.toNat % 128 ||| 128 = n.toNat % 128 + 128
  rw [Nat.or_comm, ← hor, Nat.add_comm]

/-- What is put at the end of a buffer are the bytes of the number. -/
theorem append_eq (buffer : Bytes) (n : UInt64) : append buffer n = buffer ++ encode n.toNat := by
  fun_induction append buffer n with
  | case1 buffer n group hrest =>
    have hlt : n.toNat < 128 := by
      have hzero := congrArg UInt64.toNat hrest
      rw [toNat_shiftRight] at hzero
      change n.toNat / 128 = 0 at hzero
      omega
    have hgroup : group = n.toNat.toUInt8 := by
      apply UInt8.toNat_inj.mp
      rw [toNat_group, toNat_last hlt]
      omega
    rw [hgroup, encode_of_lt hlt]
  | case2 buffer n group hrest ih =>
    have hle : 128 ≤ n.toNat := by
      have hpos : (n >>> 7).toNat ≠ 0 := fun h => hrest (UInt64.toNat_inj.mp h)
      rw [toNat_shiftRight] at hpos
      omega
    have hgroup : group ||| 0x80 = (n.toNat % 128 + 128).toUInt8 := by
      apply UInt8.toNat_inj.mp
      rw [toNat_group_or, toNat_more]
    rw [ih, hgroup, toNat_shiftRight, encode_of_le hle, List.append_assoc, List.singleton_append]

/-- A number of so many groups is written in as many bytes at most. -/
theorem length_encode_le {count : Nat} (hcount : 0 < count) {n : Nat}
    (h : n < Nat.pow 2 (7 * count)) : (encode n).length ≤ count := by
  induction count generalizing n with
  | zero => exact absurd hcount (Nat.lt_irrefl 0)
  | succ count ih =>
    by_cases hn : n < 128
    · rw [encode_of_lt hn]
      simp
    · have hne : count ≠ 0 := by
        intro hzero
        subst hzero
        exact hn h
      have hpow : Nat.pow 2 (7 * (count + 1)) = 128 * Nat.pow 2 (7 * count) :=
        pow_shift (7 * count)
      have hrest := ih (Nat.pos_of_ne_zero hne) (n := n / 128) (by omega)
      rw [encode_of_le (Nat.le_of_not_lt hn), List.length_cons]
      omega

/-- **A number that was put at the end of a buffer is read back.** What was in the buffer stays, one
to ten bytes are added, and as many are read, whatever follows them. -/
theorem append_then_decode (n : UInt64) (buffer rest : Bytes) :
    ∃ field, append buffer n = buffer ++ field ∧ field = encode n.toNat ∧ 1 ≤ field.length ∧
      field.length ≤ 10 ∧ decode (field ++ rest) = .ok (n.toNat, rest) := by
  have hword : n.toNat < 0x10000000000000000 := n.toNat_lt
  have hfits : n.toNat < Nat.pow 2 (7 * 10) := Nat.lt_trans hword (by decide)
  refine ⟨encode n.toNat, append_eq buffer n, rfl, ?_, ?_, ?_⟩
  · exact List.length_pos_iff.mpr (encode_ne_nil n.toNat)
  · exact length_encode_le (by decide) hfits
  · exact decode_encode hword rest

/-- The largest number is written in ten bytes, the last of which has one payload bit. -/
example : encode 0xFFFFFFFFFFFFFFFF = List.replicate 9 0xFF ++ [0x01] := by cbv

end CollectionArchive.Varint
