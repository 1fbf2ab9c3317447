import CollectionArchive.Pack.Standard
import CollectionArchive.Proofs.Text.Utf8

/-!
# Frames of plain blocks

Frames are written with blocks that hold the data as it is, and are read back.

* `Zstd.number_numberBytes`: the bytes of a number, up to what they can write.
* `Zstd.readBlocks?_plainBlocks`: plain blocks are read back.
* **`Zstd.decompress?_compress`**: data whose size fits 64 bits comes back as it was;
  **`Codec.isLossless_standard`**: so the standard codec is lossless.
-/

namespace CollectionArchive

namespace Zstd

/-! ## Numbers -/

theorem length_numberBytes (count n : Nat) : (numberBytes count n).length = count := by
  induction count generalizing n with
  | zero => rfl
  | succ count ih => rw [numberBytes, List.length_cons, ih]

/-- So many bytes keep a number up to multiples of what they can write. -/
theorem number_numberBytes (count n : Nat) :
    number (numberBytes count n) = n % Nat.pow 256 count := by
  induction count generalizing n with
  | zero => rw [numberBytes, number, List.foldr_nil, show Nat.pow 256 0 = 1 from rfl, Nat.mod_one]
  | succ count ih =>
    have hpow : Nat.pow 256 (count + 1) = 256 * Nat.pow 256 count := Nat.pow_succ'
    rw [number, numberBytes, List.foldr_cons, ← number, ih, hpow, Nat.mod_mul, Nat.toUInt8_eq,
      UInt8.toNat_ofNat', Nat.add_comm, Nat.mul_comm]

theorem takeNumber?_numberBytes {count n : Nat} (h : n < Nat.pow 256 count) (rest : List UInt8) :
    takeNumber? count (numberBytes count n ++ rest) = some (n, rest) := by
  have hlength := length_numberBytes count n
  have henough : ¬ (numberBytes count n ++ rest).length < count := by
    rw [List.length_append, hlength]
    omega
  rw [takeNumber?, if_neg henough, List.take_left' hlength, List.drop_left' hlength,
    number_numberBytes, Nat.mod_eq_of_lt h]

theorem takeNumber?_zero (bs : List UInt8) : takeNumber? 0 bs = some (0, bs) :=
  rfl

theorem takeNumber?_one (b : UInt8) (rest : List UInt8) :
    takeNumber? 1 (b :: rest) = some (b.toNat, rest) := by
  have henough : ¬ (b :: rest).length < 1 := by
    rw [List.length_cons]
    omega
  rw [takeNumber?, if_neg henough]
  simp [number]

/-! ## Blocks -/

theorem toList_foldl_push (bs : List UInt8) (out : ByteArray) :
    (bs.foldl ByteArray.push out).toList = out.toList ++ bs := by
  induction bs generalizing out with
  | nil => rw [List.foldl_nil, List.append_nil]
  | cons b bs ih =>
    rw [List.foldl_cons, ih, Bytes.toList_eq, Bytes.toList_eq, ByteArray.data_push,
      Array.toList_push, List.append_assoc, List.singleton_append]

theorem size_eq (out : ByteArray) : out.size = out.toList.length := by
  rw [Bytes.toList_eq, Array.length_toList]
  rfl

theorem size_foldl_push (bs : List UInt8) (out : ByteArray) :
    (bs.foldl ByteArray.push out).size = out.size + bs.length := by
  rw [size_eq, toList_foldl_push, List.length_append, ← size_eq]

theorem readBlocks?_plainBlock {h : Header} {data : List UInt8} (hlimit : data.length ≤ blockLimit)
    (hmax : h.blockMax = blockLimit) (last : Bool) (steps : Nat) (m : Memory) (out : ByteArray)
    (rest : List UInt8) :
    readBlocks? h (steps + 1) m out (plainBlock last data ++ rest) =
      if last then some (data.foldl ByteArray.push out, rest)
      else readBlocks? h steps m (data.foldl ByteArray.push out) rest := by
  have hlt : data.length * 8 + last.toNat < Nat.pow 256 3 := by
    have := Bool.toNat_le last
    have : Nat.pow 256 3 = 16777216 := rfl
    simp only [blockLimit] at hlimit
    omega
  have hsort : (data.length * 8 + last.toNat) / 2 % 4 = 0 := by
    have := Bool.toNat_le last
    omega
  have hsize : (data.length * 8 + last.toNat) / 8 = data.length := by
    have := Bool.toNat_le last
    omega
  have hlast : ((data.length * 8 + last.toNat) % 2 == 1) = last := by
    cases last with
    | false => exact beq_eq_false_iff_ne.mpr (by simp only [Bool.toNat_false]; omega)
    | true => exact beq_iff_eq.mpr (by simp only [Bool.toNat_true]; omega)
  have hmore : ¬ h.blockMax < (data.foldl ByteArray.push out).size - out.size := by
    rw [size_foldl_push, hmax]
    omega
  have happend : appendData? h m out 0 data.length (data ++ rest) =
      some (data.foldl ByteArray.push out, m, rest) := by
    rw [appendData?, if_neg, List.take_left, List.drop_left]
    rw [List.length_append]
    omega
  rw [readBlocks?, plainBlock, List.append_assoc, takeNumber?_numberBytes hlt]
  simp only [Option.bind_eq_bind, Option.bind_some, hsort, hsize, happend, hmore, if_false, hlast]
  cases last <;> rfl

/-- **Plain blocks are read back.** -/
theorem readBlocks?_plainBlocks {h : Header} (hmax : h.blockMax = blockLimit) (m : Memory)
    (data : List UInt8) : ∀ (steps : Nat) (out : ByteArray), (plainBlocks data).length ≤ steps →
      readBlocks? h steps m out (plainBlocks data) = some (data.foldl ByteArray.push out, []) := by
  -- Along the blocks: each takes one step and at least one byte, so steps for all bytes suffice.
  fun_induction plainBlocks data with
  | case1 data hlimit =>
    intro steps out hsteps
    have hlong : 0 < (plainBlock true data).length := by
      rw [plainBlock, List.length_append, length_numberBytes]
      omega
    obtain ⟨steps, rfl⟩ :=
      Nat.exists_eq_add_one_of_ne_zero (Nat.ne_of_gt (Nat.lt_of_lt_of_le hlong hsteps))
    rw [← List.append_nil (plainBlock true data), readBlocks?_plainBlock hlimit hmax, if_pos rfl]
  | case2 data hlimit ih =>
    intro steps out hsteps
    have hlong : 0 < (plainBlock false (data.take blockLimit)).length := by
      rw [plainBlock, List.length_append, length_numberBytes]
      omega
    rw [List.length_append] at hsteps
    obtain ⟨steps, rfl⟩ := Nat.exists_eq_add_one_of_ne_zero (n := steps) (by omega)
    have htake : (data.take blockLimit).length ≤ blockLimit := List.length_take_le _ _
    rw [readBlocks?_plainBlock htake hmax, if_neg Bool.false_ne_true, ih steps _ (by omega),
      ← List.foldl_append, List.take_append_drop]

/-! ## Frames -/

theorem readHeader?_compress {size : Nat} (h : size < 0x10000000000000000) (rest : List UInt8) :
    readHeader? ([0xC0, 0x38] ++ (numberBytes 8 size ++ rest)) =
      some (⟨blockLimit, some size, false⟩, rest) := by
  have hsize : takeNumber? 8 (numberBytes 8 size ++ rest) = some (size, rest) :=
    takeNumber?_numberBytes h rest
  have hwindow : windowSize 56 = blockLimit := rfl
  have hread : readSize? 3 false (numberBytes 8 size ++ rest) = some (some size, rest) := by
    rw [readSize?]
    show (takeNumber? 8 (numberBytes 8 size ++ rest)).bind _ = _
    rw [hsize]
    rfl
  rw [List.cons_append, List.singleton_append, readHeader?, takeNumber?_one]
  -- With proofs for all steps, since comparing the readers by computation takes long.
  simp -implicitDefEqProofs only [Option.bind_eq_bind, Option.bind_some,
    show (0xC0 : UInt8).toNat = 192 from rfl, Nat.reduceDiv, Nat.reduceMod, Nat.reduceBEq,
    Bool.false_eq_true, if_false, takeNumber?_one, takeNumber?_zero, hread,
    show (0x38 : UInt8).toNat = 56 from rfl, hwindow]
  rfl

theorem readFrame?_compress {data : List UInt8} (h : data.length < 0x10000000000000000) :
    readFrame? ([0xC0, 0x38] ++ (numberBytes 8 data.length ++ plainBlocks data)) =
      some (data.foldl ByteArray.push .empty, []) := by
  have hblocks : readBlocks? ⟨blockLimit, some data.length, false⟩
      ([0xC0, 0x38] ++ (numberBytes 8 data.length ++ plainBlocks data)).length .start .empty
        (plainBlocks data) = some (data.foldl ByteArray.push .empty, []) := by
    refine readBlocks?_plainBlocks rfl _ _ _ _ ?_
    rw [List.length_append, List.length_append]
    omega
  have hsize : (data.foldl ByteArray.push .empty).size = data.length := by
    rw [size_foldl_push]
    exact Nat.zero_add _
  rw [readFrame?, readHeader?_compress h]
  simp only [Option.bind_eq_bind, Option.bind_some, hblocks, hsize, Option.any_some,
    bne_self_eq_false, Bool.false_eq_true, if_false]
  rfl

/-- **Data whose size fits 64 bits comes back as it was.** -/
theorem decompress?_compress {data : List UInt8} (h : data.length < 0x10000000000000000) :
    decompress? (compress data) = some data := by
  have hframe : compress data =
      frameMagic ++ ([0xC0, 0x38] ++ (numberBytes 8 data.length ++ plainBlocks data)) := by
    rw [compress, List.append_assoc, List.append_assoc]
  have hlength : frameMagic.length = 4 := rfl
  rw [decompress?, readFrames?, hframe, List.take_left' hlength, List.drop_left' hlength,
    readFrame?_compress h]
  show some (data.foldl ByteArray.push .empty).toList = some data
  rw [toList_foldl_push, Bytes.toList_eq]
  rfl

/-! ## Sizes -/

/-- A block adds three bytes to its data, and there is at least one byte of data in each but the
last. -/
theorem length_plainBlocks_le (data : List UInt8) :
    131072 * (plainBlocks data).length ≤ 131075 * data.length + 393216 := by
  fun_induction plainBlocks data with
  | case1 data hlimit =>
    rw [plainBlock, List.length_append, length_numberBytes]
    omega
  | case2 data hlimit ih =>
    simp only [blockLimit] at hlimit ih
    rw [List.length_append, plainBlock, List.length_append, length_numberBytes]
    simp only [List.length_take, List.length_drop, blockLimit] at ih ⊢
    omega

theorem length_compress_lt {data : List UInt8} (h : data.length < 0x8000000000000000) :
    (compress data).length < 0x10000000000000000 := by
  have := length_plainBlocks_le data
  have hmagic : frameMagic.length = 4 := rfl
  simp only [compress, List.length_append, length_numberBytes, hmagic, List.length_cons,
    List.length_nil]
  omega

end Zstd

/-- **The standard codec is lossless.** -/
theorem Codec.isLossless_standard : Codec.IsLossless .standard := fun _ data h =>
  ⟨Zstd.compress data, rfl, Zstd.length_compress_lt h,
    Zstd.decompress?_compress (Nat.lt_trans h (by decide))⟩

end CollectionArchive
