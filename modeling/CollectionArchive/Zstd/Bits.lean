/-!
# Streams of bits

* `Zstd.bitsAt`: bits of a sequence of bytes, counted from the lowest bit of the first byte.
* `Zstd.Backward`: a stream that is read from its end, where its highest set bit marks the end.
-/

namespace CollectionArchive.Zstd

/-- `n` bits from the bit `start` on. Bits after the last byte are zero. -/
def bitsAt (bytes : Array UInt8) (start n : Nat) : Nat :=
  let first := start / 8
  let count := (start % 8 + n + 7) / 8
  let word := (List.range count).foldr
    (fun i w => w * 256 + ((bytes[first + i]?).map UInt8.toNat).getD 0) 0
  word / Nat.pow 2 (start % 8) % Nat.pow 2 n

/-- The number that bytes write, the lowest first. -/
def number (bytes : List UInt8) : Nat :=
  bytes.foldr (fun b n => n * 256 + b.toNat) 0

/-- A stream that is read from its end: its bytes, and how many bits are left. -/
structure Backward where
  bytes : Array UInt8
  left : Nat

namespace Backward

/-- The stream of bytes. The highest set bit of the last one is not part of it. -/
def ofBytes? (bytes : Array UInt8) : Option Backward := do
  let last ← bytes.back?
  if last == 0 then none else return ⟨bytes, 8 * (bytes.size - 1) + last.toNat.log2⟩

/-- The next bits, the highest first. Bits that are missing are zero. -/
def peek (s : Backward) (n : Nat) : Nat :=
  if n ≤ s.left then bitsAt s.bytes (s.left - n) n
  else bitsAt s.bytes 0 s.left * Nat.pow 2 (n - s.left)

/-- The stream after some bits, if it has so many. -/
def skip? (s : Backward) (n : Nat) : Option Backward :=
  if n ≤ s.left then some { s with left := s.left - n } else none

end Backward

/-- Something that reads bits of a stream, and may fail. -/
abbrev BitReader := StateT Backward Option

/-- The next bits, the highest first. -/
def takeBits (n : Nat) : BitReader Nat := fun s => do
  return (s.peek n, ← s.skip? n)

/-- Nothing, if all bits are read. -/
def expectEnd : BitReader Unit := fun s =>
  if s.left == 0 then some ((), s) else none

end CollectionArchive.Zstd
