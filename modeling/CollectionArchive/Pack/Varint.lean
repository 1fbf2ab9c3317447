import CollectionArchive.Pack.Error

/-!
# Numbers of variable length

A number is written in groups of seven bits, the lowest first; the high bit of a byte says that more
follow.

* `Varint.encode`, `Varint.decode`: the written form of a number of 64 bits, and its reading.
-/

namespace CollectionArchive.Varint

/-- The bytes of a number. -/
def encode (n : Nat) : Bytes :=
  if _h : n < 128 then [n.toUInt8] else (n % 128 + 128).toUInt8 :: encode (n / 128)
termination_by n
decreasing_by omega

/-- The payload of a byte. -/
def low (b : UInt8) : Nat :=
  b.toNat % 128

/-- Whether more bytes follow. -/
def continues (b : UInt8) : Bool :=
  128 ≤ b.toNat

/-- Reads bytes from the bit `shift` on, with `value` below it. Of the tenth byte only the lowest
bit counts, and no more may follow it. -/
def decodeFrom (value shift : Nat) : Bytes → Except Corruption (Nat × Bytes)
  | [] => .error .varintTruncated
  | b :: bs =>
    let sum := value + low b * Nat.pow 2 shift % 0x10000000000000000
    if !continues b then .ok (sum, bs)
    else if 64 ≤ shift + 7 then .error .varintOverflow
    else decodeFrom sum (shift + 7) bs

/-- A number, and the bytes after it. -/
def decode (bs : Bytes) : Except Corruption (Nat × Bytes) :=
  decodeFrom 0 0 bs

end CollectionArchive.Varint
