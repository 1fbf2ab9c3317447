import CollectionArchive.Text.Utf8

/-!
# Cyclic redundancy checks

* `Crc.crc32`: the remainder of 32 bits that is used by Ethernet and many file formats.
-/

namespace CollectionArchive.Crc

/-- The polynomial, its highest power at the lowest bit. -/
def polynomial : UInt32 := 0xEDB88320

/-- One bit of the division. -/
def shift (c : UInt32) : UInt32 :=
  if c % 2 == 1 then (c >>> 1) ^^^ polynomial else c >>> 1

/-- One byte of the division. -/
def step (c : UInt32) (b : UInt8) : UInt32 :=
  Nat.repeat shift 8 (c ^^^ b.toUInt32)

/-- The remainder of bytes. -/
def crc32 (bs : Bytes) : UInt32 :=
  ~~~ bs.foldl step 0xFFFFFFFF

end CollectionArchive.Crc
