import CollectionArchive.Text.Utf8

/-!
# Codecs

A pack holds its entries compressed and with check values. What compresses and checks them is a
codec.

* `Codec`: the operations; `Codec.IsLossless` says that data comes back as it was.
-/

namespace CollectionArchive

/-- How the entries of a pack are compressed and checked. -/
class Codec where
  /-- Compresses data; a higher level takes longer and gives less. -/
  compress? : (level : Int) → Bytes → Option Bytes
  decompress? : Bytes → Option Bytes
  /-- The check value of what is stored for an entry. -/
  crc : Bytes → UInt32
  /-- The check value of a whole pack. -/
  hash : Bytes → { h : Bytes // h.length = 32 }

/-- Whether there are no more bytes than a machine of 64 bits holds in one piece. -/
def Bytes.FitsMemory (bs : Bytes) : Prop :=
  bs.length < 0x8000000000000000

/-- Whether all data can be compressed to a size of 64 bits and comes back as it was. -/
def Codec.IsLossless (c : Codec) : Prop :=
  ∀ level data, Bytes.FitsMemory data →
    ∃ stored, c.compress? level data = some stored ∧ stored.length < 0x10000000000000000 ∧
      c.decompress? stored = some data

end CollectionArchive
