import CollectionArchive.Pack.Blake3
import CollectionArchive.Pack.Codec
import CollectionArchive.Pack.Crc
import CollectionArchive.Zstd.Frame

/-!
# The standard codec

Entries are Zstandard frames, checked by CRC-32; packs are checked by BLAKE3.
-/

namespace CollectionArchive

namespace Blake3

theorem length_wordBytes (ws : List UInt32) : (ws.flatMap wordBytes).length = 4 * ws.length := by
  induction ws with
  | nil => rfl
  | cons w ws ih =>
    simp only [List.flatMap_cons, List.length_append, ih, List.length_cons, wordBytes,
      List.length_nil]
    omega

theorem length_hash (bs : Bytes) : (hash bs).length = 32 := by
  rw [hash, length_wordBytes, Vector.length_toList]

end Blake3

/-- Zstandard, CRC-32 and BLAKE3. -/
instance Codec.standard : Codec where
  compress? _ data := some (Zstd.compress data)
  decompress? := Zstd.decompress?
  crc := Crc.crc32
  hash bs := ⟨Blake3.hash bs, Blake3.length_hash bs⟩

end CollectionArchive
