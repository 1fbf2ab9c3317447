import CollectionArchive.Pack.Codec
import CollectionArchive.Pack.Entries
import CollectionArchive.Pack.Varint

/-!
# Writing packs

A pack is one sequence of bytes: a header with the number of entries, the entries one after the
other, and a hash of everything before it.

* `Pack.encode`: the pack of entries.
-/

namespace CollectionArchive.Pack

/-- The version of the format. -/
def version : Nat := 1

/-- The bytes before the first entry: the name of the format, its version and the number of
entries. -/
def header (count : Nat) : Bytes :=
  Bytes.ofText PackError.magic ++ Bytes.ofNat32 version ++ Bytes.ofNat32 count

variable [Codec]

/-- An entry whose data is compressed already. -/
def encodeStored (path : String) (size : Nat) (stored : Bytes) : Bytes :=
  Varint.encode (Bytes.ofText path).length ++ Bytes.ofText path ++ Varint.encode size ++
    Varint.encode stored.length ++ Bytes.ofNat32 (Codec.crc stored).toNat ++ stored

/-- The bytes of an entry. -/
def encodeEntry (level : Int) (e : Entry) : Except PackError Bytes :=
  (Codec.compress? level e.data).elim (.error .compressionFailed) fun stored =>
    .ok (encodeStored e.path e.data.length stored)

/-- Bytes with their hash after them. -/
def withHash (body : Bytes) : Bytes :=
  body ++ Codec.hash body

/-- The pack of entries, in their order. -/
def encode (level : Int) (entries : List Entry) : Except PackError Bytes := do
  let parts ← entries.mapM (encodeEntry level)
  return withHash (header entries.length ++ parts.flatten)

end CollectionArchive.Pack
