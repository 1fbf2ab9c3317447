import CollectionArchive.Zstd.Huffman

/-!
# Literals of a block

The bytes of a block that are no repetitions come first: as they are, as one byte many times, or in
a Huffman code, which may be that of an earlier block.

* `Literals.read?`: the literals of a block.
-/

namespace CollectionArchive.Zstd

/-- The literals of a block, the code for those of later blocks, and the bytes after them. -/
structure Literals where
  bytes : ByteArray
  table : Option Huffman.Table
  rest : List UInt8

namespace Literals

/-- A field of the header's number: so many bits from one on. -/
def field (n start bits : Nat) : Nat :=
  n / Nat.pow 2 start % Nat.pow 2 bits

/-- Where the sizes stand: how many bytes the header has, and how many bits the size takes. -/
def plainLayout (format : Nat) : Nat × Nat × Nat :=
  match format with
  | 1 => (2, 4, 12)
  | 3 => (3, 4, 20)
  | _ => (1, 3, 5)

/-- The header's bytes and the bits of each of its two sizes. -/
def codedLayout (format : Nat) : Nat × Nat :=
  match format with
  | 2 => (4, 14)
  | 3 => (5, 18)
  | _ => (3, 10)

/-- Bytes as they are, or one byte many times. -/
def readPlain? (table : Option Huffman.Table) (header : Nat) (bs : List UInt8) :
    Option Literals := do
  let (size, start, bits) := plainLayout (field header 2 2)
  if bs.length < size then none
  let count := field (number (bs.take size)) start bits
  let body := bs.drop size
  if header % 4 == 0 then
    if body.length < count then none
    return ⟨⟨(body.take count).toArray⟩, table, body.drop count⟩
  else
    let b :: rest := body | none
    return ⟨⟨Array.replicate count b⟩, table, rest⟩

/-- The symbols of four streams. The sizes of the first three come before them. -/
def decodeFour? (t : Huffman.Table) (count : Nat) (bs : List UInt8) : Option ByteArray := do
  if bs.length < 6 then none
  let size1 := number (bs.take 2)
  let size2 := number ((bs.drop 2).take 2)
  let size3 := number ((bs.drop 4).take 2)
  let body := bs.drop 6
  if body.length < size1 + size2 + size3 then none
  let each := (count + 3) / 4
  if count < 3 * each then none
  let out ← Huffman.decode? t each .empty (body.take size1)
  let out ← Huffman.decode? t each out ((body.drop size1).take size2)
  let out ← Huffman.decode? t each out ((body.drop (size1 + size2)).take size3)
  Huffman.decode? t (count - 3 * each) out (body.drop (size1 + size2 + size3))

/-- Bytes in a Huffman code: that of this block, or, in the last type, of an earlier one. -/
def readCoded? (earlier : Option Huffman.Table) (header : Nat) (bs : List UInt8) :
    Option Literals := do
  let format := field header 2 2
  let (size, bits) := codedLayout format
  if bs.length < size then none
  let sizes := number (bs.take size)
  let count := field sizes 4 bits
  let coded := field sizes (4 + bits) bits
  let body := bs.drop size
  if body.length < coded || 131072 < count then none
  let (table, streams) ←
    if header % 4 == 2 then Huffman.readTable? (body.take coded)
    else earlier.map fun t => (t, body.take coded)
  let bytes ←
    if format == 0 then Huffman.decode? table count .empty streams
    else decodeFour? table count streams
  return ⟨bytes, some table, body.drop coded⟩

/-- The literals of a block, given the code of an earlier one. -/
def read? (earlier : Option Huffman.Table) (bs : List UInt8) : Option Literals := do
  let b :: _ := bs | none
  let header := b.toNat
  if header % 4 < 2 then readPlain? earlier header bs else readCoded? earlier header bs

end Literals

end CollectionArchive.Zstd
