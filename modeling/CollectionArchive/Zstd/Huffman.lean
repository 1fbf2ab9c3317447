import CollectionArchive.Zstd.Fse

/-!
# Huffman codes

Symbols are bytes. The weight of a symbol tells how many entries of the table it takes: one for the
longest codes, and twice as many for each bit that a code is shorter.

* `Huffman.Table`, `Huffman.Table.ofWeights?`: the table of a code.
* `Huffman.readTable?`: the description of the weights.
* `Huffman.decode?`: the symbols of a stream.
-/

namespace CollectionArchive.Zstd.Huffman

/-- For each value of the next bits, the symbol whose code they start with, and the length of the
code. -/
structure Table where
  log : Nat
  entries : Array (UInt8 × Nat)

/-- The number of entries of a symbol. -/
def share (weight : Nat) : Nat :=
  if weight == 0 then 0 else Nat.pow 2 (weight - 1)

/-- The entries of the symbols of one weight. -/
def entriesOf (log : Nat) (weights : List Nat) (weight : Nat) : List (UInt8 × Nat) :=
  weights.zipIdx.flatMap fun (w, symbol) =>
    if w == weight then List.replicate (share w) (symbol.toUInt8, log + 1 - w) else []

/-- The table of weights. That of the last symbol is not among them: it takes what is left of the
table, which has to be a power of two. -/
def Table.ofWeights? (weights : List Nat) : Option Table :=
  let sum := weights.foldl (fun n w => n + share w) 0
  let log := sum.log2 + 1
  let rest := Nat.pow 2 log - sum
  if sum == 0 || 11 < log || rest != Nat.pow 2 rest.log2 then none
  else
    let all := weights ++ [rest.log2 + 1]
    some ⟨log, ((List.range log).flatMap fun i => entriesOf log all (i + 1)).toArray⟩

/-! ## Descriptions -/

/-- The weights that two states that take turns tell. Where no bits are left for the next state, the
weight of the other one is the last. -/
def readWeights (t : Fse.Table) :
    (steps : Nat) → (one other : Fse.Entry) → Backward → Option (List Nat)
  | 0, _, _, _ => none
  | steps + 1, one, other, s =>
    if s.left < one.bits then some [one.symbol, other.symbol]
    else do
      let (after, s) ← Fse.next t one s
      return one.symbol :: (← readWeights t steps other after s)

/-- The weights that a machine and a stream describe. -/
def compressedWeights? (bytes : Array UInt8) : Option (List Nat) := do
  let (t, size) ← Fse.readTable? bytes 6 255
  let s ← Backward.ofBytes? (bytes.extract size bytes.size)
  let (one, s) ← Fse.start t s
  let (other, s) ← Fse.start t s
  readWeights t 256 one other s

/-- The weights that halves of bytes write. -/
def plainWeights (bytes : List UInt8) : List Nat :=
  bytes.flatMap fun b => [b.toNat / 16, b.toNat % 16]

/-- The table that bytes describe, and the bytes after it. -/
def readTable? (bytes : List UInt8) : Option (Table × List UInt8) := do
  let header :: rest := bytes | none
  let h := header.toNat
  let size := if h < 128 then h else (h - 127 + 1) / 2
  if rest.length < size then none
  let weights ←
    if h < 128 then compressedWeights? (rest.take size).toArray
    else some ((plainWeights (rest.take size)).take (h - 127))
  if 255 < weights.length || weights.any (12 ≤ ·) then none
  return (← Table.ofWeights? weights, rest.drop size)

/-! ## Streams -/

/-- So many symbols, added to others. -/
def decodeSymbols (t : Table) : (count : Nat) → ByteArray → Backward → Option (ByteArray × Backward)
  | 0, out, s => some (out, s)
  | count + 1, out, s => do
    let (symbol, bits) ← t.entries[s.peek t.log]?
    decodeSymbols t count (out.push symbol) (← s.skip? bits)

/-- The symbols of a stream, which has no more. They are added to others. -/
def decode? (t : Table) (count : Nat) (out : ByteArray) (bytes : List UInt8) :
    Option ByteArray := do
  let s ← Backward.ofBytes? bytes.toArray
  let (symbols, s) ← decodeSymbols t count out s
  if s.left == 0 then return symbols else none

end CollectionArchive.Zstd.Huffman
