import CollectionArchive.Zstd.Fse

/-!
# Sequences of a block

A sequence copies some literals, and then bytes from a distance back. Its three numbers are coded by
three machines and by bits that follow their symbols.

* `Sequence`: the numbers of a sequence.
* `Sequences.read?`: the sequences of a block.
-/

namespace CollectionArchive.Zstd

/-- How many literals are copied, how many bytes are repeated, and the code of the distance. -/
structure Sequence where
  literals : Nat
  length : Nat
  distance : Nat

/-- The machines of the three numbers. -/
structure Machines where
  literals : Option Fse.Table
  distance : Option Fse.Table
  length : Option Fse.Table

namespace Sequences

/-- The values of symbols: each starts a range, and so many bits select from it. -/
abbrev Ranges := Array (Nat × Nat)

/-- Ranges of given bits that follow each other, the first one at `start`. -/
def rangesFrom : (start : Nat) → (bits : List Nat) → List (Nat × Nat)
  | _, [] => []
  | start, b :: bits => (start, b) :: rangesFrom (start + Nat.pow 2 b) bits

/-- The numbers of literals. -/
def literalRanges : Ranges :=
  (rangesFrom 0 (List.replicate 16 0 ++
    [1, 1, 1, 1, 2, 2, 3, 3, 4, 6, 7, 8, 9, 10, 11, 12, 13, 14, 15, 16])).toArray

/-- The lengths of repetitions, which are three bytes long at least. -/
def lengthRanges : Ranges :=
  (rangesFrom 3 (List.replicate 32 0 ++
    [1, 1, 1, 1, 2, 2, 3, 3, 4, 4, 5, 7, 8, 9, 10, 11, 12, 13, 14, 15, 16])).toArray

/-- The codes of distances: each power of two starts a range. -/
def distanceRanges : Ranges :=
  (rangesFrom 1 (List.range 32)).toArray

/-- Counts of which some last symbols are rare. -/
def counts (usual : List Nat) (rare : Nat) : List Fse.Count :=
  usual.map .states ++ List.replicate rare .rare

/-- One of the three numbers: its ranges, the most states a machine may have, as a power of two, and
the machine that blocks use which describe none. -/
structure Kind where
  ranges : Ranges
  maxLog : Nat
  standard : Option Fse.Table

/-- The number of literals. -/
def literalKind : Kind where
  ranges := literalRanges
  maxLog := 9
  standard := Fse.Table.ofCounts? 6 (counts
    ([4, 3] ++ List.replicate 11 2 ++ [1, 1, 1] ++ List.replicate 9 2 ++ [3, 2, 1, 1, 1, 1, 1]) 4)

/-- The length of a repetition. -/
def lengthKind : Kind where
  ranges := lengthRanges
  maxLog := 9
  standard := Fse.Table.ofCounts? 6 (counts
    ([1, 4, 3] ++ List.replicate 6 2 ++ List.replicate 37 1) 7)

/-- The code of a distance. -/
def distanceKind : Kind where
  ranges := distanceRanges
  maxLog := 8
  standard := Fse.Table.ofCounts? 5 (counts
    (List.replicate 6 1 ++ [2, 2, 2] ++ List.replicate 15 1) 5)

/-- The machine of a block, and the bytes after its description: the standard one, one symbol, a
described machine, or that of an earlier block. -/
def readMachine? (kind : Kind) (mode : Nat) (earlier : Option Fse.Table) (bs : List UInt8) :
    Option (Fse.Table × List UInt8) :=
  match mode with
  | 0 => kind.standard.map fun t => (t, bs)
  | 1 =>
    match bs with
    | b :: rest =>
      if b.toNat < kind.ranges.size then some (Fse.Table.ofSymbol b.toNat, rest) else none
    | [] => none
  | 2 => do
    let (t, size) ← Fse.readTable? bs.toArray kind.maxLog (kind.ranges.size - 1)
    return (t, bs.drop size)
  | _ => earlier.map fun t => (t, bs)

/-- The number that a symbol and the bits after it tell. -/
def readNumber (kind : Kind) (e : Fse.Entry) : BitReader Nat := do
  let (start, bits) ← StateT.lift (m := Option) kind.ranges[e.symbol]?
  return start + (← takeBits bits)

/-- The three machines that a block uses. -/
structure Running where
  literals : Fse.Table
  distance : Fse.Table
  length : Fse.Table

/-- The states of the machines. -/
structure States where
  literals : Fse.Entry
  distance : Fse.Entry
  length : Fse.Entry

/-- The sequence that states tell. -/
def readSequence (s : States) : BitReader Sequence := do
  let distance ← readNumber distanceKind s.distance
  let length ← readNumber lengthKind s.length
  let literals ← readNumber literalKind s.literals
  return ⟨literals, length, distance⟩

/-- The states for the next sequence. -/
def advance (r : Running) (s : States) : BitReader States := do
  let literals ← Fse.next r.literals s.literals
  let length ← Fse.next r.length s.length
  let distance ← Fse.next r.distance s.distance
  return ⟨literals, distance, length⟩

/-- So many sequences, of which the first one is told by given states. -/
def readSequences (r : Running) : (count : Nat) → States → BitReader (List Sequence)
  | 0, _ => return []
  | 1, s => return [← readSequence s]
  | count + 1, s => do
    let first ← readSequence s
    return first :: (← readSequences r count (← advance r s))

/-- All sequences of a stream. -/
def readStream (r : Running) (count : Nat) : BitReader (List Sequence) := do
  let literals ← Fse.start r.literals
  let distance ← Fse.start r.distance
  let length ← Fse.start r.length
  let sequences ← readSequences r count ⟨literals, distance, length⟩
  expectEnd
  return sequences

/-- The number of sequences, and the bytes after it. -/
def readCount? : List UInt8 → Option (Nat × List UInt8)
  | a :: bs =>
    if a < 128 then some (a.toNat, bs)
    else if a < 255 then
      match bs with
      | b :: rest => some ((a.toNat - 128) * 256 + b.toNat, rest)
      | [] => none
    else
      match bs with
      | b :: c :: rest => some (b.toNat + c.toNat * 256 + 0x7F00, rest)
      | _ => none
  | [] => none

/-- The sequences of a block, and the machines for those of later blocks. -/
def read? (earlier : Machines) (bs : List UInt8) : Option (List Sequence × Machines) := do
  let (count, rest) ← readCount? bs
  if count == 0 then
    if rest.isEmpty then return ([], earlier) else none
  else
    let modes :: rest := rest | none
    let m := modes.toNat
    if m % 4 != 0 then none
    let (literals, rest) ← readMachine? literalKind (m / 64) earlier.literals rest
    let (distance, rest) ← readMachine? distanceKind (m / 16 % 4) earlier.distance rest
    let (length, rest) ← readMachine? lengthKind (m / 4 % 4) earlier.length rest
    let s ← Backward.ofBytes? rest.toArray
    let (sequences, _) ← readStream ⟨literals, distance, length⟩ count s
    return (sequences, ⟨some literals, some distance, some length⟩)

end Sequences

end CollectionArchive.Zstd
