import CollectionArchive.Zstd.Literals
import CollectionArchive.Zstd.Sequences

/-!
# Blocks

* `Zstd.Memory`: what later blocks of a frame may refer to.
* `Zstd.appendBlock?`: the output with the bytes of a coded block.
-/

namespace CollectionArchive.Zstd

/-- The last three distances, the latest first. -/
structure Distances where
  first : Nat
  second : Nat
  third : Nat

/-- What later blocks of a frame may refer to. -/
structure Memory where
  huffman : Option Huffman.Table
  machines : Machines
  distances : Distances

/-- What a frame starts with. -/
def Memory.start : Memory :=
  ⟨none, ⟨none, none, none⟩, ⟨1, 4, 8⟩⟩

namespace Distances

/-- The distance that a code tells, and the last three with it. The codes one to three stand for the
last distances; after no literals for the others and one less than the first. -/
def resolve (d : Distances) (code literals : Nat) : Nat × Distances :=
  let place := if literals == 0 then code + 1 else code
  if 3 < code then (code - 3, ⟨code - 3, d.first, d.second⟩)
  else if place == 1 then (d.first, d)
  else if place == 2 then (d.second, ⟨d.second, d.first, d.third⟩)
  else if place == 3 then (d.third, ⟨d.third, d.first, d.second⟩)
  else (d.first - 1, ⟨d.first - 1, d.first, d.second⟩)

end Distances

/-- Adds bytes of an array, so many from one on. -/
def copyFrom (source : ByteArray) : (count start : Nat) → ByteArray → ByteArray
  | 0, _, out => out
  | count + 1, start, out => copyFrom source count (start + 1) (out.push (source[start]?.getD 0))

/-- Repeats the byte a distance back, so many times. -/
def repeatBack (distance : Nat) : (count : Nat) → ByteArray → ByteArray
  | 0, out => out
  | count + 1, out => repeatBack distance count (out.push (out[out.size - distance]?.getD 0))

/-- Runs sequences over literals, of which those before `used` are copied already. -/
def execute? (literals : ByteArray) :
    (used : Nat) → Distances → ByteArray → List Sequence → Option (ByteArray × Distances)
  | used, d, out, [] => some (copyFrom literals (literals.size - used) used out, d)
  | used, d, out, s :: rest =>
    let (distance, next) := d.resolve s.distance s.literals
    let copied := copyFrom literals s.literals used out
    if literals.size < used + s.literals || distance == 0 || copied.size < distance then none
    else execute? literals (used + s.literals) next (repeatBack distance s.length copied) rest

/-- The output with the bytes of a coded block. -/
def appendBlock? (m : Memory) (out : ByteArray) (bs : List UInt8) :
    Option (ByteArray × Memory) := do
  let literals ← Literals.read? m.huffman bs
  let (sequences, machines) ← Sequences.read? m.machines literals.rest
  let (out, distances) ← execute? literals.bytes 0 m.distances out sequences
  return (out, ⟨literals.table, machines, distances⟩)

end CollectionArchive.Zstd
