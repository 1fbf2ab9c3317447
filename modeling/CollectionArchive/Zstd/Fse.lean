import CollectionArchive.Zstd.Bits

/-!
# Finite state entropy

Symbols are coded by states of a machine. The more states a symbol has, the fewer bits lead from one
of them to the next state.

* `Fse.Table`: the machine.
* `Fse.Table.ofCounts?`: the machine in which each symbol has a given number of states.
* `Fse.readCounts?`: the description of these numbers.
-/

namespace CollectionArchive.Zstd.Fse

/-- A state: its symbol, and the next state: so many bits added to a base. -/
structure Entry where
  symbol : Nat
  bits : Nat
  base : Nat

/-- The states; their number is a power of two. -/
structure Table where
  log : Nat
  entries : Array Entry

/-- How many states a symbol has. A symbol that is less likely than one state still has one, at the
end of the table. -/
inductive Count where
  | states (n : Nat)
  | rare
deriving DecidableEq

/-- The number of states. -/
def Count.size : Count → Nat
  | states n => n
  | rare => 1

/-- The symbols of the states that are not at the end, in the order in which they are placed. -/
def common (counts : List Count) : List Nat :=
  counts.zipIdx.flatMap fun (count, symbol) =>
    match count with
    | .states n => List.replicate n symbol
    | .rare => []

/-- The rare symbols, from the end of the table on. -/
def rares (counts : List Count) : List Nat :=
  counts.zipIdx.filterMap fun (count, symbol) => if count == .rare then some symbol else none

/-- The places of states below `high`, in the order in which they are given to symbols: steps of a
little more than five eighths of the table. -/
def places (log high : Nat) : List Nat :=
  let size := Nat.pow 2 log
  let step := size / 2 + size / 8 + 3
  ((List.range size).map fun i => i * step % size).filter (· < high)

/-- The symbol of each state. -/
def spread (log : Nat) (counts : List Count) : Array Nat :=
  let size := Nat.pow 2 log
  let last := rares counts
  let start := (last.zipIdx).foldl (fun t (s, i) => t.setIfInBounds (size - 1 - i) s)
    (Array.replicate size 0)
  ((places log (size - last.length)).zip (common counts)).foldl
    (fun t (place, s) => t.setIfInBounds place s) start

/-- Numbers the states of each symbol from its count on, and finds the bits that lead on from
there. -/
def entriesOf (log : Nat) (counts : List Count) : Array Entry :=
  let size := Nat.pow 2 log
  let step (acc : Array Entry × Array Nat) (symbol : Nat) : Array Entry × Array Nat :=
    let (entries, next) := acc
    let n := next[symbol]?.getD 1
    let bits := log - n.log2
    (entries.push ⟨symbol, bits, n * Nat.pow 2 bits - size⟩, next.setIfInBounds symbol (n + 1))
  ((spread log counts).foldl step (#[], (counts.map Count.size).toArray)).1

/-- The machine in which each symbol has a given number of states, if these are all its states. -/
def Table.ofCounts? (log : Nat) (counts : List Count) : Option Table :=
  let states := counts.foldl (fun n c => n + c.size) 0
  if states == Nat.pow 2 log then some ⟨log, entriesOf log counts⟩ else none

/-- The machine that stays with one symbol. -/
def Table.ofSymbol (symbol : Nat) : Table :=
  ⟨0, #[⟨symbol, 0, 0⟩]⟩

/-! ## Descriptions -/

/-- Zeros of symbols without states: groups of two bits, of which three says that another group
follows. -/
def readZeros (bytes : Array UInt8) : (steps position : Nat) → Nat × Nat
  | 0, position => (0, position)
  | steps + 1, position =>
    let n := bitsAt bytes position 2
    if n == 3 then
      let (more, after) := readZeros bytes steps (position + 2)
      (n + more, after)
    else (n, position + 2)

/-- A value up to `most` takes as many bits as `most` does; the smallest ones take a bit less. -/
def readValue (bytes : Array UInt8) (position most : Nat) : Nat × Nat :=
  let bits := most.log2 + 1
  let value := bitsAt bytes position bits
  let half := Nat.pow 2 (bits - 1)
  let short := 2 * half - 1 - most
  if value % half < short then (value % half, position + bits - 1)
  else (if half ≤ value then value - short else value, position + bits)

/-- Counts from a bit on, while there are states left. There are no more than 256 symbols. -/
def readCountsFrom (bytes : Array UInt8) :
    (steps position left : Nat) → Option (List Count × Nat)
  | _, position, 0 => some ([], position)
  | 0, _, _ => none
  | steps + 1, position, left + 1 =>
    let (value, after) := readValue bytes position (left + 2)
    match value with
    | 0 => do
      let (rest, done) ← readCountsFrom bytes steps after left
      return (.rare :: rest, done)
    | 1 => do
      let (zeros, next) := readZeros bytes (8 * bytes.size) after
      let (rest, done) ← readCountsFrom bytes steps next (left + 1)
      return (List.replicate (zeros + 1) (.states 0) ++ rest, done)
    | n + 2 => do
      if left + 1 < n + 1 then none
      let (rest, done) ← readCountsFrom bytes steps after (left - n)
      return (.states (n + 1) :: rest, done)

/-- The machine that bytes describe, and how many bytes that takes. It may have `2 ^ maxLog` states
and symbols up to a largest one. -/
def readTable? (bytes : Array UInt8) (maxLog maxSymbol : Nat) : Option (Table × Nat) := do
  let log := bitsAt bytes 0 4 + 5
  let (counts, position) ← readCountsFrom bytes 256 4 (Nat.pow 2 log)
  let size := (position + 7) / 8
  if maxLog < log || maxSymbol + 1 < counts.length || bytes.size < size then none
  let table ← Table.ofCounts? log counts
  return (table, size)

/-! ## Running -/

/-- The first state. -/
def start (t : Table) : BitReader Entry := do
  let state ← takeBits t.log
  StateT.lift (m := Option) t.entries[state]?

/-- The state after another. -/
def next (t : Table) (e : Entry) : BitReader Entry := do
  let more ← takeBits e.bits
  StateT.lift (m := Option) t.entries[e.base + more]?

end CollectionArchive.Zstd.Fse
