import CollectionArchive.Text.Utf8

/-!
# The BLAKE3 hash

Data is cut into chunks of 1024 bytes, which are the leaves of a binary tree. The hash of a node is
that of its last block of 64 bytes, where the hash of those before it comes in.

* `Blake3.hash`: the hash of 32 bytes.
-/

namespace CollectionArchive.Blake3

/-- Eight words: a hash, or what comes in from before a block. -/
abbrev Chain := Vector UInt32 8

/-- Sixteen words: a block, or the state while it is mixed. -/
abbrev Words := Vector UInt32 16

/-- The start of every hash. -/
def initial : Chain :=
  #v[0x6A09E667, 0xBB67AE85, 0x3C6EF372, 0xA54FF53A, 0x510E527F, 0x9B05688C, 0x1F83D9AB, 0x5BE0CD19]

/-! ## Mixing -/

/-- The bits moved down, and those at the bottom back to the top. -/
def rotate (x n : UInt32) : UInt32 :=
  (x >>> n) ||| (x <<< (32 - n))

/-- Mixes two words of a block into four of the state. -/
def mix (s : Words) (a b c d : Fin 16) (x y : UInt32) : Words :=
  let a₁ := s[a] + s[b] + x
  let d₁ := rotate (s[d] ^^^ a₁) 16
  let c₁ := s[c] + d₁
  let b₁ := rotate (s[b] ^^^ c₁) 12
  let a₂ := a₁ + b₁ + y
  let d₂ := rotate (d₁ ^^^ a₂) 8
  let c₂ := c₁ + d₂
  let b₂ := rotate (b₁ ^^^ c₂) 7
  (((s.set a a₂).set b b₂).set c c₂).set d d₂

/-- The place of a word; places are counted around. -/
def place (i : Nat) : Fin 16 :=
  ⟨i % 16, Nat.mod_lt i (Nat.zero_lt_succ 15)⟩

/-- The columns of the state, and then its diagonals. -/
def quarters : List (Nat × Nat × Nat × Nat) :=
  [(0, 4, 8, 12), (1, 5, 9, 13), (2, 6, 10, 14), (3, 7, 11, 15),
    (0, 5, 10, 15), (1, 6, 11, 12), (2, 7, 8, 13), (3, 4, 9, 14)]

/-- Mixes words, two at a time, into quarters of the state. -/
def mixPairs (s : Words) : List (Nat × Nat × Nat × Nat) → List UInt32 → Words
  | (a, b, c, d) :: rest, x :: y :: ws =>
    mixPairs (mix s (place a) (place b) (place c) (place d) x y) rest ws
  | _, _ => s

/-- Mixes a block into the state. -/
def mixAll (s m : Words) : Words :=
  mixPairs s quarters m.toList

/-- The order of the words of a block in the next round. -/
def order : Vector Nat 16 :=
  #v[2, 6, 3, 10, 7, 0, 4, 13, 1, 11, 12, 5, 9, 14, 15, 8]

/-- The block in the next round. -/
def permute (m : Words) : Words :=
  order.map fun i => m[place i]

/-- Rounds of mixing. -/
def rounds : (count : Nat) → Words → Words → Words
  | 0, s, _ => s
  | count + 1, s, m => rounds count (mixAll s m) (permute m)

/-! ## Nodes -/

/-- The last block of a node of the tree: what comes in, the block, the number of the chunk, the
bytes of the block, and flags. -/
structure Node where
  chain : Chain
  block : Words
  counter : UInt64
  size : UInt32
  flags : UInt32

namespace Node

/-- Flags: a block is the first or the last of its chunk, joins two nodes, or is the root. -/
def chunkStart : UInt32 := 1

def chunkEnd : UInt32 := 2

def parent : UInt32 := 4

def root : UInt32 := 8

/-- The state before mixing. -/
def state (n : Node) (flags : UInt32) : Words :=
  n.chain ++ #v[initial[0], initial[1], initial[2], initial[3], n.counter.toUInt32,
    (n.counter >>> 32).toUInt32, n.size, n.flags ||| flags]

/-- The hash of the block, with more flags. -/
def hashWith (n : Node) (flags : UInt32) : Chain :=
  let s := rounds 7 (n.state flags) n.block
  Vector.ofFn fun i : Fin 8 => s[Fin.castAdd 8 i] ^^^ s[Fin.natAdd 8 i]

/-- The hash that comes in to the next block or the parent. -/
def hash (n : Node) : Chain :=
  n.hashWith 0

end Node

/-- The words that bytes write, the lowest byte first; missing bytes are zero. -/
def words (bs : Bytes) : Words :=
  Vector.ofFn fun i : Fin 16 =>
    ((bs.drop (4 * i)).take 4).foldr (fun b n => n * 256 + b.toUInt32) 0

/-- The last block of a chunk, from a block on. -/
def chunkFrom (counter : UInt64) (chain : Chain) (flags : UInt32) (bs : Bytes) : Node :=
  if _h : bs.length ≤ 64 then
    ⟨chain, words bs, counter, bs.length.toUInt32, flags ||| Node.chunkEnd⟩
  else
    let block : Node := ⟨chain, words (bs.take 64), counter, 64, flags⟩
    chunkFrom counter block.hash 0 (bs.drop 64)
termination_by bs.length
decreasing_by
  simp only [List.length_drop]
  omega

/-- The node above two. -/
def join (left right : Node) : Node :=
  ⟨initial, left.hash ++ right.hash, 0, 64, Node.parent⟩

/-- The number of bytes of a chunk. -/
def chunkSize : Nat := 1024

/-- The bytes of the left one of two nodes: as many whole chunks as there can be, a power of two, if
one byte at least is left. -/
def leftSize (total : Nat) : Nat :=
  chunkSize * Nat.pow 2 ((total - 1) / chunkSize).log2

theorem leftSize_pos (total : Nat) : 0 < leftSize total :=
  Nat.mul_pos (by decide) (Nat.pow_pos (by decide))

theorem leftSize_lt {total : Nat} (h : chunkSize < total) : leftSize total < total := by
  unfold leftSize
  have hne : (total - 1) / chunkSize ≠ 0 := by
    have : 1 ≤ (total - 1) / chunkSize := by
      rw [Nat.le_div_iff_mul_le (by decide)]
      omega
    omega
  have hle : Nat.pow 2 ((total - 1) / chunkSize).log2 ≤ (total - 1) / chunkSize :=
    Nat.log2_self_le hne
  have : chunkSize * Nat.pow 2 ((total - 1) / chunkSize).log2 ≤ total - 1 :=
    Nat.le_trans (Nat.mul_le_mul_left _ hle) (Nat.mul_div_le _ _)
  omega

/-- The node of data whose first chunk has the number `counter`. -/
def tree (counter : Nat) (bs : Bytes) : Node :=
  if _h : bs.length ≤ chunkSize then chunkFrom counter.toUInt64 initial Node.chunkStart bs
  else
    let size := leftSize bs.length
    join (tree counter (bs.take size)) (tree (counter + size / chunkSize) (bs.drop size))
termination_by bs.length
decreasing_by
  · have := leftSize_lt (Nat.lt_of_not_le _h)
    simp only [List.length_take]
    omega
  · have := leftSize_pos bs.length
    simp only [List.length_drop, chunkSize] at *
    omega

/-- The bytes of a word, the lowest first. -/
def wordBytes (w : UInt32) : Bytes :=
  [w.toUInt8, (w >>> 8).toUInt8, (w >>> 16).toUInt8, (w >>> 24).toUInt8]

/-- The hash of data. -/
def hash (bs : Bytes) : Bytes :=
  ((tree 0 bs).hashWith Node.root).toList.flatMap wordBytes

end CollectionArchive.Blake3
