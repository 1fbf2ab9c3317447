import CollectionArchive.Zstd.Bits

/-!
# The checksum of frames

* `XxHash.hash64`: the 64 bits known as XXH64, without a seed.
-/

namespace CollectionArchive.Zstd.XxHash

def prime1 : UInt64 := 0x9E3779B185EBCA87

def prime2 : UInt64 := 0xC2B2AE3D27D4EB4F

def prime3 : UInt64 := 0x165667B19E3779F9

def prime4 : UInt64 := 0x85EBCA77C2B2AE63

def prime5 : UInt64 := 0x27D4EB2F165667C5

/-- The bits moved up, and those at the top back to the bottom. -/
def rotate (x n : UInt64) : UInt64 :=
  (x <<< n) ||| (x >>> (64 - n))

/-- So many bytes from one on, as a number. -/
def word (bytes : ByteArray) (start count : Nat) : UInt64 :=
  (bitsAt bytes.data (8 * start) (8 * count)).toUInt64

/-- One word taken into a sum. -/
def round (sum input : UInt64) : UInt64 :=
  rotate (sum + input * prime2) 31 * prime1

/-- A sum taken into the hash. -/
def merge (hash sum : UInt64) : UInt64 :=
  (hash ^^^ round 0 sum) * prime1 + prime4

/-- The four sums of all blocks of 32 bytes. -/
def sums (bytes : ByteArray) : UInt64 × UInt64 × UInt64 × UInt64 :=
  (List.range (bytes.size / 32)).foldl
    (fun (a, b, c, d) i =>
      (round a (word bytes (32 * i) 8), round b (word bytes (32 * i + 8) 8),
        round c (word bytes (32 * i + 16) 8), round d (word bytes (32 * i + 24) 8)))
    (prime1 + prime2, prime2, 0, 0 - prime1)

/-- The hash after all blocks of 32 bytes. -/
def ofBlocks (bytes : ByteArray) : UInt64 :=
  if bytes.size < 32 then prime5
  else
    let (a, b, c, d) := sums bytes
    let joined := rotate a 1 + rotate b 7 + rotate c 12 + rotate d 18
    merge (merge (merge (merge joined a) b) c) d

/-- Takes the bytes after the blocks in: by eight, then four, then one. -/
def finishFrom (bytes : ByteArray) (hash : UInt64) (start : Nat) : UInt64 :=
  if _h : start < bytes.size then
    if start + 8 ≤ bytes.size then
      finishFrom bytes (rotate (hash ^^^ round 0 (word bytes start 8)) 27 * prime1 + prime4)
        (start + 8)
    else if start + 4 ≤ bytes.size then
      finishFrom bytes (rotate (hash ^^^ word bytes start 4 * prime1) 23 * prime2 + prime3)
        (start + 4)
    else
      finishFrom bytes (rotate (hash ^^^ word bytes start 1 * prime5) 11 * prime1) (start + 1)
  else hash
termination_by bytes.size - start

/-- Spreads each bit over all. -/
def avalanche (hash : UInt64) : UInt64 :=
  let a := (hash ^^^ (hash >>> 33)) * prime2
  let b := (a ^^^ (a >>> 29)) * prime3
  b ^^^ (b >>> 32)

/-- The checksum of bytes. -/
def hash64 (bytes : ByteArray) : UInt64 :=
  let start := ofBlocks bytes + bytes.size.toUInt64
  avalanche (finishFrom bytes start (bytes.size / 32 * 32))

end CollectionArchive.Zstd.XxHash
