import CollectionArchive.Zstd.Block
import CollectionArchive.Zstd.XxHash

/-!
# Frames

Compressed data is a sequence of frames. A frame has a header, blocks and a checksum if the header
says so; frames of another sort are skipped.

* `Zstd.decompress?`: the data of frames.
* `Zstd.compress`: a frame of data, whose blocks hold the data as it is.
-/

namespace CollectionArchive.Zstd

/-- The bytes that a frame starts with. -/
def frameMagic : List UInt8 :=
  [0x28, 0xB5, 0x2F, 0xFD]

/-- Blocks have no more bytes than this. -/
def blockLimit : Nat := 131072

/-- Frames need no larger window than this. -/
def windowLimit : Nat := 0x8000001

/-! ## Headers -/

/-- What a header tells: the most bytes of a block, the size of the data if it is known, and whether
a checksum follows. -/
structure Header where
  blockMax : Nat
  size : Option Nat
  checked : Bool

/-- The number that some of the next bytes write, and the bytes after it. -/
def takeNumber? (count : Nat) (bs : List UInt8) : Option (Nat × List UInt8) :=
  if bs.length < count then none else some (number (bs.take count), bs.drop count)

/-- The window that a byte tells: a power of two, and some eighths of it. -/
def windowSize (b : Nat) : Nat :=
  Nat.pow 2 (b / 8 + 10) + Nat.pow 2 (b / 8 + 7) * (b % 8)

/-- The size of the data, which two bytes count from 256 on. -/
def readSize? (flag : Nat) (single : Bool) (bs : List UInt8) :
    Option (Option Nat × List UInt8) := do
  let count := if flag == 0 then (if single then 1 else 0) else Nat.pow 2 flag
  let (n, rest) ← takeNumber? count bs
  return (if count == 0 then none else if count == 2 then some (n + 256) else some n, rest)

/-- A header, and the bytes after it. Data that needs a dictionary is refused. -/
def readHeader? (bs : List UInt8) : Option (Header × List UInt8) := do
  let (d, rest) ← takeNumber? 1 bs
  let single := d / 32 % 2 == 1
  if d / 8 % 2 == 1 then none
  let (window, rest) ← takeNumber? (if single then 0 else 1) rest
  let (dictionary, rest) ← takeNumber? (if d % 4 == 3 then 4 else d % 4) rest
  let (size, rest) ← readSize? (d / 64) single rest
  let reach := if single then size.getD 0 else windowSize window
  if dictionary != 0 || windowLimit < reach then none
  return (⟨min reach blockLimit, size, d / 4 % 2 == 1⟩, rest)

/-! ## Blocks -/

/-- Adds the data of a block to the output. -/
def appendData? (h : Header) (m : Memory) (out : ByteArray) (sort size : Nat) (bs : List UInt8) :
    Option (ByteArray × Memory × List UInt8) :=
  match sort with
  | 0 => if bs.length < size then none else
    some ((bs.take size).foldl ByteArray.push out, m, bs.drop size)
  | 1 =>
    match bs with
    | b :: rest => some (size.repeat (·.push b) out, m, rest)
    | [] => none
  | 2 =>
    if bs.length < size || h.blockMax < size then none
    else (appendBlock? m out (bs.take size)).map fun (out, m) => (out, m, bs.drop size)
  | _ => none

/-- The blocks of a frame up to its last, and the bytes after it. -/
def readBlocks? (h : Header) : (steps : Nat) → Memory → ByteArray → List UInt8 →
    Option (ByteArray × List UInt8)
  | 0, _, _, _ => none
  | steps + 1, m, out, bs => do
    let (n, rest) ← takeNumber? 3 bs
    let (more, m, rest) ← appendData? h m out (n / 2 % 4) (n / 8) rest
    if h.blockMax < more.size - out.size then none
    if n % 2 == 1 then return (more, rest) else readBlocks? h steps m more rest

/-! ## Frames -/

/-- The bytes after the checksum of data, if it is right. -/
def checkSum? (data : ByteArray) (bs : List UInt8) : Option (List UInt8) := do
  let (n, rest) ← takeNumber? 4 bs
  if n == (XxHash.hash64 data).toNat % 0x100000000 then return rest else none

/-- The data of a frame after its first bytes, and the bytes after it. -/
def readFrame? (bs : List UInt8) : Option (ByteArray × List UInt8) := do
  let (h, rest) ← readHeader? bs
  let (data, rest) ← readBlocks? h bs.length .start .empty rest
  if h.size.any (· != data.size) then none
  return (data, ← if h.checked then checkSum? data rest else some rest)

/-- Whether bytes start a frame that is skipped. -/
def isSkippable (start : List UInt8) : Bool :=
  match start with
  | [a, b, c, d] => a / 16 == 5 && b == 0x2A && c == 0x4D && d == 0x18
  | _ => false

/-- The bytes after a frame that is skipped. -/
def skipFrame? (bs : List UInt8) : Option (List UInt8) := do
  let (n, rest) ← takeNumber? 4 bs
  if rest.length < n then none else return rest.drop n

/-- The data of frames. -/
def readFrames? : (steps : Nat) → List UInt8 → Option (List UInt8)
  | 0, _ => none
  | steps + 1, bs => do
    let start := bs.take 4
    let (data, rest) ←
      if start == frameMagic then readFrame? (bs.drop 4)
      else if isSkippable start then (skipFrame? (bs.drop 4)).map fun rest => (.empty, rest)
      else none
    if rest.isEmpty then return data.toList
    return data.toList ++ (← readFrames? steps rest)

/-- The data of one or more frames. -/
def decompress? (bs : List UInt8) : Option (List UInt8) :=
  readFrames? (bs.length + 1) bs

/-! ## Writing -/

/-- So many bytes of a number, the lowest first. -/
def numberBytes : (count : Nat) → Nat → List UInt8
  | 0, _ => []
  | count + 1, n => n.toUInt8 :: numberBytes count (n / 256)

/-- A block that holds data as it is. -/
def plainBlock (last : Bool) (data : List UInt8) : List UInt8 :=
  numberBytes 3 (data.length * 8 + last.toNat) ++ data

/-- Blocks that hold data as it is. -/
def plainBlocks (data : List UInt8) : List UInt8 :=
  if _h : data.length ≤ blockLimit then plainBlock true data
  else plainBlock false (data.take blockLimit) ++ plainBlocks (data.drop blockLimit)
termination_by data.length
decreasing_by
  simp only [List.length_drop, blockLimit] at *
  omega

/-- A frame of data. Its header has a size of eight bytes and a window of the largest blocks. -/
def compress (data : List UInt8) : List UInt8 :=
  frameMagic ++ [0xC0, 0x38] ++ numberBytes 8 data.length ++ plainBlocks data

end CollectionArchive.Zstd
