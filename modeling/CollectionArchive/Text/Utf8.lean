/-!
# Text as bytes

* `Bytes`: a sequence of bytes.
* `Bytes.ofText`, `Bytes.text?`: UTF-8, and its partial inverse.
* `Bytes.textLossy`: a reading of any bytes, with U+FFFD for what is no UTF-8.
-/

namespace CollectionArchive

/-- A sequence of bytes. -/
abbrev Bytes := List UInt8

namespace Bytes

/-- The UTF-8 bytes of a text. -/
def ofText (s : String) : Bytes :=
  s.toUTF8.toList

/-- The text whose UTF-8 is `bs`, if there is one. -/
def text? (bs : Bytes) : Option String :=
  String.fromUTF8? ⟨bs.toArray⟩

/-- A continuation byte of a sequence of several bytes. -/
def isContinuation (b : UInt8) : Bool :=
  0x80 ≤ b && b ≤ 0xBF

/-- How many bytes a sequence that starts with `b` has, and the range of its second byte. -/
def sequenceShape (b : UInt8) : Option (Nat × UInt8 × UInt8) :=
  if 0xC2 ≤ b && b ≤ 0xDF then some (2, 0x80, 0xBF)
  else if b == 0xE0 then some (3, 0xA0, 0xBF)
  else if b == 0xED then some (3, 0x80, 0x9F)
  else if 0xE1 ≤ b && b ≤ 0xEF then some (3, 0x80, 0xBF)
  else if b == 0xF0 then some (4, 0x90, 0xBF)
  else if 0xF1 ≤ b && b ≤ 0xF3 then some (4, 0x80, 0xBF)
  else if b == 0xF4 then some (4, 0x80, 0x8F)
  else none

/-- The longest start of `rest` that can follow the leading byte `b`, as payload and length. -/
def payload (b : UInt8) (rest : Bytes) : Nat × Nat × Nat :=
  match sequenceShape b with
  | none => (0, 0, 0)
  | some (size, low, high) =>
    let second := (rest.take 1).takeWhile fun x => low ≤ x && x ≤ high
    let others := if second.isEmpty then [] else
      ((rest.drop 1).take (size - 2)).takeWhile isContinuation
    let tail := second ++ others
    let lead := b.toNat % Nat.pow 2 (7 - size)
    (size, tail.length, tail.foldl (fun n x => n * 64 + x.toNat % 64) lead)

/-- Each longest start of a sequence that breaks off, and each other stray byte, reads as U+FFFD. -/
def charsLossy : Bytes → List Char
  | [] => []
  | b :: rest =>
    if b < 0x80 then Char.ofNat b.toNat :: charsLossy rest
    else
      let (size, taken, code) := payload b rest
      let c := if taken + 1 == size then Char.ofNat code else Char.ofNat 0xFFFD
      c :: charsLossy (rest.drop taken)
termination_by bs => bs.length
decreasing_by all_goals simp; try omega

/-- The text of `bs`, with U+FFFD for what is no UTF-8. -/
def textLossy (bs : Bytes) : String :=
  String.ofList (charsLossy bs)

/-- The digits of a byte, high half first, in lower case. -/
def hexPair (b : UInt8) : List Char :=
  [Nat.digitChar (b.toNat / 16), Nat.digitChar (b.toNat % 16)]

/-- The bytes in hexadecimal, in lower case. -/
def hex (bs : Bytes) : String :=
  String.ofList (bs.flatMap hexPair)

/-- A number below 2³² as four bytes, the highest first. -/
def ofNat32 (n : Nat) : Bytes :=
  [(n / 0x1000000).toUInt8, (n / 0x10000).toUInt8, (n / 0x100).toUInt8, n.toUInt8]

/-- The number that bytes write, the highest first. -/
def toNat (bs : Bytes) : Nat :=
  bs.foldl (fun n b => n * 256 + b.toNat) 0

end Bytes

end CollectionArchive
