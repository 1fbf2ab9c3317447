import CollectionArchive.Json.Reader
import CollectionArchive.Text.Utf8

/-!
# Reading JSON from bytes

* `Json.parseBytes`: reads the value that bytes write in UTF-8.
-/

namespace CollectionArchive.Json

/-- The byte of a quotation mark. -/
def quoteByte : UInt8 := 0x22

/-- The byte of a backslash. -/
def backslashByte : UInt8 := 0x5C

/-- Where the string starts that is open at the end of the bytes; `opened` is the start of the one
that is open at their beginning, which is at the given place. -/
def openText? : (place : Nat) → (opened : Option Nat) → Bytes → Option Nat
  | _, opened, [] => opened
  | i, none, b :: bs => openText? (i + 1) (if b == quoteByte then some i else none) bs
  | i, some start, b :: bs =>
    if b == quoteByte then openText? (i + 1) none bs
    else if b == backslashByte then
      match bs with
      | [] => some start
      | _ :: bs => openText? (i + 2) (some start) bs
    else openText? (i + 1) (some start) bs

/-- The text with one plain character for each byte that is no ASCII. -/
def asciiText (bs : Bytes) : String :=
  String.ofList (bs.map fun b => if b < 0x80 then Char.ofNat b.toNat else '\x7f')

/-- The fault of bytes that are no UTF-8. It is found at the end of the string in which the stray
bytes are, so if that string never ends, the end comes first. -/
def strayFault (bs : Bytes) : Fault :=
  match parse (asciiText bs) with
  | .error .endsEarly =>
    let before := bs.take ((openText? 0 none bs).getD bs.length)
    if (Bytes.text? before).isSome then .endsEarly else .malformed
  | _ => .malformed

/-- The value that bytes write. -/
def parseBytes (bs : Bytes) : Except Fault Value :=
  (Bytes.text? bs).elim (.error (strayFault bs)) parse

end CollectionArchive.Json
