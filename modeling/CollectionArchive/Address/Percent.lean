import CollectionArchive.Text.CodeSet
import CollectionArchive.Text.Utf8

/-!
# Percent-encoding

* `Address.encode`: characters of a set, and all that are not ASCII, are written as `%` and the
  hexadecimal digits of their bytes.
* `Address.decodeBytes`: the bytes of a text with such places.
-/

namespace CollectionArchive.Address

/-- The characters that are encoded everywhere: all that ASCII does not print. -/
def isControl (c : Char) : Bool :=
  c.toNat < 0x20 || 0x7E < c.toNat

/-- The characters that are encoded in a fragment. -/
def inFragment (c : Char) : Bool :=
  isControl c || [' ', '"', '<', '>', '\x60'].contains c

/-- The characters that are encoded in a segment of a path. -/
def inPath (c : Char) : Bool :=
  inFragment c || ['#', '?', '\x7b', '\x7d'].contains c

/-- The characters that are encoded in a user's name and password. -/
def inUserInfo (c : Char) : Bool :=
  inPath c || ['/', ':', ';', '=', '@', '[', '\\', ']', '^', '|'].contains c

/-- The characters that are encoded in a query. -/
def inQuery (c : Char) : Bool :=
  isControl c || [' ', '"', '#', '<', '>'].contains c

/-- The characters that are encoded in the query of an address of a well-known scheme. -/
def inSpecialQuery (c : Char) : Bool :=
  inQuery c || c == '\x27'

/-- A byte as a percent sign and two digits. -/
def encodedByte (b : UInt8) : List Char :=
  '%' :: (Bytes.hexPair b).map Char.toUpper

/-- A text with the characters of a set encoded. -/
def encode (set : Char → Bool) (cs : List Char) : List Char :=
  cs.flatMap fun c => if set c then (String.utf8EncodeChar c).flatMap encodedByte else [c]

/-- The value of a byte that is a hexadecimal digit. -/
def hexByte? (b : UInt8) : Option Nat :=
  Text.hexValue? (Char.ofNat b.toNat)

/-- The bytes with each percent sign and the two digits after it decoded. -/
def decodeBytes : Bytes → Bytes
  | 37 :: x :: y :: rest =>
    match hexByte? x, hexByte? y with
    | some high, some low => (high * 16 + low).toUInt8 :: decodeBytes rest
    | _, _ => 37 :: decodeBytes (x :: y :: rest)
  | b :: rest => b :: decodeBytes rest
  | [] => []

end CollectionArchive.Address
