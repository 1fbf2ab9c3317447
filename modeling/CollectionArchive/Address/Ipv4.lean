import CollectionArchive.Decimal.Digits
import CollectionArchive.Text.CodeSet

/-!
# Addresses of four bytes

One to four numbers with points between them, of which the last fills the bytes that are left.
Numbers may be octal, after `0`, or hexadecimal, after `0x`.

* `Ipv4.isMeant`: whether a domain can only be meant as such an address.
* `Ipv4.parse?`: the address as a number.
* `Ipv4.chars`: the address as four decimal numbers.
-/

namespace CollectionArchive.Address.Ipv4

/-- The value of a digit to a base. -/
def digit? (base : Nat) (c : Char) : Option Nat :=
  (Text.hexValue? c).filter (· < base)

/-- The base that a number is written to, and its digits. -/
def splitBase : List Char → Nat × List Char
  | '0' :: 'x' :: ds => (16, ds)
  | '0' :: 'X' :: ds => (16, ds)
  | '0' :: d :: ds => (8, d :: ds)
  | ds => (10, ds)

/-- A number to any of the bases. Digits that are missing write zero. -/
def number? (cs : List Char) : Option Nat :=
  if cs.isEmpty then none
  else
    let (base, ds) := splitBase cs
    (ds.mapM (digit? base)).map fun ds => ds.foldl (fun n d => n * base + d) 0

/-- The parts between points. An empty one at the end does not count. -/
def parts (cs : List Char) : List (List Char) :=
  let all := cs.splitOn '.'
  if 1 < all.length && all.getLast? == some [] then all.dropLast else all

/-- Whether the last part of a domain is a number. -/
def isMeant (cs : List Char) : Bool :=
  (parts cs).getLast?.any fun last =>
    (!last.isEmpty && last.all fun c => (Decimal.digit? c).isSome) || (number? last).isSome

/-- The number of leading bytes and a last number that fills the bytes left. -/
def assemble? (numbers : List Nat) : Option Nat := do
  let last ← numbers.getLast?
  let leading := numbers.dropLast
  let room := Nat.pow 256 (4 - leading.length)
  if leading.length < 4 && leading.all (· < 256) && last < room then
    return leading.foldl (fun n b => n * 256 + b) 0 * room + last
  else none

/-- The address that a domain writes. -/
def parse? (cs : List Char) : Option Nat :=
  (parts cs).mapM number? >>= assemble?

/-- The bytes of an address. -/
def bytes (n : Nat) : List Nat :=
  [n / 0x1000000, n / 0x10000 % 256, n / 0x100 % 256, n % 256]

/-- The address as four decimal numbers. -/
def chars (n : Nat) : List Char :=
  ['.'].intercalate ((bytes n).map Decimal.natChars)

end CollectionArchive.Address.Ipv4
