import CollectionArchive.Text.CodeSet
import CollectionArchive.Text.Utf8

/-!
# Universally unique identifiers

Sixteen bytes, written as 32 hexadecimal digits in groups of 8, 4, 4, 4 and 12.

* `Uuid.text`: the written form, with hyphens between the groups and in lower case.
* `Uuid.parse`: reading it, and the spellings without hyphens, in braces and as a URN.
* `Uuid.Fault`: what is wrong with a text that is none of these.
-/

namespace CollectionArchive

/-- Sixteen bytes that name something. -/
structure Uuid where
  bytes : Bytes
  size : bytes.length = 16
deriving DecidableEq

namespace Uuid

/-- A byte, by its position. -/
def byte (u : Uuid) (i : Fin 16) : UInt8 :=
  u.bytes.get (i.cast u.size.symm)

/-- The version: the high half of the seventh byte. -/
def version (u : Uuid) : Nat :=
  (u.byte 6).toNat / 16

/-- Whether the layout is that of RFC 4122: the ninth byte starts with the bits 1 and 0. -/
def isStandard (u : Uuid) : Bool :=
  (u.byte 8).toNat / 64 == 2

/-- The sizes of the groups of digits. -/
def groupSizes : List Nat :=
  [8, 4, 4, 4, 12]

/-- A text in groups of given sizes with a hyphen between two of them; what is left over belongs to
the last. -/
def hyphenate : (sizes : List Nat) → List Char → List Char
  | [], cs => cs
  | [_], cs => cs
  | n :: sizes, cs => cs.take n ++ '-' :: hyphenate sizes (cs.drop n)

/-- The 32 digits. -/
def digits (u : Uuid) : List Char :=
  u.bytes.flatMap Bytes.hexPair

/-- The written form. -/
def chars (u : Uuid) : List Char :=
  hyphenate groupSizes u.digits

/-- The written form: groups of digits in lower case, with hyphens between them. -/
def text (u : Uuid) : String :=
  String.ofList u.chars

/-- The bytes that pairs of hexadecimal digits write. -/
def pairs? : List Char → Option Bytes
  | [] => some []
  | [_] => none
  | a :: b :: rest => do
    let high ← Text.hexValue? a
    let low ← Text.hexValue? b
    return (high * 16 + low).toUInt8 :: (← pairs? rest)

/-- The UUID of given bytes, if there are sixteen. -/
def ofBytes? (bs : Bytes) : Option Uuid :=
  if h : bs.length = 16 then some ⟨bs, h⟩ else none

/-- The UUID that 32 digits write. -/
def ofDigits? (cs : List Char) : Option Uuid :=
  pairs? cs >>= ofBytes?

/-- The digits of groups of given sizes with a hyphen between two of them. -/
def ungroup? : (sizes : List Nat) → List Char → Option (List Char)
  | [], cs => if cs.isEmpty then some [] else none
  | [n], cs => if cs.length == n then some cs else none
  | n :: sizes, cs =>
    match cs.drop n with
    | '-' :: rest => (ungroup? sizes rest).map (cs.take n ++ ·)
    | _ => none

/-- The UUID that groups with hyphens write. -/
def ofGroups? (cs : List Char) : Option Uuid :=
  ungroup? groupSizes cs >>= ofDigits?

/-- Why a text is no UUID. -/
inductive Fault where
  | length (found : Nat)
  | character (found : Char) (index : Nat)
  | groupCount (found : Nat)
  | groupLength (group expected found : Nat)
deriving DecidableEq

/-- The wording of a fault. -/
def Fault.message : Fault → String
  | length found => s!"invalid length: found {found}"
  | character found index =>
    "invalid character: found \x60" ++ String.singleton found ++ s!"\x60 at {index}"
  | groupCount found => s!"invalid group count: expected 5, found {found}"
  | groupLength group expected found =>
    s!"invalid group length in group {group}: expected {expected}, found {found}"

/-- The size of a text in bytes. -/
def byteSize (cs : List Char) : Nat :=
  cs.foldl (fun size c => size + c.utf8Size) 0

/-- The start of a URN for UUIDs, in lower case. -/
def urnStart : List Char :=
  "urn:uuid:".toList

/-- The text after the start of a URN. -/
def afterUrn? (cs : List Char) : Option (List Char) :=
  if (cs.take 9).map Char.toLower == urnStart then some (cs.drop 9) else none

/-- The text between braces. -/
def betweenBraces? : List Char → Option (List Char)
  | '\x7b' :: rest => if rest.getLast? == some '\x7d' then some rest.dropLast else none
  | _ => none

/-- The positions in bytes of the characters of a text, from `i` on. -/
def positions (i : Nat) : List Char → List (Char × Nat)
  | [] => []
  | c :: cs => (c, i) :: positions (i + c.utf8Size) cs

/-- The first group that does not end where it should, given where the hyphens stand. -/
def misplacedGroup? : (group start : Nat) → (sizes hyphens : List Nat) → Option Fault
  | group, start, n :: sizes, h :: hyphens =>
    if h == start + n then misplacedGroup? (group + 1) (start + n + 1) sizes hyphens
    else some (.groupLength group n (h - start))
  | _, _, _, _ => none

/-- What is wrong with the text `cs`, of `total` bytes with what stands around it, that starts at
the byte `start`. A text that stands alone might have been meant without hyphens. -/
def diagnoseAt (start total : Nat) (alone : Bool) (cs : List Char) : Fault :=
  let all := positions 0 cs
  let hyphens := (all.filter fun p => p.1 == '-').map Prod.snd
  match all.find? fun p => p.1 != '-' && (Text.hexValue? p.1).isNone with
  | some (c, i) => .character c (start + i)
  | none =>
    if alone && hyphens.isEmpty then .length total
    else if hyphens.length != 4 then .groupCount (hyphens.length + 1)
    else (misplacedGroup? 0 0 (groupSizes.take 4) hyphens).getD (.groupLength 4 12 (total - 24))

/-- What is wrong with a text that has no known form. -/
def diagnose (cs : List Char) : Fault :=
  let total := byteSize cs
  if total == 0 || 45 < total then .length total
  else
    match betweenBraces? cs, afterUrn? cs with
    | some inner, _ => diagnoseAt 1 total false inner
    | _, some rest => diagnoseAt 9 total false rest
    | none, none => diagnoseAt 0 total true cs

/-- The groups with hyphens that a text of a known form holds. -/
def grouped? (cs : List Char) : Option (List Char) :=
  match byteSize cs with
  | 36 => some cs
  | 38 => betweenBraces? cs
  | 45 => afterUrn? cs
  | _ => none

/-- Reads any spelling of a UUID. -/
def parse (cs : List Char) : Except Fault Uuid :=
  match grouped? cs with
  | some groups => (ofGroups? groups).elim (.error (diagnoseAt 0 36 false groups)) .ok
  | none =>
    let plain := if cs.length == 32 then ofDigits? cs else none
    plain.elim (.error (diagnose cs)) .ok

end Uuid

end CollectionArchive
