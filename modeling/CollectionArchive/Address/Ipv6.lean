import CollectionArchive.Decimal.Digits
import CollectionArchive.Text.CodeSet

/-!
# Addresses of eight pieces

Eight hexadecimal numbers of 16 bits with colons between them. Two colons stand for one or more
zeros, once. The last two numbers may be written as four decimal bytes.

* `Ipv6.parse?`: the pieces of an address.
* `Ipv6.chars`: the shortest form: the first longest run of two or more zeros is left out.
-/

namespace CollectionArchive.Address.Ipv6

/-- The pieces that have been read, up to two colons and after them. -/
structure Pieces where
  before : List Nat
  after : Option (List Nat)

namespace Pieces

/-- How many pieces there are at least. -/
def size (p : Pieces) : Nat :=
  p.before.length + (p.after.getD []).length

/-- The pieces, and one more. -/
def push (p : Pieces) (n : Nat) : Pieces :=
  match p.after with
  | none => { p with before := p.before ++ [n] }
  | some after => { p with after := some (after ++ [n]) }

/-- Two colons: a zero at least, and more as there is room. -/
def skip? (p : Pieces) : Option Pieces :=
  if p.after.isSome then none else some ⟨p.before ++ [0], some []⟩

/-- All eight pieces. -/
def complete? (p : Pieces) : Option (List Nat) :=
  match p.after with
  | none => if p.before.length == 8 then some p.before else none
  | some after => some (p.before ++ List.replicate (8 - p.size) 0 ++ after)

end Pieces

/-- The decimal number of a byte, without leading zeros, and what follows it. -/
def byte? (cs : List Char) : Option (Nat × List Char) :=
  match Decimal.spanDigits cs with
  | ([], _) => none
  | (0 :: _ :: _, _) => none
  | (ds, rest) => if Decimal.ofDigits ds ≤ 255 then some (Decimal.ofDigits ds, rest) else none

/-- Four decimal bytes with points between them, and nothing more. -/
def fourBytes? (cs : List Char) : Option (List Nat) :=
  (cs.splitOn '.').mapM (fun part =>
    match byte? part with
    | some (n, []) => some n
    | _ => none) >>= fun bs => if bs.length == 4 then some bs else none

/-- The pieces with four decimal bytes after them, which make two pieces. -/
def endInBytes? (p : Pieces) (cs : List Char) : Option Pieces :=
  if 6 < p.size then none
  else
    match fourBytes? cs with
    | some [a, b, c, d] => some ((p.push (a * 256 + b)).push (c * 256 + d))
    | _ => none

/-- The hexadecimal digits, up to four, that a text starts with. -/
def pieceDigits (cs : List Char) : List Char :=
  (cs.take 4).takeWhile fun c => (Text.hexValue? c).isSome

/-- Reads pieces with colons between them. -/
def read? (p : Pieces) (cs : List Char) : Option Pieces :=
  if cs.isEmpty then some p
  else if p.size == 8 then none
  else
    let digits := pieceDigits cs
    match _h : cs.drop digits.length with
    | [] => some (p.push (Text.hexNumber digits))
    | '.' :: _ => if digits.isEmpty then none else endInBytes? p cs
    | ':' :: rest =>
      if digits.isEmpty then p.skip? >>= fun q => read? q rest
      else if rest.isEmpty then none
      else read? (p.push (Text.hexNumber digits)) rest
    | _ => none
termination_by cs.length
decreasing_by
  all_goals
    have := congrArg List.length _h
    simp only [List.length_drop, List.length_cons] at this
    omega

/-- The pieces of an address. -/
def parse? (cs : List Char) : Option (List Nat) :=
  match cs with
  | ':' :: ':' :: rest => read? ⟨[0], some []⟩ rest >>= Pieces.complete?
  | ':' :: _ => none
  | [] => none
  | [_] => none
  | _ => read? ⟨[], none⟩ cs >>= Pieces.complete?

/-! ## Writing -/

/-- The number of zeros that a list starts with. -/
def zeros (ns : List Nat) : Nat :=
  (ns.takeWhile (· == 0)).length

/-- Where the first longest run of zeros among the pieces starts, and how long it is. -/
def longestZeros : (start : Nat) → List Nat → Nat × Nat
  | start, [] => (start, 0)
  | start, n :: ns =>
    let here := zeros (n :: ns)
    let later := longestZeros (start + 1) ns
    if later.2 ≤ here then (start, here) else later

/-- Pieces in hexadecimal with colons between them. -/
def joined (ns : List Nat) : List Char :=
  [':'].intercalate (ns.map (Nat.toDigits 16))

/-- The shortest form of an address. -/
def chars (pieces : List Nat) : List Char :=
  let (start, count) := longestZeros 0 pieces
  if count < 2 then joined pieces
  else joined (pieces.take start) ++ [':', ':'] ++ joined (pieces.drop (start + count))

end CollectionArchive.Address.Ipv6
