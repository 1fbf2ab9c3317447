import CollectionArchive.Json.Number
import CollectionArchive.Text.CodeSet

/-!
# What a JSON text says, up to its first fault

A reader of JSON takes a text from left to right and stops at the first fault, be it one of the
text or one of the shape that it expects. The tree of a text keeps what stands before the place
where the text itself breaks off, and that place. A shape is then read from the tree, in the same
order.

* `Json.Fault`: the three kinds of fault.
* `Json.Tree`: the tree of a text.
* `Json.Tree.ofText`: the tree of the value that a text starts with, and whether more follows.
-/

namespace CollectionArchive.Json

/-- What is wrong with a text that should hold a value of some shape. -/
inductive Fault where
  /-- It is not JSON. -/
  | malformed
  /-- It ends before the value does. -/
  | endsEarly
  /-- It holds a value of another shape. -/
  | misshapen
deriving DecidableEq

/-- A place where the text breaks off. A reader that skips the value over it may name it otherwise
than one that reads the value. -/
structure Flaw where
  read : Fault
  skipped : Fault
deriving DecidableEq

namespace Flaw

/-- A flaw that is named alike in both cases. -/
def of (f : Fault) : Flaw :=
  ⟨f, f⟩

def malformed : Flaw := of .malformed

def endsEarly : Flaw := of .endsEarly

end Flaw

/-- The tree of a text. Strings are `none` if they hold half of a surrogate pair. -/
inductive Tree where
  | null
  | bool (b : Bool)
  | number (literal : Literal)
  | text (content : Option String)
  | array (items : List Tree) (ending : Option Flaw)
  | object (members : List (Option String × Tree)) (ending : Option Flaw)
  | broken (flaw : Flaw)

namespace Tree

/-- The blanks between tokens. -/
def isGap (c : Char) : Bool :=
  c == ' ' || c == '\n' || c == '\t' || c == '\r'

/-- The text after blanks. -/
def skipGap (cs : List Char) : List Char :=
  cs.dropWhile isGap

/-- Whether a text has fewer bytes than `n`. -/
def shorterThan (n : Nat) (cs : List Char) : Bool :=
  (cs.take n).foldl (fun size c => size + c.utf8Size) 0 < n

/-- The number that four hexadecimal digits write. A text of fewer than four bytes ends early. -/
def hexUnit (cs : List Char) : Except Fault (Nat × List Char) :=
  if shorterThan 4 cs then .error .endsEarly
  else
    match cs with
    | a :: b :: c :: d :: rest =>
      match Text.hexValue? a, Text.hexValue? b, Text.hexValue? c, Text.hexValue? d with
      | some a, some b, some c, some d => .ok (a * 0x1000 + b * 0x100 + c * 0x10 + d, rest)
      | _, _, _, _ => .error .malformed
    | _ => .error .malformed

/-- The character of an escape of one letter. -/
def escapeChar? (c : Char) : Option Char :=
  match c with
  | '"' => some '"'
  | '\\' => some '\\'
  | '/' => some '/'
  | 'b' => some '\x08'
  | 'f' => some '\x0c'
  | 'n' => some '\n'
  | 'r' => some '\r'
  | 't' => some '\t'
  | _ => none

/-- The characters of a string read so far, in reverse; a first half of a surrogate pair that waits
for the second; and whether some half has stayed alone. -/
structure TextState where
  chars : List Char := []
  half : Option Nat := none
  unpaired : Bool := false

namespace TextState

/-- A flaw of the text itself; a reader of the string finds an earlier lone half first. -/
def flaw (s : TextState) (f : Fault) : Flaw :=
  ⟨if s.unpaired then .malformed else f, f⟩

/-- A waiting half stays alone. -/
def settle (s : TextState) : TextState :=
  match s.half with
  | none => s
  | some _ => { s with half := none, unpaired := true }

/-- One more character. -/
def push (s : TextState) (c : Char) : TextState :=
  let t := s.settle
  { t with chars := c :: t.chars }

/-- One more unit of 16 bits. -/
def pushUnit (s : TextState) (unit : Nat) : TextState :=
  let isHigh := 0xD800 ≤ unit && unit ≤ 0xDBFF
  let isLow := 0xDC00 ≤ unit && unit ≤ 0xDFFF
  match s.half with
  | some high =>
    if isLow then
      let code := 0x10000 + (high - 0xD800) * 0x400 + (unit - 0xDC00)
      { s with half := none, chars := Char.ofNat code :: s.chars }
    else { s with half := none, unpaired := true }
  | none =>
    if isHigh then { s with half := some unit }
    else if isLow then { s with unpaired := true }
    else { s with chars := Char.ofNat unit :: s.chars }

/-- The content of the finished string. -/
def content (s : TextState) : Option String :=
  let t := s.settle
  if t.unpaired then none else some (String.ofList t.chars.reverse)

end TextState

/-- The string that goes on with `cs` after its opening quote, and the text after it. -/
def readText (s : TextState) (cs : List Char) : Except Flaw (Option String × List Char) :=
  match cs with
  | [] => .error (s.flaw .endsEarly)
  | '"' :: rest => .ok (s.content, rest)
  | ['\\'] => .error (s.flaw .endsEarly)
  | '\\' :: 'u' :: rest =>
    match rest with
    | a :: b :: c :: d :: after =>
      match hexUnit (a :: b :: c :: d :: after) with
      | .ok (unit, _) => readText (s.pushUnit unit) after
      | .error f => .error (s.flaw f)
    | short => .error (s.flaw (if shorterThan 4 short then .endsEarly else .malformed))
  | '\\' :: letter :: rest =>
    match escapeChar? letter with
    | some c => readText (s.push c) rest
    | none => .error (s.settle.flaw .malformed)
  | c :: rest =>
    if c.toNat < 0x20 then .error (s.settle.flaw .malformed) else readText (s.push c) rest

/-- At least one digit; where there is none, the end of the text is another flaw than a stray
character. -/
def someDigits (cs : List Char) : Except Flaw (List Nat × List Char) :=
  match Decimal.spanDigits cs with
  | ([], []) => .error ⟨.endsEarly, .malformed⟩
  | ([], _) => .error .malformed
  | found => .ok found

/-- The digits before the point: a zero is not followed by another digit. -/
def wholeDigits (cs : List Char) : Except Flaw (List Nat × List Char) := do
  let (ds, rest) ← someDigits cs
  match ds with
  | 0 :: _ :: _ => .error .malformed
  | _ => .ok (ds, rest)

/-- The point and the digits after it, if there is a point. -/
def fractionDigits (cs : List Char) : Except Flaw (Option (List Nat) × List Char) :=
  match cs with
  | '.' :: after => do
    let (ds, rest) ← someDigits after
    return (some ds, rest)
  | _ => .ok (none, cs)

/-- The exponent after its mark, if there is one. -/
def exponentDigits (cs : List Char) : Except Flaw (Option Int × List Char) :=
  match cs with
  | mark :: after =>
    if mark == 'e' || mark == 'E' then do
      let (negative, unsigned) := Decimal.splitSign after
      let (ds, rest) ← someDigits unsigned
      return (some (Decimal.signed negative (Decimal.ofDigits ds)), rest)
    else .ok (none, cs)
  | [] => .ok (none, [])

/-- A number literal, after its minus sign. -/
def readLiteral (negative : Bool) (cs : List Char) : Except Flaw (Literal × List Char) := do
  let (whole, afterWhole) ← wholeDigits cs
  let (fraction, afterFraction) ← fractionDigits afterWhole
  let (exponent, rest) ← exponentDigits afterFraction
  return (⟨negative, whole, fraction, exponent⟩, rest)

/-- The rest of a word: the text after it, or where it breaks off. -/
def expectWord : (word cs : List Char) → Except Flaw (List Char)
  | [], cs => .ok cs
  | _ :: _, [] => .error .endsEarly
  | w :: word, c :: cs => if w == c then expectWord word cs else .error .malformed

/-- A tree and the text after it; none after a flaw. -/
abbrev Partial (α : Type) := α × Option (List Char)

/-- A value that is no array or object, with the text after its first character at hand. -/
def readAtom (first : Char) (after : List Char) : Partial Tree :=
  let word (letters : List Char) (t : Tree) : Partial Tree :=
    match expectWord letters after with
    | .ok rest => (t, some rest)
    | .error f => (.broken f, none)
  let literal (negative : Bool) (cs : List Char) : Partial Tree :=
    match readLiteral negative cs with
    | .ok (l, rest) => (.number l, some rest)
    | .error f => (.broken f, none)
  match first with
  | 'n' => word ['u', 'l', 'l'] .null
  | 't' => word ['r', 'u', 'e'] (.bool true)
  | 'f' => word ['a', 'l', 's', 'e'] (.bool false)
  | '"' =>
    match readText {} after with
    | .ok (s, rest) => (.text s, some rest)
    | .error f => (.broken f, none)
  | '-' => literal true after
  | _ =>
    if (Decimal.digit? first).isSome then literal false (first :: after)
    else (.broken .malformed, none)

mutual

/-- The value that a text starts with, after blanks. Each level of recursion takes a character off
the text, so as many levels as it has characters are enough. -/
def readValue : (levels : Nat) → List Char → Partial Tree
  | 0, _ => (.broken .malformed, none)
  | levels + 1, cs =>
    match skipGap cs with
    | [] => (.broken .endsEarly, none)
    | '[' :: after =>
      match skipGap after with
      | [] => (.array [] (some .endsEarly), none)
      | ']' :: rest => (.array [] none, some rest)
      | items =>
        let (read, rest) := readItems levels items
        (.array read.1 read.2, rest)
    | '\x7b' :: after =>
      match skipGap after with
      | [] => (.object [] (some .endsEarly), none)
      | '\x7d' :: rest => (.object [] none, some rest)
      | members =>
        let (read, rest) := readMembers levels members
        (.object read.1 read.2, rest)
    | first :: after => readAtom first after

/-- The items of an array from one of them on. -/
def readItems : (levels : Nat) → List Char → Partial (List Tree × Option Flaw)
  | 0, _ => (([], some .malformed), none)
  | levels + 1, cs =>
    match readValue levels cs with
    | (item, none) => (([item], some .malformed), none)
    | (item, some rest) =>
      match skipGap rest with
      | [] => (([item], some .endsEarly), none)
      | ']' :: rest => (([item], none), some rest)
      | ',' :: rest =>
        let (read, rest) := readItems levels rest
        ((item :: read.1, read.2), rest)
      | _ => (([item], some .malformed), none)

/-- The members of an object from one of them on. -/
def readMembers : (levels : Nat) → List Char → Partial (List (Option String × Tree) × Option Flaw)
  | 0, _ => (([], some .malformed), none)
  | levels + 1, cs =>
    match skipGap cs with
    | [] => (([], some .endsEarly), none)
    | '"' :: after =>
      match readText {} after with
      | .error f => (([], some f), none)
      | .ok (key, rest) =>
        match skipGap rest with
        | [] => (([(key, .broken .endsEarly)], some .malformed), none)
        | ':' :: rest =>
          match readValue levels rest with
          | (v, none) => (([(key, v)], some .malformed), none)
          | (v, some rest) =>
            match skipGap rest with
            | [] => (([(key, v)], some .endsEarly), none)
            | '\x7d' :: rest => (([(key, v)], none), some rest)
            | ',' :: rest =>
              let (read, rest) := readMembers levels rest
              (((key, v) :: read.1, read.2), rest)
            | _ => (([(key, v)], some .malformed), none)
        | _ => (([(key, .broken .malformed)], some .malformed), none)
    | _ => (([], some .malformed), none)

end

/-- The tree of the value that a text starts with, and whether anything but blanks follows. -/
def ofText (s : String) : Tree × Bool :=
  let cs := s.toList
  match readValue (2 * cs.length + 2) cs with
  | (t, none) => (t, false)
  | (t, some rest) => (t, !(skipGap rest).isEmpty)

end Tree

end CollectionArchive.Json
