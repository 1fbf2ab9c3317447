/-!
# Scanning TOML

A scanner takes what it knows from the start of a text. Line breaks are line feeds.

* `Toml.Scanner`: the type, with scanners for characters and blanks.
* `Toml.Scanner.lineEnd`, `Toml.Scanner.gap`: what may stand after and between things.
-/

namespace CollectionArchive.Toml

/-- A reader of the start of a text. -/
abbrev Scanner := StateT (List Char) Option

namespace Scanner

/-- Blanks within a line. -/
def isBlank (c : Char) : Bool :=
  c == ' ' || c == '\t'

/-- Characters that may stand in comments and literal strings. -/
def isPlain (c : Char) : Bool :=
  c == '\t' || (' ' ≤ c && c != '\x7f')

/-- The next character, which has to be one that `accepts` allows. -/
def char (accepts : Char → Bool) : Scanner Char
  | [] => none
  | c :: cs => if accepts c then some (c, cs) else none

/-- A given character. -/
def mark (c : Char) : Scanner Unit := do
  let _ ← char (· == c)

/-- Given characters in a row. -/
def word (s : String) : Scanner Unit := fun cs =>
  if s.toList.isPrefixOf cs then some ((), cs.drop s.length) else none

/-- All characters up to the first that is not accepted. -/
def run (accepts : Char → Bool) : Scanner (List Char) := fun cs =>
  some (cs.span accepts)

/-- Something, if it is there. -/
def optional {α : Type} (scan : Scanner α) : Scanner (Option α) := fun cs =>
  match scan cs with
  | none => some (none, cs)
  | some (a, rest) => some (some a, rest)

/-- Whether something follows; nothing is taken. -/
def looksAt (s : String) : Scanner Bool := fun cs =>
  some (s.toList.isPrefixOf cs, cs)

/-- Blanks, if there are any. -/
def blanks : Scanner Unit := do
  let _ ← run isBlank

/-- A comment, if there is one. -/
def comment : Scanner Unit := do
  if (← optional (mark '#')).isSome then
    let _ ← run isPlain

/-- The end of the text. -/
def ending : Scanner Unit
  | [] => some ((), [])
  | _ :: _ => none

/-- The rest of a line without anything but a comment. -/
def lineEnd : Scanner Unit := do
  blanks
  comment
  mark '\n' <|> ending

/-- What follows blanks, line breaks and comments, from inside a comment or not. -/
def skipGap : (inComment : Bool) → List Char → Option (List Char)
  | _, [] => some []
  | true, c :: cs =>
    if c == '\n' then skipGap false cs else if isPlain c then skipGap true cs else none
  | false, c :: cs =>
    if c == '#' then skipGap true cs
    else if isBlank c || c == '\n' then skipGap false cs
    else some (c :: cs)

/-- Blanks, line breaks and comments. -/
def gap : Scanner Unit := fun cs =>
  (skipGap false cs).map fun rest => ((), rest)

/-- One thing or more with separators between them, at most so many. -/
def separated {α : Type} (scan : Scanner α) (separator : Scanner Unit) :
    (limit : Nat) → Scanner (List α)
  | 0 => failure
  | limit + 1 => do
    let a ← scan
    match ← optional separator with
    | none => return [a]
    | some () => return a :: (← separated scan separator limit)

end Scanner

end CollectionArchive.Toml
