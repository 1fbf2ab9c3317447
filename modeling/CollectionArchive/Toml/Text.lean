import CollectionArchive.Toml.Scanner

/-!
# Strings and keys in TOML

* `Toml.Scanner.string`: strings of one line or several, with or without escapes.
* `Toml.Scanner.key`: the names of a key with dots between them.
-/

namespace CollectionArchive.Toml.Scanner

/-! ## Strings -/

/-- The quote around literal strings. -/
def apostrophe : Char := '\x27'

/-- Characters that stand for themselves in a string with escapes. -/
def isUnescaped (c : Char) : Bool :=
  isPlain c && c != '"' && c != '\\'

/-- The value of a hexadecimal digit. -/
def hexDigit? (c : Char) : Option Nat :=
  if '0' ≤ c && c ≤ '9' then some (c.toNat - 48)
  else if 'a' ≤ c && c ≤ 'f' then some (c.toNat - 87)
  else if 'A' ≤ c && c ≤ 'F' then some (c.toNat - 55)
  else none

/-- The character whose code hexadecimal digits write. -/
def charOfHex? (digits : List Char) : Option Char := do
  let ds ← digits.mapM hexDigit?
  let code := ds.foldl (fun n d => n * 16 + d) 0
  if code.isValidChar then some (Char.ofNat code) else none

/-- What a letter after a backslash stands for. -/
def unescape? (c : Char) : Option Char :=
  (("btnfr\"\\".toList.zip ['\x08', '\t', '\n', '\x0c', '\r', '"', '\\']).find? fun e =>
    e.1 == c).map Prod.snd

/-- A character at the front of a string that has been taken. -/
def push (c : Char) (rest : List Char × List Char) : List Char × List Char :=
  (c :: rest.1, rest.2)

/-- The content of a string of one line up to its closing quote, and what follows it. -/
def basicRest : List Char → Option (List Char × List Char)
  | '"' :: cs => some ([], cs)
  | '\\' :: 'u' :: a :: b :: c :: d :: cs => do
    return push (← charOfHex? [a, b, c, d]) (← basicRest cs)
  | '\\' :: 'U' :: a :: b :: c :: d :: e :: f :: g :: h :: cs => do
    return push (← charOfHex? [a, b, c, d, e, f, g, h]) (← basicRest cs)
  | '\\' :: c :: cs => do
    return push (← unescape? c) (← basicRest cs)
  | c :: cs => do
    if isUnescaped c then return push c (← basicRest cs) else none
  | [] => none

/-- What follows a line break after a backslash: it and all blanks and line breaks after it are left
out. -/
def skipBreak? (cs : List Char) : Option (List Char) :=
  let rest := cs.dropWhile isBlank
  if rest.head? == some '\n' then some (rest.dropWhile fun c => isBlank c || c == '\n') else none

theorem length_dropWhile_le {α : Type} (p : α → Bool) (l : List α) :
    (l.dropWhile p).length ≤ l.length :=
  (List.dropWhile_sublist p).length_le

theorem length_skipBreak? {cs rest : List Char} (h : skipBreak? cs = some rest) :
    rest.length ≤ cs.length := by
  simp only [skipBreak?] at h
  split at h
  · rw [← Option.some.inj h]
    exact Nat.le_trans (length_dropWhile_le _ _) (length_dropWhile_le _ _)
  · cases h

/-- The content of a string of several lines up to its three closing quotes, and what follows them.
Up to two more quotes before them belong to the content. -/
def multilineRest (cs : List Char) : Option (List Char × List Char) :=
  match cs with
  | '"' :: '"' :: '"' :: '"' :: '"' :: cs => some (['"', '"'], cs)
  | '"' :: '"' :: '"' :: '"' :: cs => some (['"'], cs)
  | '"' :: '"' :: '"' :: cs => some ([], cs)
  | '"' :: cs => do return push '"' (← multilineRest cs)
  | '\\' :: 'u' :: a :: b :: c :: d :: cs => do
    return push (← charOfHex? [a, b, c, d]) (← multilineRest cs)
  | '\\' :: 'U' :: a :: b :: c :: d :: e :: f :: g :: h :: cs => do
    return push (← charOfHex? [a, b, c, d, e, f, g, h]) (← multilineRest cs)
  | '\\' :: c :: cs =>
    match _h : skipBreak? (c :: cs) with
    | some rest => multilineRest rest
    | none => do return push (← unescape? c) (← multilineRest cs)
  | c :: cs => do
    if isUnescaped c || c == '\n' then return push c (← multilineRest cs) else none
  | [] => none
termination_by cs.length
decreasing_by
  all_goals first
    | (have shorter := length_skipBreak? _h; simp only [List.length_cons] at *; omega)
    | (simp only [List.length_cons]; omega)

/-- The content of a literal string of several lines up to its three closing quotes, and what
follows them. Up to two more quotes before them belong to the content. -/
def literalRest : List Char → Option (List Char × List Char)
  | '\x27' :: '\x27' :: '\x27' :: '\x27' :: '\x27' :: cs => some ([apostrophe, apostrophe], cs)
  | '\x27' :: '\x27' :: '\x27' :: '\x27' :: cs => some ([apostrophe], cs)
  | '\x27' :: '\x27' :: '\x27' :: cs => some ([], cs)
  | c :: cs => do
    if isPlain c || c == '\n' then return push c (← literalRest cs) else none
  | [] => none

/-- A string of one line with escapes. -/
def basicString : Scanner String := do
  mark '"'
  String.ofList <$> (basicRest : Scanner (List Char))

/-- A string of one line as it is. -/
def literalString : Scanner String := do
  mark apostrophe
  let cs ← run fun c => isPlain c && c != apostrophe
  mark apostrophe
  return String.ofList cs

/-- A string of several lines. A line break at its start does not belong to it. -/
def longString (quotes : String) (rest : Scanner (List Char)) : Scanner String := do
  word quotes
  let _ ← optional (mark '\n')
  String.ofList <$> rest

/-- Any string. -/
def string : Scanner String := do
  if ← looksAt "\"\"\"" then longString "\"\"\"" multilineRest
  else if ← looksAt "'''" then longString "'''" literalRest
  else if ← looksAt "\"" then basicString
  else literalString

/-! ## Keys -/

/-- Characters of names without quotes. -/
def isBare (c : Char) : Bool :=
  c.isAlphanum || c == '-' || c == '_'

/-- A name of letters, digits and dashes. -/
def bareName : Scanner String := do
  let cs ← run isBare
  if cs.isEmpty then failure else return String.ofList cs

/-- A name, in quotes or not. -/
def name : Scanner String :=
  basicString <|> literalString <|> bareName

/-- The dot between two names. -/
def dot : Scanner Unit := do
  blanks
  mark '.'
  blanks

/-- So many names or brackets within each other are too many. -/
def limit : Nat := 80

/-- The names of a key. -/
def key : Scanner (List String) :=
  separated name dot (limit - 1)

end CollectionArchive.Toml.Scanner
