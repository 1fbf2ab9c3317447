import CollectionArchive.Json.Value
import CollectionArchive.Text.Quoted

/-!
# Writing JSON

* `Json.quotedChars`: a text as a JSON string.
* `Value.chars`, `Value.compact`: the compact form, without blanks.
* `Value.pretty`: one item or member a line, indented by two blanks a level.
-/

namespace CollectionArchive.Json

/-- Four hexadecimal digits of a number below 2¹⁶, in lower case. -/
def hexQuad (n : Nat) : List Char :=
  [n / 0x1000 % 16, n / 0x100 % 16, n / 0x10 % 16, n % 16].map Nat.digitChar

/-- One character of a JSON string: quotes, backslashes and controls are escaped. -/
def escapedChar (c : Char) : List Char :=
  if c == '"' then ['\\', '"']
  else if c == '\\' then ['\\', '\\']
  else if c == '\x08' then ['\\', 'b']
  else if c == '\x0c' then ['\\', 'f']
  else if c == '\n' then ['\\', 'n']
  else if c == '\r' then ['\\', 'r']
  else if c == '\t' then ['\\', 't']
  else if c.toNat < 0x20 then '\\' :: 'u' :: hexQuad c.toNat
  else [c]

/-- A text as a JSON string. -/
def quotedChars (s : String) : List Char :=
  '"' :: s.toList.flatMap escapedChar ++ ['"']

/-- A truth value in JSON. -/
def boolChars (b : Bool) : List Char :=
  if b then "true".toList else "false".toList

/-- Parts with a comma between them. -/
def commaSeparated (parts : List (List Char)) : List Char :=
  [','].intercalate parts

/-- An array of items that are written already. -/
def bracketed (parts : List (List Char)) : List Char :=
  '[' :: commaSeparated parts ++ [']']

/-- An object of members whose values are written already. -/
def braced (parts : List (String × List Char)) : List Char :=
  '\x7b' :: commaSeparated (parts.map fun p => quotedChars p.1 ++ ':' :: p.2) ++ ['\x7d']

namespace Value

mutual

/-- The compact form of a value. -/
def chars : Value → List Char
  | null => "null".toList
  | bool b => boolChars b
  | number n => n.chars
  | text s => quotedChars s
  | array items => bracketed (itemChars items)
  | object members => braced (memberChars members)

def itemChars : List Value → List (List Char)
  | [] => []
  | v :: vs => chars v :: itemChars vs

def memberChars : List (String × Value) → List (String × List Char)
  | [] => []
  | (k, v) :: ms => (k, chars v) :: memberChars ms

end

/-- The compact form of a value. -/
def compact (v : Value) : String :=
  String.ofList v.chars

/-- A line break and the indentation of a level. -/
def lineBreak (level : Nat) : List Char :=
  '\n' :: List.replicate (2 * level) ' '

/-- Parts on lines of their own between an opening and a closing bracket. -/
def block (level : Nat) (opening closing : Char) (parts : List (List Char)) : List Char :=
  if parts.isEmpty then [opening, closing]
  else
    opening :: lineBreak (level + 1) ++ (',' :: lineBreak (level + 1)).intercalate parts ++
      lineBreak level ++ [closing]

mutual

/-- The indented form of a value that starts at a level. -/
def prettyChars (level : Nat) : Value → List Char
  | array items => block level '[' ']' (prettyItems (level + 1) items)
  | object members => block level '\x7b' '\x7d' (prettyMembers (level + 1) members)
  | null => "null".toList
  | bool b => boolChars b
  | number n => n.chars
  | text s => quotedChars s

def prettyItems (level : Nat) : List Value → List (List Char)
  | [] => []
  | v :: vs => prettyChars level v :: prettyItems level vs

def prettyMembers (level : Nat) : List (String × Value) → List (List Char)
  | [] => []
  | (k, v) :: ms => (quotedChars k ++ ':' :: ' ' :: prettyChars level v) :: prettyMembers level ms

end

/-- The indented form of a value. -/
def pretty (v : Value) : String :=
  String.ofList (prettyChars 0 v)

end Value

end CollectionArchive.Json
