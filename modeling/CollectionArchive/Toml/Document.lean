import CollectionArchive.Toml.Members
import CollectionArchive.Toml.Number

/-!
# TOML documents

* `Toml.Scanner.value`: values with brackets within each other.
* `Toml.Statement`: what a line of a document says.
* `Toml.parse?`: the table that a document writes.
-/

namespace CollectionArchive.Toml

namespace Scanner

/-- A comma with blanks, line breaks and comments around it, if there is something after it. -/
def itemComma : Scanner Unit := do
  gap
  mark ','
  gap
  if ← looksAt "]" then failure

/-- The items of an array up to its closing bracket. -/
def arrayRest (nested : Scanner Value) : Scanner Value := do
  gap
  if ← looksAt "]" then
    mark ']'
    return .array []
  let size := (← get).length
  let items ← separated nested itemComma size
  gap
  let _ ← optional (mark ',')
  gap
  mark ']'
  return .array items

/-- An assignment of a value to a key. -/
def assignment (nested : Scanner Value) : Scanner (List String × Value) := do
  let k ← key
  blanks
  mark '='
  blanks
  return (k, ← nested)

/-- A comma with blanks around it. -/
def memberComma : Scanner Unit := do
  blanks
  mark ','
  blanks

/-- The table that assignments make. -/
def tableOf? (assignments : List (List String × Value)) : Option Value :=
  .table .inline <$> assignments.foldlM (fun ms a => Members.assign? a.2 a.1 ms) []

/-- The assignments of a table between braces up to the closing one. -/
def inlineRest (nested : Scanner Value) : Scanner Value := do
  blanks
  if ← looksAt "\x7d" then
    mark '\x7d'
    return .table .inline []
  let size := (← get).length
  let assignments ← separated (assignment nested) memberComma size
  blanks
  mark '\x7d'
  (tableOf? assignments).elim failure pure

/-- A truth value. -/
def boolean : Scanner Bool :=
  (do word "true"; return true) <|> (do word "false"; return false)

/-- A value without brackets. -/
def scalar : Scanner Value :=
  .text <$> string <|> .boolean <$> boolean <|> .moment <$> moment <|> .float <$> float <|>
    .integer <$> integer

/-- A value, in which brackets may be opened within each other so many times. -/
def value : (levels : Nat) → Scanner Value
  | 0 => scalar
  | levels + 1 => do
    match ← optional (char fun c => c == '[' || c == '\x7b') with
    | none => scalar
    | some c => if c == '[' then arrayRest (value levels) else inlineRest (value levels)

end Scanner

/-- What a line of a document says. -/
inductive Statement where
  | nothing
  | assign (key : List String) (v : Value)
  | table (header : List String)
  /-- One more table of a header that may be repeated. -/
  | element (header : List String)

namespace Scanner

/-- The key of a header, up to its closing brackets. -/
def header (closing : String) : Scanner (List String) := do
  blanks
  let k ← key
  blanks
  word closing
  return k

/-- What a line says. -/
def statement : Scanner Statement := do
  blanks
  if ← looksAt "[[" then
    word "[["
    return .element (← header "]]")
  else if ← looksAt "[" then
    word "["
    return .table (← header "]")
  else
    match ← optional (assignment (value (limit - 1))) with
    | some (k, v) => return .assign k v
    | none => return .nothing

/-- The lines of a document, of which there are at most so many. -/
def statements : (lines : Nat) → Scanner (List Statement)
  | 0 => do ending; return []
  | lines + 1 => do
    if (← get).isEmpty then return []
    let s ← statement
    lineEnd
    return s :: (← statements lines)

end Scanner

/-- A document while it is read: its table, and the header under which the next lines stand. -/
structure Draft where
  root : Members := []
  header : List String := []

namespace Draft

/-- The document with one more statement. -/
def add? (d : Draft) : Statement → Option Draft
  | .nothing => some d
  | .assign k v => return { d with root := ← Members.descend (Members.assign? v k) d.header d.root }
  | .table header => return ⟨← Members.openTable? header d.root, header⟩
  | .element header => return ⟨← Members.openElement? header d.root, header⟩

end Draft

/-- The text with line feeds as line breaks. -/
def unixLines : List Char → List Char
  | '\r' :: '\n' :: cs => '\n' :: unixLines cs
  | c :: cs => c :: unixLines cs
  | [] => []

/-- The text without a mark of the order of bytes at its start. -/
def withoutMark : List Char → List Char
  | '\ufeff' :: cs => cs
  | cs => cs

/-- The table that a document writes. -/
def parse? (text : String) : Option Members := do
  let cs := unixLines (withoutMark text.toList)
  let (statements, _) ← Scanner.statements (cs.length + 1) cs
  let d ← statements.foldlM Draft.add? {}
  return d.root

end CollectionArchive.Toml
