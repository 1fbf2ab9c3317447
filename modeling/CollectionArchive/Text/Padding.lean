/-!
# Columns of text

* `Text.padEnd`, `Text.padStart`: a text filled up with blanks to a number of characters.
-/

namespace CollectionArchive.Text

/-- Blanks that fill a text up to a number of characters. -/
def fill (width : Nat) (s : String) : String :=
  String.ofList (List.replicate (width - s.length) ' ')

/-- A text at the left of a column. -/
def padEnd (width : Nat) (s : String) : String :=
  s ++ fill width s

/-- A text at the right of a column. -/
def padStart (width : Nat) (s : String) : String :=
  fill width s ++ s

end CollectionArchive.Text
