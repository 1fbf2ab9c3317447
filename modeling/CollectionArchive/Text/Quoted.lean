import CollectionArchive.Text.Visible

/-!
# Quoted text in messages

Messages show a text between quotes, with the characters that do not show escaped.

* `Text.quoted`: the quoted form.
-/

namespace CollectionArchive.Text

/-- The digits of `n` in hexadecimal, in lower case. -/
def hexDigits (n : Nat) : List Char :=
  Nat.toDigits 16 n

/-- One character of a quoted text. -/
def escaped (c : Char) : List Char :=
  if c == '"' then ['\\', '"']
  else if c == '\\' then ['\\', '\\']
  else if c == '\n' then ['\\', 'n']
  else if c == '\r' then ['\\', 'r']
  else if c == '\t' then ['\\', 't']
  else if c == '\x00' then ['\\', '0']
  else if isVisible c then [c]
  else "\\u\x7b".toList ++ hexDigits c.toNat ++ ['\x7d']

/-- A text between quotes, with its quotes, backslashes and invisible characters escaped. -/
def quoted (s : String) : String :=
  String.ofList ('"' :: s.toList.flatMap escaped ++ ['"'])

end CollectionArchive.Text
