import CollectionArchive.Identifier.Basic
import CollectionArchive.Json.Reader
import CollectionArchive.Json.Writer

/-!
# Forms of identifiers

* `Identifier.json`, `Identifier.reader`: an identifier in JSON is a string, its written form.
* `Identifier.Form`: what may be given for an identifier, a text or the identifier itself.
-/

namespace CollectionArchive

namespace Identifier

/-- The JSON of an identifier: its written form. -/
def json (i : Identifier) : Json.Value :=
  .text i.text

/-- Reads an identifier from JSON. A string that is not the written form of one is misshapen. -/
def reader : Json.Reader Identifier := fun room t => do
  let s ← Json.Reader.text room t
  (parse s).mapError fun _ => .misshapen

/-- What may be given for an identifier. -/
inductive Form where
  | text (s : String)
  | itself (i : Identifier)

namespace Form

/-- The identifier of a form. A text is read, and an identifier stays as it is. -/
def identifier : Form → Except Invalid Identifier
  | text s => parse s
  | itself i => .ok i

/-- The text that is given, also for an identifier. -/
def writing : Form → String
  | text s => s
  | itself i => i.text

end Form

end Identifier

end CollectionArchive
