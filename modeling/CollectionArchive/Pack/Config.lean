import CollectionArchive.Json.Reader
import CollectionArchive.Json.Writer

/-!
# Settings of packs

* `PackConfig`: how a pack is written; `PackConfig.standard` is the default.
* `PackConfig.parse`, `PackConfig.json`: its text.
-/

namespace CollectionArchive

/-- How a pack is written. -/
structure PackConfig where
  compressionLevel : Int
deriving DecidableEq

namespace PackConfig

/-- What is used where nothing else is asked for. -/
def standard : PackConfig :=
  ⟨3⟩

/-- The record of the settings. Those that are missing have their default. -/
def record : Json.Record PackConfig PackConfig where
  fields :=
    [⟨"compression_level", fun _ room t =>
      return ⟨← Json.Reader.integer (-0x80000000) 0x7FFFFFFF room t⟩⟩]
  start := standard
  build? := some

/-- Reads settings from their text. -/
def parse (text : String) : Except Json.Fault PackConfig :=
  record.reader.parse text

/-- The text of settings. -/
def json (c : PackConfig) : String :=
  String.ofList (Json.braced [("compression_level", Decimal.intChars c.compressionLevel)])

end PackConfig

end CollectionArchive
