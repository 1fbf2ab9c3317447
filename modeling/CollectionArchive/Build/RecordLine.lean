import CollectionArchive.Json.Reader

/-!
# Lines of records

A file of records has one on each line that is not blank: the title of a node, its cover images and
the values of its properties.

* `RecordLine`: the type; the properties keep their order, and a key may come twice.
* `RecordLine.parse`: reads one from JSON.
-/

namespace CollectionArchive

open Json (Reader Value)

/-- What a node is made from. -/
structure RecordLine where
  title : String
  coverImages : List String
  properties : List (String × Value)

namespace RecordLine

/-- The members of a record that are read so far. -/
structure Draft where
  title : Option String := none
  coverImages : List String := []
  properties : List (String × Value) := []

/-- The shape of a record, which must have a title. -/
def shape : Json.Record Draft RecordLine where
  fields :=
    [⟨"title", fun d room t => return { d with title := some (← Reader.text room t) }⟩,
      ⟨"coverImages", fun d room t =>
        return { d with coverImages := ← Reader.list Reader.text room t }⟩,
      ⟨"properties", fun d room t => return { d with properties := ← Reader.members room t }⟩]
  start := {}
  build? := fun d => d.title.map fun title => ⟨title, d.coverImages, d.properties⟩

/-- Reads a record from its text. -/
def parse (text : String) : Except Json.Fault RecordLine :=
  shape.reader.parse text

end RecordLine

end CollectionArchive
