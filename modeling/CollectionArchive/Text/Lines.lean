import CollectionArchive.Text.Utf8

/-!
# Lines of bytes

* `Bytes.pieces`: what stands between the line feeds.
* `Bytes.lines`: the lines of a file.
-/

namespace CollectionArchive.Bytes

/-- The byte at the end of a line. -/
def lineFeed : UInt8 := 10

/-- The byte that may stand before the line feed. -/
def carriageReturn : UInt8 := 13

/-- What stands between the line feeds. -/
def pieces (bs : Bytes) : List Bytes :=
  bs.splitOn lineFeed

/-- A line without a carriage return at its end. -/
def withoutReturn (line : Bytes) : Bytes :=
  if line.getLast? = some carriageReturn then line.dropLast else line

/-- The lines of a file, without what ends them. There is none after the last line feed. -/
def lines (bs : Bytes) : List Bytes :=
  let ps := bs.pieces
  ps.dropLast.map withoutReturn ++ (ps.getLast?.filter fun p => !p.isEmpty).toList

end CollectionArchive.Bytes
