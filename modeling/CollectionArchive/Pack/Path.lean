import CollectionArchive.Pack.Error

/-!
# Paths of entries

* `Entry.isValidPath`: paths are relative, and their names between slashes are not empty.
-/

namespace CollectionArchive.Entry

/-- The names between the slashes of a path. -/
def segments (path : String) : List (List Char) :=
  path.toList.splitOn '/'

/-- Whether a name leads somewhere by itself. -/
def isName (segment : List Char) : Bool :=
  !segment.isEmpty && segment != ['.'] && segment != ['.', '.']

/-- Whether a path is relative and made of names between slashes. -/
def isValidPath (path : String) : Bool :=
  (segments path).all isName && path.toList.all fun c => c != '\\' && c != '\x00'

/-- Refuses other paths. -/
def checkPath (path : String) : Except PackError Unit :=
  if isValidPath path then .ok () else .error (.invalidPath path)

end CollectionArchive.Entry
