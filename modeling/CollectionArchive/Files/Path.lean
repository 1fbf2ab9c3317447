/-!
# Paths of files

A path is a text of names with slashes between them. Empty names and single dots in it lead nowhere,
two dots lead back, and a path that starts with a slash is absolute.

* `FilePath.parent?`, `FilePath.name?`, `FilePath.stem?`: the parts of a path.
* `FilePath.join`: a path seen from a directory.
* `FilePath.starts`: the paths to what lies on the way.
-/

namespace CollectionArchive.FilePath

/-- Whether the path does not depend on where it is seen from. -/
def isAbsolute (path : String) : Bool :=
  path.toList.head? == some '/'

/-- The texts between the slashes. -/
def segments (path : String) : List String :=
  (path.toList.splitOn '/').map String.ofList

/-- Whether a text between slashes leads nowhere. -/
def isIdle (segment : String) : Bool :=
  segment == "" || segment == "."

/-- Path, written backwards, without the slashes and single dots at its end; a slash or dot at its
start stays. -/
def trimBack : List Char → List Char
  | ['/'] => ['/']
  | '/' :: cs => trimBack cs
  | '.' :: '/' :: cs => trimBack ('/' :: cs)
  | cs => cs

/-- The last name of a path and what is before it, both written backwards. -/
def splitBack (path : String) : List Char × List Char :=
  (trimBack path.toList.reverse).span (· != '/')

/-- The path without its last name. -/
def parent? (path : String) : Option String :=
  let (name, before) := splitBack path
  if name.isEmpty then none else some (String.ofList (trimBack before).reverse)

/-- The last name, if the path does not end where two dots lead. -/
def name? (path : String) : Option String :=
  let name := (splitBack path).1
  if name.isEmpty || name == ['.'] || name == ['.', '.'] then none
  else some (String.ofList name.reverse)

/-- A name without what follows its last dot, unless that is its only one and in front. -/
def withoutSuffix (name : String) : String :=
  match name.toList.reverse.dropWhile (· != '.') with
  | _ :: c :: cs => String.ofList (c :: cs).reverse
  | _ => name

/-- The last name without what follows its last dot. -/
def stem? (path : String) : Option String :=
  (name? path).map withoutSuffix

/-- A path seen from a directory. -/
def join (base path : String) : String :=
  if isAbsolute path || base.isEmpty then path
  else if base.toList.getLast? == some '/' then base ++ path
  else base ++ "/" ++ path

/-- The directory in which a file of the path lies. -/
def directory (path : String) : String :=
  match parent? path with
  | some "" => "."
  | some parent => parent
  | none => "."

/-- The paths that lead part of the way, and the path itself, shortest first. -/
def starts (path : String) : List String :=
  let names := segments path
  (List.range names.length).map fun i => "/".intercalate (names.take (i + 1))

end CollectionArchive.FilePath
