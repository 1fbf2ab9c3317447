import CollectionArchive.Address.Percent

/-!
# Paths of addresses

A path is a list of segments, each after a slash. The segments `.` and `..` stay in a directory and
leave it.

* `Address.Path`: the paths.
* `Path.ofPieces`: the path that the pieces between slashes make.
-/

namespace CollectionArchive.Address

/-- The path of an address. -/
inductive Path where
  /-- A text that is no list of segments. -/
  | whole (text : String)
  | segments (parts : List String)
deriving DecidableEq

namespace Path

/-- The written form. -/
def text : Path → String
  | whole text => text
  | segments parts => String.join (parts.map ("/" ++ ·))

/-- Whether the first of several segments is empty, so that the written form starts with two
slashes. -/
def startsEmpty : Path → Bool
  | segments ("" :: _ :: _) => true
  | _ => false

/-- A letter and a colon or bar: the name of a drive. -/
def isDrive : List Char → Bool
  | [c, mark] => c.isAlpha && (mark == ':' || mark == '|')
  | _ => false

/-- Whether a segment starts with the name of a drive that ends there. -/
def startsWithDrive (cs : List Char) : Bool :=
  isDrive (cs.take 2) && (cs.drop 2).head?.all (['/', '\\', '?', '#'].contains ·)

/-- The spellings of a point. -/
def points : List (List Char) :=
  [".", "%2e", "%2E"].map String.toList

/-- Whether a segment stays in the directory. -/
def isHere (cs : List Char) : Bool :=
  points.contains cs

/-- Whether a segment leaves the directory. -/
def isAbove (cs : List Char) : Bool :=
  points.any fun p => p.isPrefixOf cs && points.contains (cs.drop p.length)

/-- The directory above one, given by its segments from the last to the first. That of a drive is
the drive. -/
def above : List (List Char) → List (List Char)
  | [] => []
  | last :: rest => if startsWithDrive last then last :: rest else rest

/-- The name of a drive with a colon. -/
def driveName (cs : List Char) : List Char :=
  cs.take 1 ++ [':']

/-- The segments of pieces between slashes, from the last to the first, in the directory `done`. In
an address of a file the first segment may be a drive. -/
def resolve (isFile : Bool) : (done pieces : List (List Char)) → List (List Char)
  | done, [] => done
  | done, piece :: rest =>
    let last := rest.isEmpty
    if isAbove piece then resolve isFile (if last then [] :: above done else above done) rest
    else if isHere piece then resolve isFile (if last then [] :: done else done) rest
    else if isFile && done.isEmpty && isDrive piece then resolve isFile [driveName piece] rest
    else resolve isFile (piece :: done) rest

/-- Whether the first segment names a drive when the pieces are resolved. -/
def namesDrive : (done pieces : List (List Char)) → Bool
  | _, [] => false
  | done, piece :: rest =>
    if isAbove piece then namesDrive (above done) rest
    else if isHere piece then namesDrive done rest
    else (done.isEmpty && isDrive piece) || namesDrive (piece :: done) rest

/-- Leading empty segments of a file's path do not count. -/
def trimEmpty : List (List Char) → List (List Char)
  | [] :: next :: rest => trimEmpty (next :: rest)
  | parts => parts

/-- The path of pieces between slashes. -/
def ofPieces (isFile : Bool) (pieces : List (List Char)) : Path :=
  let parts := (resolve isFile [] (pieces.map (encode inPath))).reverse
  segments ((if isFile then trimEmpty parts else parts).map String.ofList)

end Path

end CollectionArchive.Address
