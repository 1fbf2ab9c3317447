import CollectionArchive.Files.Path
import CollectionArchive.Files.Tree

/-!
# Files

A file is found by a path that starts at the top of a tree, or where one stands in it.

* `Files`: a tree of files and the directory from which it is seen.
* `Files.resolve?`: the place to which a path leads.
* `Files.read?`, `Files.write?`, `Files.makeDirectories?`, `Files.remove?`: what can be done at a
  path; each fails where a file stands in the way or something is missing.
-/

namespace CollectionArchive

/-- A tree of files and the directory from which it is seen. -/
structure Files where
  tree : FileTree
  here : FileTree.Place

namespace Files

/-- Nothing but the directory from which it is seen. -/
def empty (here : FileTree.Place) : Files :=
  ⟨FileTree.empty.put .empty here, here⟩

/-- What is at a place. -/
def at? (f : Files) (place : FileTree.Place) : Option FileTree :=
  f.tree.at? place

/-- The files with something at a place. -/
def put (f : Files) (new : FileTree) (place : FileTree.Place) : Files :=
  { f with tree := f.tree.put new place }

/-- The place from which a path starts. -/
def start (f : Files) (path : String) : FileTree.Place :=
  if FilePath.isAbsolute path then [] else f.here

/-- The place to which a path leads, where each step may change the files. Every step starts from a
directory; from the top two dots lead nowhere. -/
def follow? (onMissing : Files → FileTree.Place → Files) (path : String) (f : Files) :
    Option (Files × FileTree.Place) :=
  (FilePath.segments path).foldlM (fun (f, place) segment =>
    if !(f.at? place).any FileTree.isDirectory then none
    else if FilePath.isIdle segment then some (f, place)
    else if segment == ".." then some (f, place.dropLast)
    else
      let next := place ++ [segment]
      some (if (f.at? next).isNone then onMissing f next else f, next)) (f, f.start path)

/-- The place to which a path leads; there need not be anything at it. -/
def resolve? (f : Files) (path : String) : Option FileTree.Place :=
  if path.isEmpty then none else Prod.snd <$> follow? (fun f _ => f) path f

/-- What is at a path. -/
def find? (f : Files) (path : String) : Option FileTree :=
  f.resolve? path >>= f.at?

/-- Whether there is something at a path. -/
def has (f : Files) (path : String) : Bool :=
  (f.find? path).isSome

/-- Whether there is a directory at a path. -/
def hasDirectory (f : Files) (path : String) : Bool :=
  (f.find? path).any FileTree.isDirectory

/-- The content of the file at a path. -/
def read? (f : Files) (path : String) : Option Bytes :=
  f.find? path >>= FileTree.content?

/-- The content of the file at a path, as a text. -/
def readText? (f : Files) (path : String) : Option String :=
  f.read? path >>= Bytes.text?

/-- The files with one at a path, whose directory has to be there. -/
def write? (f : Files) (path : String) (content : Bytes) : Option Files := do
  let place ← f.resolve? path
  if (f.at? place).any FileTree.isDirectory then none else return f.put (.file content) place

/-- The files with directories all along a path. -/
def makeDirectories? (f : Files) (path : String) : Option Files := do
  let (f, place) ← follow? (fun f place => f.put .empty place) path f
  if (f.at? place).any FileTree.isDirectory then return f else none

/-- The files without the one at a path. -/
def remove? (f : Files) (path : String) : Option Files := do
  let place ← f.resolve? path
  if ((f.at? place) >>= FileTree.content?).isSome then return { f with tree := f.tree.erase place }
  else none

end Files

end CollectionArchive
