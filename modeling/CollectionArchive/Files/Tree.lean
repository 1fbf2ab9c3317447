import CollectionArchive.Table
import CollectionArchive.Text.Utf8

/-!
# Trees of files

* `FileTree`: files and directories under their names.
* `FileTree.Place`: the names that lead from the top to one of them.
* `FileTree.at?`, `FileTree.put`, `FileTree.erase`: what is at a place, and changes of it.
-/

namespace CollectionArchive

/-- A file, or a directory of files and directories. -/
inductive FileTree where
  | file (content : Bytes)
  | directory (entries : List (String × FileTree))

namespace FileTree

/-- The names that lead from the top to a file or directory. -/
abbrev Place := List String

/-- A directory without anything in it. -/
def empty : FileTree :=
  directory []

def isDirectory : FileTree → Bool
  | file _ => false
  | directory _ => true

/-- The content of a file. -/
def content? : FileTree → Option Bytes
  | file content => some content
  | directory _ => none

/-- What is in a directory; nothing is in a file. -/
def entries : FileTree → Table String FileTree
  | file _ => []
  | directory es => es

/-- What is at a place. -/
def at? (t : FileTree) : Place → Option FileTree
  | [] => some t
  | name :: rest => (t.entries.get? name).elim none fun u => at? u rest

/-- The tree with something at a place, in place of what was there. -/
def put (t : FileTree) (new : FileTree) : Place → FileTree
  | [] => new
  | name :: rest =>
    directory (t.entries.insert name (put ((t.entries.get? name).getD empty) new rest))

/-- The tree without what is at a place. -/
def erase (t : FileTree) : Place → FileTree
  | [] => t
  | [name] => directory (t.entries.erase name)
  | name :: rest =>
    (t.entries.get? name).elim t fun u => directory (t.entries.insert name (erase u rest))

end FileTree

end CollectionArchive
