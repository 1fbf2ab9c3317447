import CollectionArchive.Archive.Basic
import CollectionArchive.Table

/-!
# Archives in memory

* `MemoryArchive`: the entries by path, and whether the archive is closed.
-/

namespace CollectionArchive

/-- An archive that is kept in memory. -/
structure MemoryArchive where
  entries : Table String Bytes
  ascending : Table.Ascending entries
  isClosed : Bool

namespace MemoryArchive

/-- An archive without entries that takes new ones. -/
def empty : MemoryArchive :=
  ⟨[], .nil, false⟩

/-- The archive with data under a path, in place of what was there. -/
def write (a : MemoryArchive) (path : String) (data : Bytes) : Except PackError MemoryArchive :=
  if a.isClosed then .error .closed
  else do
    Entry.checkPath path
    return { a with
      entries := a.entries.insert path data
      ascending := Table.ascending_insert a.ascending path data }

/-- The data under a path, also after closing. -/
def read (a : MemoryArchive) (path : String) : Except PackError Bytes :=
  Entry.orMissing path (a.entries.get? path)

/-- The paths that a pattern matches. -/
def list (a : MemoryArchive) (pattern : String) : Except PackError (List String) :=
  Entry.matching a.entries.keys pattern

/-- Ends writing, which can be done once. -/
def close (a : MemoryArchive) : Except PackError Unit × MemoryArchive :=
  if a.isClosed then (.error .closed, a) else (.ok (), { a with isClosed := true })

instance : Archive MemoryArchive where
  write := write
  read := read
  has a := a.entries.has
  list := list
  close := close

/-- A summary in one line. -/
def description (a : MemoryArchive) : String :=
  s!"InMemoryArchive \x7b entry_count: {a.entries.length}, closed: {a.isClosed} \x7d"

end MemoryArchive

end CollectionArchive
