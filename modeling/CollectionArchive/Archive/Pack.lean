import CollectionArchive.Archive.Basic
import CollectionArchive.Files.Basic
import CollectionArchive.Pack.Config
import CollectionArchive.Pack.Reading
import CollectionArchive.Pack.Writing

/-!
# Archives in pack files

Entries wait in memory until the archive is closed, when they are written to a file in one piece.
From then on they are read from the file as it was written.

* `PackArchive`: such an archive, and the files around it.
* `PackArchive.create`, `PackArchive.openFile`: an archive for a new file, and one with the entries
  of a file that is there.
-/

namespace CollectionArchive

/-- An archive that is kept in a pack file. -/
structure PackArchive where
  files : Files
  path : String
  config : PackConfig
  /-- The entries that are not written yet, until the archive is closed. -/
  pending : Option (List Entry)
  /-- The file as it was written. -/
  written : Option Pack

namespace PackArchive

/-- What there is, or the failure of a file. -/
def orUnreadable {α : Type} (x : Option α) : Except PackError α :=
  x.elim (.error .unreadable) .ok

/-- An archive with entries that wait to be written. -/
def ofEntries (files : Files) (path : String) (config : PackConfig) (entries : List Entry) :
    PackArchive :=
  ⟨files, path, config, some entries, none⟩

/-- An archive for a new file. The directory of the file is made. -/
def create (files : Files) (path : String) (config : PackConfig) :
    Except PackError PackArchive :=
  if files.hasDirectory path then .error (.invalidPath path)
  else do
    let files ← orUnreadable (files.makeDirectories? (FilePath.directory path))
    return ofEntries files path config []

variable [Codec]

/-- Opens the pack in a file. -/
def readPack (files : Files) (path : String) : Except PackError Pack := do
  Pack.decode (← orUnreadable (files.read? path))

/-- The entries of a pack with their data, whose paths have to be valid. -/
def entriesOf (p : Pack) : Except PackError (List Entry) :=
  p.entries.foldlM (fun entries e => do Entry.put entries e.path (← Pack.dataOf e)) []

/-- An archive with the entries of a file, or without entries if there is no file. -/
def openFile (files : Files) (path : String) (config : PackConfig) :
    Except PackError PackArchive := do
  let entries ←
    if files.has path then do entriesOf (← readPack files path) else pure []
  return ofEntries files path config entries

/-- The archive with data under a path, in place of what was there. -/
def write (a : PackArchive) (path : String) (data : Bytes) : Except PackError PackArchive := do
  let entries ← a.pending.elim (.error .closed) .ok
  return { a with pending := some (← Entry.put entries path data) }

/-- The data under a path. -/
def read (a : PackArchive) (path : String) : Except PackError Bytes := do
  match a.pending, a.written with
  | some entries, _ => Entry.orMissing path (Entry.get? entries path)
  | none, some pack => Entry.orMissing path (← pack.read path)
  | none, none => .error .closed

/-- The paths in the order of the entries. -/
def paths? (a : PackArchive) : Option (List String) :=
  (a.pending.map Entry.paths).or (a.written.map Pack.paths)

/-- Whether there is data under a path. -/
def has (a : PackArchive) (path : String) : Bool :=
  a.paths?.any fun paths => paths.contains path

/-- The paths that a pattern matches. -/
def list (a : PackArchive) (pattern : String) : Except PackError (List String) :=
  a.paths?.elim (.error .closed) fun paths => Entry.matching paths pattern

/-- Whether the archive takes no more data. -/
def isClosed (a : PackArchive) : Bool :=
  a.pending.isNone

/-- The files with those of a pack written. Its directory is made if it is not there. -/
def save (files : Files) (path : String) (pack : Bytes) : Except PackError Files := do
  let files ← orUnreadable (files.makeDirectories? (FilePath.directory path))
  orUnreadable (files.write? path pack)

/-- Writes the file and reads it back. The entries are lost if that fails. -/
def close (a : PackArchive) : Except PackError Unit × PackArchive :=
  match a.pending with
  | none => (.error .closed, a)
  | some entries =>
    let a := { a with pending := none }
    match Pack.encode a.config.compressionLevel entries >>= save a.files a.path with
    | .error e => (.error e, a)
    | .ok files =>
      let a := { a with files }
      match readPack files a.path with
      | .error e => (.error e, a)
      | .ok pack => (.ok (), { a with written := some pack })

instance : Archive PackArchive where
  write := write
  read := read
  has := has
  list := list
  close := close

end PackArchive

end CollectionArchive
