import CollectionArchive.Command.Run
import CollectionArchive.Command.Usage
import CollectionArchive.Pack.Standard

/-!
# The program

It looks at the files that a command line names, runs the command on them, and writes what has
changed.

* `main`: the program.
-/

namespace CollectionArchive.Program

/-- The files with what the disk has at a path. -/
def look (f : Files) (path : String) : IO Files := do
  if ← ((← IO.currentDir) / path).isDir then
    return (f.makeDirectories? path).getD f
  else
    match ← (IO.FS.readBinFile path).toBaseIO with
    | .ok content => return (f.write? path content.toList).getD f
    | .error _ => return f

/-- The files with what the disk has at a path and on the way there. -/
def lookAlong (f : Files) (path : String) : IO Files :=
  (FilePath.starts path).foldlM look f

/-- The files on the disk that matter to a request. What a manifest names is known only when the
manifest is. -/
def gather (r : Request) : IO Files := do
  let place := FilePath.segments (← IO.currentDir).toString
  let nothing := Files.empty (place.filter fun segment => !segment.isEmpty)
  let f ← (r.inputs nothing).foldlM lookAlong nothing
  (r.inputs f).foldlM lookAlong f

/-- Brings the file that a request has written to the disk. -/
def save (before after : Files) (path : String) : IO Unit := do
  let directory := FilePath.directory path
  if after.hasDirectory directory then IO.FS.createDirAll directory
  match after.read? path with
  | some content =>
    if before.read? path != some content then IO.FS.writeBinFile path ⟨content.toArray⟩
  | none => return

/-- Runs a request and tells its exit code. -/
def serve (r : Request) : IO UInt32 := do
  let before ← gather r
  let (outcome, after) := r.run before
  if let some path := r.output? before then save before after path
  match outcome with
  | .ok report =>
    IO.print report
    return 0
  | .error e =>
    IO.eprintln ("Error: " ++ e.message)
    return 1

end CollectionArchive.Program

open CollectionArchive in
/-- Reads the command line and does what it asks for. -/
def main (arguments : List String) : IO UInt32 :=
  match Request.parse arguments with
  | .ok r => Program.serve r
  | .error e =>
    if e.isFailure then do
      IO.eprintln e.message
      return 2
    else do
      IO.println e.message
      return 0
