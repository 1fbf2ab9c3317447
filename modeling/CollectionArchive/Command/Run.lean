import CollectionArchive.Command.Build
import CollectionArchive.Command.Inspect
import CollectionArchive.Command.Line

/-!
# Running a command

* `Request.run`: the report that is asked for, and the files afterwards.
* `Request.inputs`, `Request.output?`: the paths at which it looks, and the one at which it writes.
-/

namespace CollectionArchive

namespace Request

/-- The report on schemata in files. -/
def runCheck (format : ReportFormat) (f : Files) (paths : List String) :
    Except CommandError String := do
  let r ← CheckedRegistry.ofFiles f paths
  return Report.checked format (paths.filterMap FilePath.stem?) r.schemata.linkGraph r.outline

variable [Codec]

/-- The report on the archive of a manifest, which is written to `output?`, or else to where the
manifest says. Until then nodes wait in `buffers`. -/
def runBuild {δ β : Type} [BufferSource δ β] [Buffer β] (format : ReportFormat) (f : Files)
    (buffers : δ) (manifest : String) (output? : Option String) :
    Except CommandError String × Files :=
  match Manifest.load f manifest with
  | .error e => (.error e, f)
  | .ok m =>
    let path := output?.getD m.archive
    let (outcome, f) := m.build f path buffers
    (outcome.map (Report.built format path), f)

/-- The report on what is in an archive. -/
def runInspect (format : ReportFormat) (f : Files) (path : String) : Except CommandError String :=
  (Inventory.ofFile f path).map (Report.inspected format path)

/-- The report that is asked for, and the files afterwards. -/
def run (f : Files) (r : Request) : Except CommandError String × Files :=
  match r.command with
  | .check paths => (runCheck r.format f paths, f)
  | .build manifest output? => runBuild r.format f () manifest output?
  | .inspect path => (runInspect r.format f path, f)

/-! ## Paths -/

/-- The file that is written, as far as the files known so far tell. -/
def output? (f : Files) (r : Request) : Option String :=
  match r.command with
  | .build manifest output? => output?.or ((Manifest.load f manifest).toOption.map Manifest.archive)
  | _ => none

/-- The paths that a manifest names. -/
def sources (m : Manifest) : List String :=
  m.collections.flatMap fun c => c.schema :: c.records.toList

/-- The paths on which the report depends, as far as the files known so far tell. -/
def inputs (f : Files) (r : Request) : List String :=
  match r.command with
  | .check paths => paths
  | .build manifest _ =>
    manifest :: ((Manifest.load f manifest).toOption.elim [] sources ++ (r.output? f).toList)
  | .inspect path => [path]

end Request

end CollectionArchive
