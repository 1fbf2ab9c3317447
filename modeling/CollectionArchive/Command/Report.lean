import CollectionArchive.Registry.Basic

/-!
# Reports

* `ReportFormat`: what a report is written in.
* `Report.checked`, `Report.built`, `Report.inspected`: the reports of the commands.
-/

namespace CollectionArchive

open Json (Value)

/-- What a report is written in. -/
inductive ReportFormat where
  | text
  | json
deriving DecidableEq

/-- The format of a name. -/
def ReportFormat.ofName? : String → Option ReportFormat
  | "text" => some text
  | "json" => some json
  | _ => none

/-- What a pack holds: for each entry its path, its size, and the number of its nodes if it holds
nodes. -/
structure Inventory where
  checksum : Bytes
  entries : List (String × Nat × Option Nat)
  metadata : Value

namespace Report

/-- An object in JSON on several lines. -/
def object (members : List (String × Value)) : String :=
  (Value.object (Table.ofList members)).pretty ++ "\n"

/-- A line of a report. -/
def line (s : String) : String :=
  s ++ "\n"

/-- The report on schemata that have been checked. -/
def checked (format : ReportFormat) (names : List String) (graph : Table String (List String))
    (outline : String) : String :=
  match format with
  | .json =>
    object [("collections", .texts names),
      ("links", .object (graph.map fun e => (e.1, .texts e.2)))]
  | .text => line s!"✓ {names.length} schemata checked" ++ "\n" ++ line outline

/-- The counts of nodes, the largest first. -/
def byCount (counts : Table String Nat) : List (String × Nat) :=
  counts.mergeSort fun a b => b.2 ≤ a.2

/-- The report on an archive that has been built. -/
def built (format : ReportFormat) (path : String) (s : Summary) : String :=
  match format with
  | .json =>
    object [("archive", .text path),
      ("node_counts", .object (s.nodeCounts.map fun e => (e.1, .nat e.2))),
      ("entries", .texts s.entries)]
  | .text =>
    String.join ((byCount s.nodeCounts).map fun e =>
      line (Text.padEnd 40 e.1 ++ s!" -> wrote {e.2} nodes")) ++
    line "" ++ line "Archive contents:" ++
    String.join (s.entries.map fun e => line ("  " ++ e)) ++
    line "" ++ line ("✓ Archive at " ++ path)

/-- The line of an entry. -/
def entryLine (e : String × Nat × Option Nat) : String :=
  let nodes := e.2.2.elim "" fun n => s!"  {n} nodes"
  let size := Text.padStart 10 (toString e.2.1)
  line ("    " ++ Text.padEnd 40 e.1 ++ " " ++ size ++ " bytes" ++ nodes)

/-- An entry in JSON. -/
def entryJson (e : String × Nat × Option Nat) : Value :=
  .object (Table.ofList [("path", .text e.1), ("size", .nat e.2.1),
    ("nodes", e.2.2.elim .null .nat)])

/-- The report on what a pack holds. -/
def inspected (format : ReportFormat) (path : String) (i : Inventory) : String :=
  match format with
  | .json =>
    object [("archive", .text path), ("checksum", .text (Bytes.hex i.checksum)),
      ("entries", .array (i.entries.map entryJson)), ("meta", i.metadata)]
  | .text =>
    line ("Archive " ++ path) ++ line ("  Checksum: " ++ Bytes.hex i.checksum) ++
    line s!"  Entries: {i.entries.length}" ++ String.join (i.entries.map entryLine) ++
    line ("  Meta: " ++ i.metadata.pretty)

end Report

end CollectionArchive
