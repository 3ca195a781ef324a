import ModuleGraph.Json
import ModuleGraph.Run

/-!
# Reports for programs

The results of a run as JSON: one object for each file the run started from. Paths are absolute
here, other than the one that the user gave.
-/

namespace ModuleGraph.Report

/-- A list of files. -/
def filesData (files : List Location) : Json :=
  .array (files.map fun file => .string file.text)

/-- A file with what it depends on. -/
def nodeData (node : Location × List Location) : Json :=
  .object [("path", .string node.1.text), ("dependencies", filesData node.2)]

/-- A failure. -/
def failureData (failure : Failure) : Json :=
  .object [("kind", .string failure.kind), ("file", .string failure.file),
    ("specifier", match failure.specifier? with
      | some specifier => .string specifier
      | none => .null),
    ("message", .string failure.message)]

/-- What became of one of the files that a run started from. A file whose walk was given up has one
failure and nothing else. -/
def entryData (result : EntryResult) : Json :=
  let nodes := match result.outcome with
    | .ok outcome => outcome.graph.nodes
    | .error _ => []
  let cycles := match result.outcome with
    | .ok outcome => outcome.cycles
    | .error _ => []
  .object [("entry", .string result.entry), ("nodes", .array (nodes.map nodeData)),
    ("cycles", .array (cycles.map fun cycle => filesData cycle.chain)),
    ("errors", .array (result.failures.map failureData))]

/-- The results of a run. -/
def data (run : Run) : Json :=
  .array (run.entries.map entryData)

/-- The results of a run, as it is written. -/
def dataText (run : Run) : String :=
  (data run).text ++ "\n"

end ModuleGraph.Report
