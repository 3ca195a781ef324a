import ModuleGraph.Path.Relative
import ModuleGraph.Report.Style
import ModuleGraph.Run

/-!
# Reports for readers

The lines that show the results of a run: the graph of every file it started from, or only the
cycles. Paths are shown relative to the root directory where they are below it.
-/

namespace ModuleGraph.Report

/-- How a report is written: with styles or without, and the directory relative to which paths are
shown. -/
structure Manner where
  styled : Bool
  root : Option String
  deriving DecidableEq, Repr

/-- The text of lines. -/
def ofLines (lines : List String) : String :=
  String.join (lines.map (· ++ "\n"))

namespace Manner

variable (manner : Manner)

/-- A path as it is shown. -/
def path (path : String) : String :=
  Path.display manner.root path

/-- A file of a graph as it is shown. -/
def file (file : Location) : String :=
  manner.path file.text

/-- A text in the style of a part. -/
def paint (role : Role) (text : String) : String :=
  Report.paint manner.styled role text

/-- A number that is counted. -/
def count (role : Role) (n : Nat) : String :=
  manner.paint role (toString n)

/-- A file with what it depends on. -/
def nodeLine (node : Location × List Location) : String :=
  manner.file node.1 ++ " -> " ++ String.intercalate ", " (node.2.map manner.file)

/-- A cycle. -/
def cycleLine (cycle : Cycle) : String :=
  manner.paint .caution "⚠" ++ " Cyclic dependency detected: " ++ cycle.text manner.file

/-- What a failure says of its file. -/
def failureText : Failure → String
  | .unreadable path cause => manner.path path ++ ": " ++ cause.message
  | .malformed path complaint => manner.path path ++ ": " ++ complaint
  | .unresolved specifier path _ =>
    "cannot resolve module '" ++ specifier ++ "' from " ++ manner.path path

/-- A failure. -/
def failureLine (failure : Failure) : String :=
  manner.paint .error ("error[" ++ failure.kind ++ "]:") ++ " " ++ manner.failureText failure

/-- The lines about one of the files that a run started from. -/
def entryLines (result : EntryResult) : List String :=
  let name := manner.paint .entry (manner.path result.entry)
  match result.outcome with
  | .ok outcome =>
    let counts := manner.count .count outcome.graph.nodeCount ++ " files, "
      ++ manner.count .count outcome.graph.edgeCount ++ " edges"
    [manner.paint .bullet "●" ++ " " ++ name ++ " (" ++ counts ++ ")"]
      ++ outcome.graph.nodes.map (fun node => "  " ++ manner.nodeLine node)
      ++ outcome.cycles.map manner.cycleLine
      ++ outcome.failures.map manner.failureLine
      ++ [""]
  | .error failure => [manner.paint .error "✗" ++ " " ++ name, manner.failureLine failure, ""]

/-- The lines that sum a run up. -/
def summaryLines (run : Run) : List String :=
  [manner.paint .rule (String.ofList (List.replicate 60 '─')),
    manner.paint .heading "Summary",
    "  Entries: " ++ manner.count .count run.entries.length,
    "  Files analyzed: " ++ manner.count .count run.filesAnalyzed,
    "  Cycles: " ++ manner.count .cycles run.cycleCount]
  ++ if run.failedCount > 0 || run.recordedCount > 0 then
      ["  Errors: " ++ manner.count .error run.failedCount ++ " failed entries, "
        ++ manner.count .recorded run.recordedCount ++ " recorded"]
    else []

/-- The report on all graphs. -/
def graphLines (run : Run) : List String :=
  run.entries.flatMap manner.entryLines ++ manner.summaryLines run

/-- The line that says that there are no cycles. -/
def allClear : String :=
  manner.paint .success "✓" ++ " No cyclic dependencies detected."

/-- The lines about the cycles behind one of the files that a run started from. -/
def entryCycleLines (result : EntryResult) : List String :=
  match result.outcome with
  | .ok outcome =>
    if outcome.cycles.isEmpty then []
    else
      [manner.paint .path (manner.path result.entry)] ++
        outcome.cycles.map manner.cycleLine ++ [""]
  | .error failure => [manner.failureLine failure]

/-- The report on all cycles. -/
def cycleLines (run : Run) : List String :=
  (if run.cycleCount = 0 then [manner.allClear] else []) ++
    run.entries.flatMap manner.entryCycleLines

/-- The line at the end of a report, which also says how many milliseconds the run took. -/
def closingLines (run : Run) (elapsed : String) : List String :=
  ["", manner.paint .bullet "●" ++ " Finished in " ++ manner.paint .count elapsed ++ "ms on "
    ++ manner.count .count run.filesAnalyzed ++ " files."]

end Manner

end ModuleGraph.Report
