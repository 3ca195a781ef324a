import ModuleGraph.Config.Arguments
import ModuleGraph.Report.Data
import ModuleGraph.Report.Lines

/-!
# The command line

The first argument says what is wanted, the graphs or only their cycles, and the others are a
configuration. The status tells whether all went well: nothing failed and, where cycles are asked
for, there are none.
-/

namespace ModuleGraph

/-- What the first argument can ask for. -/
inductive Command where
  | graph
  | cycles
  deriving DecidableEq, Repr

namespace Command

/-- The command of a name. -/
def ofName? : String → Option Command
  | "graph" => some .graph
  | "cycles" => some .cycles
  | _ => none

/-- The command and the configuration that arguments ask for. No option stands before the
command. -/
def ofArguments : List String → Except Config.UsageError (Command × Config)
  | [] => .error .missingRequiredArgument
  | name :: rest =>
    match ofName? name with
    | some command => do return (command, ← Config.ofArguments rest)
    | none =>
      if name = "help" || name = "-h" || name = "--help" then .error .displayHelp
      else .error .unknownArgument

/-- Whether a run is to end with the status of a failure. -/
def fails (command : Command) (run : Run) : Bool :=
  match command with
  | .graph => run.hasFailures
  | .cycles => run.cycleCount > 0 || run.hasFailures

/-- The report on a run, which took so many milliseconds. -/
def report (command : Command) (styled : Bool) (config : Config) (run : Run) (elapsed : String) :
    String :=
  if config.json then Report.dataText run
  else
    let manner : Report.Manner := ⟨styled, config.root⟩
    let lines := match command with
      | .graph => manner.graphLines run
      | .cycles => manner.cycleLines run
    Report.ofLines (lines ++ manner.closingLines run elapsed)

/-- What is written and the status at the end. -/
structure Answer where
  status : Nat
  /-- The output, given the milliseconds that the run took. -/
  output : String → String
  error : String

/-- Does what a command and a configuration ask for. -/
def answer [Source.Parser] [Monad m] (access : Access m) (styled : Bool) (command : Command)
    (config : Config) : m Answer := do
  match ← config.initialised access with
  | (.error refusal, _) => pure ⟨1, fun _ => "", refusal.report⟩
  | (.ok (), config) => do
    match ← config.run access with
    | .error refusal => pure ⟨1, fun _ => "", refusal.report⟩
    | .ok (run, _) =>
      pure ⟨if command.fails run then 1 else 0, command.report styled config run, ""⟩

end Command

end ModuleGraph
