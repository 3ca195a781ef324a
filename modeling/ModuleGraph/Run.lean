import ModuleGraph.Config.Basic

/-!
# Runs

A run builds one graph for each file that a configuration names, all in one session, and keeps the
results in the order in which the files were given. One that cannot be built does not keep the
others from being built.
-/

namespace ModuleGraph

/-- What became of one of the files that a run starts from. -/
structure EntryResult where
  entry : String
  outcome : Except Failure Outcome
  deriving Repr

/-- The results of a run. -/
structure Run where
  entries : List EntryResult
  filesAnalyzed : Nat
  deriving Repr

namespace EntryResult

/-- The outcome, if there is one. -/
def outcome? (result : EntryResult) : Option Outcome :=
  result.outcome.toOption

/-- All failures: those that were noted, or the one that ended the walk. -/
def failures (result : EntryResult) : List Failure :=
  match result.outcome with
  | .ok outcome => outcome.failures
  | .error failure => [failure]

end EntryResult

namespace Run

/-- Whether anything could not be expanded. -/
def hasFailures (run : Run) : Bool :=
  run.entries.any fun result => !result.failures.isEmpty

/-- The number of cycles that were found. -/
def cycleCount (run : Run) : Nat :=
  (run.entries.filterMap fun result => result.outcome?.map (·.cycles.length)).foldr (· + ·) 0

/-- The number of files whose walk was given up. -/
def failedCount (run : Run) : Nat :=
  run.entries.countP fun result => !result.outcome.isOk

/-- The number of failures that were noted. -/
def recordedCount (run : Run) : Nat :=
  (run.entries.filterMap fun result => result.outcome?.map (·.failures.length)).foldr (· + ·) 0

end Run

/-- What is said when a file that a run starts from was given up. -/
def EntryResult.warnings (result : EntryResult) : List String :=
  match result.outcome with
  | .ok _ => []
  | .error failure => ["Error building graph for " ++ result.entry ++ ": " ++ failure.message]

namespace Session

/-- Builds graphs one after the other, with what is said meanwhile. -/
def buildAll [Source.Parser] [Monad m] (access : Access m) :
    List String → Session → m (List EntryResult × List String × Session)
  | [], session => pure ([], [], session)
  | entry :: rest, session => do
    let (build, session) ← session.build access entry
    let result : EntryResult := ⟨entry, build.result⟩
    let (results, warnings, session) ← buildAll access rest session
    let said := build.findings.map Finding.warning ++ result.warnings
    pure (result :: results, said ++ warnings, session)

end Session

/-- Runs what a configuration asks for. Beside the results stands all that is said meanwhile;
unusual extensions are complained about where they are written and once more where they are
used. -/
def Config.run [Source.Parser] [Monad m] (access : Access m) (config : Config) :
    m (Except Refusal (Run × List String)) := do
  match ← config.initialised access with
  | (.error refusal, _) => pure (.error refusal)
  | (.ok (), config) =>
    if config.entries.isEmpty then pure (.error .noEntries)
    else do
      let options := config.options
      let (entries, said, session) ← (Session.fresh options).buildAll access config.entries
      let complaints :=
        Extension.warnings config.extensions ++ Extension.warnings options.extensions
      pure (.ok (⟨entries, session.filesParsed⟩, complaints ++ said))

end ModuleGraph
