import ModuleGraph.Proofs.Json.Reader
import ModuleGraph.Report.Data

/-!
# What a report for programs tells

A report is one JSON value, whatever the names and messages in it are made of, and everything that
a run has found can be had from it again: the files with what they depend on, the cycles and the
failures, each of them in its order. What that is, an `Account` says for each of the files that the
run started from, and `Report.account?` takes it from the JSON.
-/

namespace ModuleGraph

/-! ## Parts of values -/

namespace Json

/-- The text of a string. -/
def string? : Json → Option String
  | .string text => some text
  | _ => none

/-- The text of a string that may be missing. -/
def stringOrNull? : Json → Option (Option String)
  | .string text => some (some text)
  | .null => some none
  | _ => none

/-- The value of a field of an object. -/
def field? (key : String) : Json → Option Json
  | .object fields => fields.lookup key
  | _ => none

section Lists

variable {α β : Type} {read : Json → Option α} {write : β → Json} {told : β → α}

/-- What the items of an array tell. -/
def listOf? (read : Json → Option α) : Json → Option (List α)
  | .array items => items.mapM read
  | _ => none

theorem listOf?_array (reads : ∀ value, read (write value) = some (told value))
    (values : List β) : (Json.array (values.map write)).listOf? read = some (values.map told) := by
  rw [listOf?]
  induction values with
  | nil => rfl
  | cons value values ih => simp [reads, ih]

end Lists

end Json

/-! ## Accounts -/

namespace Report

/-- What a report tells of a file. -/
structure NodeAccount where
  path : String
  dependencies : List String
  deriving DecidableEq, Repr

/-- What a report tells of a failure. -/
structure FailureAccount where
  kind : String
  file : String
  specifier? : Option String
  message : String
  deriving DecidableEq, Repr

/-- What a report tells of one of the files that a run started from. -/
structure Account where
  entry : String
  nodes : List NodeAccount
  cycles : List (List String)
  failures : List FailureAccount
  deriving DecidableEq, Repr

/-- The account of a file in a graph. -/
def NodeAccount.of (node : Location × List Location) : NodeAccount :=
  ⟨node.1.text, node.2.map Location.text⟩

/-- The account of a failure. -/
def FailureAccount.of (failure : Failure) : FailureAccount :=
  ⟨failure.kind, failure.file, failure.specifier?, failure.message⟩

/-- The account of a result: everything that the walk came to, or the failure that ended it. -/
def Account.of (result : EntryResult) : Account :=
  match result.outcome with
  | .ok outcome =>
    ⟨result.entry, outcome.graph.nodes.map .of, outcome.cycles.map (·.chain.map Location.text),
      outcome.failures.map .of⟩
  | .error failure => ⟨result.entry, [], [], [.of failure]⟩

/-! ## Accounts from JSON -/

/-- The account of a file that an object gives. -/
def nodeAccount? (json : Json) : Option NodeAccount := do
  let path ← (← json.field? "path").string?
  let dependencies ← (← json.field? "dependencies").listOf? Json.string?
  some ⟨path, dependencies⟩

/-- The account of a failure that an object gives. -/
def failureAccount? (json : Json) : Option FailureAccount := do
  let kind ← (← json.field? "kind").string?
  let file ← (← json.field? "file").string?
  let specifier ← (← json.field? "specifier").stringOrNull?
  let message ← (← json.field? "message").string?
  some ⟨kind, file, specifier, message⟩

/-- The account of one of the files that a run started from. -/
def account? (json : Json) : Option Account := do
  let entry ← (← json.field? "entry").string?
  let nodes ← (← json.field? "nodes").listOf? nodeAccount?
  let cycles ← (← json.field? "cycles").listOf? (Json.listOf? Json.string?)
  let failures ← (← json.field? "errors").listOf? failureAccount?
  some ⟨entry, nodes, cycles, failures⟩

/-! ## What is written can be had again -/

theorem listOf?_filesData (files : List Location) :
    (filesData files).listOf? Json.string? = some (files.map Location.text) := by
  have texts : ∀ file : Location, (Json.string file.text).string? = some file.text := fun _ => rfl
  exact Json.listOf?_array texts files

theorem nodeAccount?_nodeData (node : Location × List Location) :
    nodeAccount? (nodeData node) = some (.of node) := by
  have dependencies := listOf?_filesData node.2
  simp [nodeAccount?, nodeData, Json.field?, Json.string?, List.lookup_cons, dependencies,
    NodeAccount.of]

theorem failureAccount?_failureData (failure : Failure) :
    failureAccount? (failureData failure) = some (.of failure) := by
  cases named : failure.specifier? with
  | none =>
      simp [failureAccount?, failureData, Json.field?, Json.string?, Json.stringOrNull?,
        List.lookup_cons, named, FailureAccount.of]
  | some specifier =>
      simp [failureAccount?, failureData, Json.field?, Json.string?, Json.stringOrNull?,
        List.lookup_cons, named, FailureAccount.of]

/-- An object with the fields of a result, whatever they are filled with. -/
theorem account?_object (entry : String) (nodes : List (Location × List Location))
    (cycles : List Cycle) (failures : List Failure) :
    account? (.object [("entry", .string entry), ("nodes", .array (nodes.map nodeData)),
        ("cycles", .array (cycles.map fun cycle => filesData cycle.chain)),
        ("errors", .array (failures.map failureData))]) =
      some ⟨entry, nodes.map .of, cycles.map (·.chain.map Location.text), failures.map .of⟩ := by
  have nodes_read := Json.listOf?_array nodeAccount?_nodeData nodes
  have cycles_read := Json.listOf?_array (fun cycle : Cycle => listOf?_filesData cycle.chain) cycles
  have failures_read := Json.listOf?_array failureAccount?_failureData failures
  simp [account?, Json.field?, Json.string?, List.lookup_cons, nodes_read, cycles_read,
    failures_read]

theorem account?_entryData (result : EntryResult) :
    account? (entryData result) = some (.of result) := by
  obtain ⟨entry, outcome⟩ := result
  cases outcome with
  | ok outcome => exact account?_object entry outcome.graph.nodes outcome.cycles outcome.failures
  | error failure => exact account?_object entry [] [] [failure]

/-- A report for programs is one JSON value and can be read as no other. It is an array with the
account of each result, in the order of the run. -/
theorem dataText_recoverable (run : Run) :
    ∃ items, Json.IsText (.array items) (dataText run) ∧
      (∀ json, Json.IsText json (dataText run) → json = .array items) ∧
      Json.read? (dataText run) = some (.array items) ∧
      items.map account? = run.entries.map fun result => some (.of result) := by
  have is_text : Json.IsText (data run) (dataText run) := Json.isText_text (data run)
  refine ⟨run.entries.map entryData, is_text, ?_, Json.read?_of_isText is_text, ?_⟩
  · intro json other
    exact other.unique is_text
  · rw [List.map_map]
    exact List.map_congr_left fun result _ => account?_entryData result

end Report

end ModuleGraph
