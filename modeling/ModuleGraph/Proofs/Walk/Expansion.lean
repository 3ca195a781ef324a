import ModuleGraph.Proofs.Graph.Growth
import ModuleGraph.Walk

/-!
# What becomes of an expanded file

Where answers are given at once, and the same question is always answered alike, the requests of a
file settle what expanding it does: `Answers.targets` are the files that they lead to and
`Answers.failures` is what keeps it from being expanded in full. A strict walk stops at the first
of these failures. Any other walk notes them all, and the file depends on its targets.

`Walk.enter_eq_ok` and `Walk.enter_eq_error` say all that the later modules need to know about
entering a file.
-/

namespace ModuleGraph

namespace Answers

variable (answers : Answers Id)

/-- The files that some requests of a file lead to, in their order. -/
def resolved (file : Location) (specifiers : List Specifier) : List Location :=
  specifiers.filterMap fun specifier =>
    Except.toOption (answers.target file specifier.request : Except Failure Location)

/-- The failures of those requests of a file that lead nowhere, in their order. -/
def unresolved (file : Location) (specifiers : List Specifier) : List Failure :=
  specifiers.filterMap fun specifier =>
    match (answers.target file specifier.request : Except Failure Location) with
    | .ok _ => none
    | .error failure => some failure

/-- The files that a file depends on, in the order of its requests, as often as it asks for them.
A file whose requests cannot be read depends on nothing. -/
def targets (file : Location) : List Location :=
  match (answers.imports file : Except Failure (List Specifier)) with
  | .ok specifiers => answers.resolved file specifiers
  | .error _ => []

/-- Why a file cannot be expanded in full: the one reason that its requests cannot be read, or a
failure for each request that leads nowhere. -/
def failures (file : Location) : List Failure :=
  match (answers.imports file : Except Failure (List Specifier)) with
  | .ok specifiers => answers.unresolved file specifiers
  | .error failure => [failure]

/-- One file depends on another. -/
def DependsOn (source target : Location) : Prop :=
  target ∈ answers.targets source

theorem resolved_cons_of_ok {file target : Location} {specifier : Specifier}
    (rest : List Specifier) (h : answers.target file specifier.request = .ok target) :
    answers.resolved file (specifier :: rest) = target :: answers.resolved file rest := by
  rw [resolved, List.filterMap_cons, h]
  rfl

theorem resolved_cons_of_error {file : Location} {failure : Failure} {specifier : Specifier}
    (rest : List Specifier) (h : answers.target file specifier.request = .error failure) :
    answers.resolved file (specifier :: rest) = answers.resolved file rest := by
  rw [resolved, List.filterMap_cons, h]
  rfl

theorem unresolved_cons_of_ok {file target : Location} {specifier : Specifier}
    (rest : List Specifier) (h : answers.target file specifier.request = .ok target) :
    answers.unresolved file (specifier :: rest) = answers.unresolved file rest := by
  rw [unresolved, List.filterMap_cons, h]
  rfl

theorem unresolved_cons_of_error {file : Location} {failure : Failure} {specifier : Specifier}
    (rest : List Specifier) (h : answers.target file specifier.request = .error failure) :
    answers.unresolved file (specifier :: rest) = failure :: answers.unresolved file rest := by
  rw [unresolved, List.filterMap_cons, h]
  rfl

/-- Every request either leads somewhere or fails. -/
theorem length_resolved_add_length_unresolved (file : Location) (specifiers : List Specifier) :
    (answers.resolved file specifiers).length + (answers.unresolved file specifiers).length =
      specifiers.length := by
  induction specifiers with
  | nil => rfl
  | cons specifier rest ih =>
      cases found : answers.target file specifier.request with
      | ok target =>
          rw [resolved_cons_of_ok answers rest found, unresolved_cons_of_ok answers rest found]
          simp only [List.length_cons]
          omega
      | error failure =>
          rw [resolved_cons_of_error answers rest found,
            unresolved_cons_of_error answers rest found]
          simp only [List.length_cons]
          omega

theorem targets_of_ok {file : Location} {specifiers : List Specifier}
    (h : answers.imports file = .ok specifiers) :
    answers.targets file = answers.resolved file specifiers := by
  rw [targets, h]

theorem targets_of_error {file : Location} {failure : Failure}
    (h : answers.imports file = .error failure) : answers.targets file = [] := by
  rw [targets, h]

/-- What a file depends on is what some request in it leads to. -/
theorem exists_target_of_mem_targets {file target : Location} (h : target ∈ answers.targets file) :
    ∃ request, answers.target file request = .ok target := by
  rw [targets] at h
  split at h
  · obtain ⟨specifier, _, resolved⟩ := List.mem_filterMap.mp h
    refine ⟨specifier.request, ?_⟩
    cases led : (answers.target file specifier.request : Except Failure Location) with
    | error failure =>
        rw [led] at resolved
        cases resolved
    | ok found =>
        rw [led] at resolved
        cases resolved
        rfl
  · cases h

theorem failures_of_ok {file : Location} {specifiers : List Specifier}
    (h : answers.imports file = .ok specifiers) :
    answers.failures file = answers.unresolved file specifiers := by
  rw [failures, h]

theorem failures_of_error {file : Location} {failure : Failure}
    (h : answers.imports file = .error failure) : answers.failures file = [failure] := by
  rw [failures, h]

end Answers

namespace Record

/-- The record after a file has been expanded to its targets, with what kept it from more. -/
def expanded (record : Record) (file : Location) (targets : List Location)
    (failures : List Failure) : Record where
  graph := record.graph.linkAll file targets
  findings := record.findings ++ failures.map Finding.failure

@[simp]
theorem cycles_expanded (record : Record) (file : Location) (targets : List Location)
    (failures : List Failure) :
    (record.expanded file targets failures).cycles = record.cycles := by
  have none_found : (failures.map Finding.failure).filterMap Finding.cycle? = [] := by
    rw [List.filterMap_map, List.filterMap_eq_nil_iff]
    exact fun _ _ => rfl
  rw [cycles, expanded, List.filterMap_append, none_found, List.append_nil]
  rfl

@[simp]
theorem failures_expanded (record : Record) (file : Location) (targets : List Location)
    (failures : List Failure) :
    (record.expanded file targets failures).failures = record.failures ++ failures := by
  have all_found : (failures.map Finding.failure).filterMap Finding.failure? = failures := by
    rw [List.filterMap_map]
    exact List.filterMap_some
  rw [Record.failures, expanded, List.filterMap_append, all_found]
  rfl

@[simp]
theorem graph_noteCycle (record : Record) (cycle : Cycle) :
    (record.noteCycle cycle).graph = record.graph := by
  rw [noteCycle]
  split <;> rfl

/-- A cycle that is there already is not noted again, any other comes last. -/
theorem cycles_noteCycle (record : Record) (cycle : Cycle) :
    (record.noteCycle cycle).cycles =
      if cycle ∈ record.cycles then record.cycles else record.cycles ++ [cycle] := by
  by_cases h : cycle ∈ record.cycles
  · rw [noteCycle, if_pos (List.contains_iff_mem.mpr h), if_pos h]
  · rw [noteCycle, if_neg fun there => h (List.contains_iff_mem.mp there), if_neg h, note, cycles,
      List.filterMap_append]
    rfl

@[simp]
theorem failures_noteCycle (record : Record) (cycle : Cycle) :
    (record.noteCycle cycle).failures = record.failures := by
  rw [noteCycle]
  split
  · rfl
  · rw [note, failures, List.filterMap_append]
    exact List.append_nil _

end Record

namespace Walk

variable (answers : Answers Id)

/-- A walk that has just entered a file and noted whatever there was to note. -/
def entering (walk : Walk) (file : Location) : Walk where
  record := walk.record.expanded file (answers.targets file) (answers.failures file)
  marks := (file, .onPath) :: walk.marks
  stack := ⟨file, answers.targets file, 0⟩ :: walk.stack

/-- What may go on after a failure is not strict. -/
theorem lenient_of_failure {strict : Bool} {failure : Failure} {others : List Failure}
    (h : strict = true → failure :: others = []) : strict = false := by
  cases strict with
  | false => rfl
  | true => exact absurd (h rfl) (List.cons_ne_nil _ _)

/-- Requests that nothing keeps from being followed are followed to their end. -/
theorem follow_eq_ok {strict : Bool} {file : Location} {specifiers : List Specifier}
    (record : Record) (h : strict = true → answers.unresolved file specifiers = []) :
    follow answers strict file specifiers record =
      Except.ok (answers.resolved file specifiers,
        record.expanded file (answers.resolved file specifiers)
          (answers.unresolved file specifiers)) := by
  induction specifiers generalizing record with
  | nil => simp [follow, Answers.resolved, Answers.unresolved, Record.expanded, pure]
  | cons specifier rest ih =>
      cases found : answers.target file specifier.request with
      | ok target =>
          rw [Answers.unresolved_cons_of_ok answers rest found] at h ⊢
          rw [Answers.resolved_cons_of_ok answers rest found]
          simp only [follow, bind, found, ih (record.link file target) h]
          rfl
      | error failure =>
          rw [Answers.unresolved_cons_of_error answers rest found] at h ⊢
          rw [Answers.resolved_cons_of_error answers rest found]
          obtain rfl := lenient_of_failure h
          have followed := ih (record.note (.failure failure)) fun strictly =>
            absurd strictly Bool.false_ne_true
          simp only [follow, bind, found, Bool.false_eq_true, if_false, followed]
          simp [Record.expanded, Record.note]

/-- Strictly, requests are followed to the first that leads nowhere. -/
theorem follow_eq_error {file : Location} {specifiers : List Specifier} (record : Record)
    {failure : Failure} {others : List Failure}
    (h : answers.unresolved file specifiers = failure :: others) :
    follow answers true file specifiers record =
      Except.error ⟨failure, record.findings⟩ := by
  induction specifiers generalizing record with
  | nil => cases h
  | cons specifier rest ih =>
      cases found : answers.target file specifier.request with
      | ok target =>
          rw [Answers.unresolved_cons_of_ok answers rest found] at h
          simp only [follow, bind, found, ih (record.link file target) h]
          rfl
      | error first =>
          rw [Answers.unresolved_cons_of_error answers rest found] at h
          cases h
          simp only [follow, bind, found, if_true]
          rfl

/-- A file that nothing keeps from being expanded, or in which that is only noted, is entered. -/
theorem enter_eq_ok {strict : Bool} {file : Location} (walk : Walk)
    (h : strict = true → answers.failures file = []) :
    walk.enter answers strict file = Except.ok (walk.entering answers file) := by
  cases read : answers.imports file with
  | ok specifiers =>
      rw [Answers.failures_of_ok answers read] at h
      simp only [enter, expand, bind, read, follow_eq_ok answers walk.record h, entering,
        Answers.targets_of_ok answers read, Answers.failures_of_ok answers read]
      rfl
  | error failure =>
      rw [Answers.failures_of_error answers read] at h
      obtain rfl := lenient_of_failure h
      simp only [enter, expand, bind, read, Bool.false_eq_true, if_false, entering,
        Answers.targets_of_error answers read, Answers.failures_of_error answers read]
      rfl

/-- Strictly, the first failure of a file ends the walk. -/
theorem enter_eq_error {file : Location} (walk : Walk) {failure : Failure}
    {others : List Failure} (h : answers.failures file = failure :: others) :
    walk.enter answers true file = Except.error ⟨failure, walk.record.findings⟩ := by
  cases read : answers.imports file with
  | ok specifiers =>
      rw [Answers.failures_of_ok answers read] at h
      simp only [enter, expand, bind, read, follow_eq_error answers walk.record h]
      rfl
  | error first =>
      rw [Answers.failures_of_error answers read] at h
      cases h
      simp only [enter, expand, bind, read, if_true]
      rfl

section

variable {answers} {strict : Bool} {file : Location} {walk : Walk}

/-- A file is entered unless something keeps it from that, and then in this way. -/
theorem enter_eq_ok_iff {later : Walk} :
    walk.enter answers strict file = Except.ok later ↔
      (strict = true → answers.failures file = []) ∧ later = walk.entering answers file := by
  constructor
  · intro entered
    by_cases allowed : strict = true → answers.failures file = []
    · rw [enter_eq_ok answers walk allowed] at entered
      exact ⟨allowed, (Except.ok.inj entered).symm⟩
    · obtain ⟨rfl, failed⟩ := Classical.not_imp.mp allowed
      obtain ⟨failure, others, listed⟩ := List.exists_cons_of_ne_nil failed
      rw [enter_eq_error answers walk listed] at entered
      cases entered
  · rintro ⟨allowed, rfl⟩
    exact enter_eq_ok answers walk allowed

/-- What keeps a file from being entered is its first failure, and only where that is not just
noted. -/
theorem enter_eq_error_iff {abandoned : Abandoned} :
    walk.enter answers strict file = Except.error abandoned ↔
      strict = true ∧ ∃ failure others, answers.failures file = failure :: others ∧
        abandoned = ⟨failure, walk.record.findings⟩ := by
  constructor
  · intro refused
    by_cases allowed : strict = true → answers.failures file = []
    · rw [enter_eq_ok answers walk allowed] at refused
      cases refused
    · obtain ⟨rfl, failed⟩ := Classical.not_imp.mp allowed
      obtain ⟨failure, others, listed⟩ := List.exists_cons_of_ne_nil failed
      rw [enter_eq_error answers walk listed] at refused
      exact ⟨rfl, failure, others, listed, (Except.error.inj refused).symm⟩
  · rintro ⟨rfl, failure, others, listed, rfl⟩
    exact enter_eq_error answers walk listed

end

end Walk

end ModuleGraph
