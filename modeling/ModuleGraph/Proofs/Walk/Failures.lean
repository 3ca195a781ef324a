import Mathlib.Data.List.Infix
import ModuleGraph.Proofs.Walk.Exactness
import ModuleGraph.Proofs.Walk.Order

/-!
# The failures that are noted

A walk notes what keeps a file from being expanded in full when it enters the file, and enters no
file twice. So the failures on record are those of the files that were entered, file by file in the
order of entrance (`Walk.Steps.failures_eq`).

A strict walk enters only what can be expanded in full. Up to the first failure it takes the same
steps as any other walk, and where it is given up the other goes on. `Walk.whole_policies` compares
the two.
-/

namespace ModuleGraph.Walk

variable {answers : Answers Id} {strict : Bool} {entry : Location}

@[simp]
theorem failures_seeing (walk : Walk) (target : Location) (mark : Mark) :
    (walk.seeing target mark).failures = walk.record.failures := by
  cases mark with
  | finished => rfl
  | onPath =>
      rw [seeing]
      split
      · exact Record.failures_noteCycle _ _
      · rfl

/-- Entering a file notes its failures. -/
theorem failures_entering (answers : Answers Id) (walk : Walk) (file : Location) :
    (walk.entering answers file).record.failures =
      walk.record.failures ++ answers.failures file :=
  Record.failures_expanded _ _ _ _

theorem Step.failures_eq {walk later : Walk} (step : Step answers strict walk later)
    (h : walk.record.failures = walk.entered.reverse.flatMap answers.failures) :
    later.record.failures = later.entered.reverse.flatMap answers.failures := by
  cases step with
  | finish done => exact h
  | look next seen =>
      rw [failures_seeing]
      exact h
  | enter next unseen allowed =>
      rename_i record marks frame below target
      have before : record.failures =
          (Walk.entered ⟨record, marks, frame.advance :: below⟩).reverse.flatMap
            answers.failures := h
      rw [failures_entering, entered_entering, List.reverse_cons, List.flatMap_append, before]
      simp

/-- The failures on record are those of the files that were entered, in the order of entrance. -/
theorem Steps.failures_eq {walk : Walk} (steps : Steps answers strict (first answers entry) walk) :
    walk.record.failures = walk.entered.reverse.flatMap answers.failures := by
  induction steps with
  | refl =>
      rw [first, failures_entering, entered_entering]
      exact (List.append_nil _).symm
  | tail _ step ih => exact step.failures_eq ih

/-- The graph of a walk that has come to its end holds the files that were entered. -/
theorem Steps.mem_files_iff {walk : Walk} (steps : Steps answers strict (first answers entry) walk)
    (ended : walk.stack = []) (file : Location) :
    file ∈ walk.record.graph.files ↔ file ∈ walk.entered := by
  rw [(Steps.entered steps).mem_iff]
  constructor
  · intro present
    exact Option.isSome_of_eq_some ((Steps.exact steps ended).finished file present)
  · exact (Steps.coherent steps).registered.mem_of_seen

/-! ## Strict walks -/

/-- A step enters one more file or none. -/
theorem Step.entered_suffix {walk later : Walk} (step : Step answers strict walk later) :
    walk.entered <:+ later.entered := by
  cases step with
  | finish done => exact List.suffix_rfl
  | look next seen => exact List.suffix_rfl
  | enter next unseen allowed => exact List.suffix_cons _ _

theorem Steps.entered_suffix {walk later : Walk} (steps : Steps answers strict walk later) :
    walk.entered <:+ later.entered := by
  induction steps with
  | refl => exact List.suffix_rfl
  | tail _ step ih => exact ih.trans step.entered_suffix

/-- Failures stay on record, and later ones come behind them. -/
theorem Steps.failures_prefix {walk later : Walk}
    (before : Steps answers strict (first answers entry) walk)
    (steps : Steps answers strict walk later) :
    walk.record.failures <+: later.record.failures := by
  rw [before.failures_eq, Steps.failures_eq (before.trans steps)]
  exact List.IsPrefix.flatMap (List.reverse_prefix.mpr steps.entered_suffix) _

/-- A strict walk from a file that can be expanded in full notes no failure. -/
theorem Steps.failures_eq_nil {walk : Walk} (steps : Steps answers true (first answers entry) walk)
    (none : answers.failures entry = []) : walk.record.failures = [] := by
  induction steps with
  | refl =>
      rw [first, failures_entering, none, List.append_nil]
      rfl
  | tail _ step ih =>
      cases step with
      | finish done => exact ih
      | look next seen => rwa [failures_seeing]
      | enter next unseen allowed => rw [failures_entering, allowed rfl, List.append_nil, ih]

/-- What a strict walk may do, any walk may do. -/
theorem Step.lenient {walk later : Walk} (step : Step answers true walk later) :
    Step answers false walk later := by
  cases step with
  | finish done => exact .finish done
  | look next seen => exact .look next seen
  | enter next unseen allowed =>
      exact .enter next unseen fun strictly => absurd strictly Bool.false_ne_true

theorem Steps.lenient {walk later : Walk} (steps : Steps answers true walk later) :
    Steps answers false walk later :=
  Relation.ReflTransGen.mono (fun _ _ => Step.lenient) _ _ steps

/-- A walk halts where nothing is left on the stack. -/
theorem halts_of_ended {walk : Walk} (ended : walk.stack = []) :
    Halts answers strict walk (.ok walk) := by
  obtain ⟨record, marks, stack⟩ := walk
  cases ended
  exact .ended

/-- A walk that succeeds is one that has come to its end. -/
theorem Halts.of_ok {walk last : Walk} (halts : Halts answers strict walk (.ok last)) :
    walk = last ∧ last.stack = [] := by
  cases halts
  exact ⟨rfl, rfl⟩

/-- A walk that notes failures halts at its end only. -/
theorem Halts.of_lenient {walk : Walk} {result : Except Abandoned Walk}
    (halts : Halts answers false walk result) : walk.stack = [] ∧ result = .ok walk := by
  cases halts with
  | ended => exact ⟨rfl, rfl⟩
  | abandoned next unseen strictly failed => cases strictly

/-- Where a strict walk is given up, any other goes on and notes the failure. -/
theorem Halts.exists_lenient {walk : Walk} {abandoned : Abandoned}
    (halts : Halts answers true walk (.error abandoned)) :
    ∃ later, Step answers false walk later ∧
      ∃ others, later.record.failures = walk.record.failures ++ abandoned.failure :: others := by
  cases halts with
  | abandoned next unseen strictly failed =>
      rename_i record marks frame below target failure others
      have step : Step answers false ⟨record, marks, frame :: below⟩
          (entering answers ⟨record, marks, frame.advance :: below⟩ target) :=
        .enter next unseen fun strictly => absurd strictly Bool.false_ne_true
      refine ⟨_, step, others, ?_⟩
      rw [failures_entering, failed]

/-! ## Whole walks -/

section Whole

variable {within : List Location} {size : Nat}

/-- A whole walk that notes failures is given up only because of its first file. -/
theorem whole_record (bounded : ∀ file, ∀ target ∈ answers.targets file, target ∈ within)
    (enough : within.length ≤ size) (entry : Location) :
    (∃ failure others, answers.failures entry = failure :: others ∧
      whole answers .record size entry = Except.error ⟨failure, []⟩) ∨
    (answers.failures entry = [] ∧
      ∃ walk, whole answers .record size entry = Except.ok walk ∧ walk.stack = [] ∧
        Steps answers false (first answers entry) walk) := by
  rcases whole_halts bounded enough .record entry with given_up | ⟨none, walk, steps, halts⟩
  · exact Or.inl given_up
  · obtain ⟨ended, recorded⟩ := Halts.of_lenient halts
    exact Or.inr ⟨none, walk, recorded, ended, steps⟩

/-- The two policies compared. Either nothing keeps any file from being expanded in full and both
come to the same, or both are given up because of the first file, or one is given up at the first
failure that the other notes. -/
theorem whole_policies (bounded : ∀ file, ∀ target ∈ answers.targets file, target ∈ within)
    (enough : within.length ≤ size) (entry : Location) :
    (∃ walk, whole answers .abort size entry = Except.ok walk ∧
      whole answers .record size entry = Except.ok walk ∧ walk.record.failures = []) ∨
    (∃ failure others, answers.failures entry = failure :: others ∧
      whole answers .abort size entry = Except.error ⟨failure, []⟩ ∧
      whole answers .record size entry = Except.error ⟨failure, []⟩) ∨
    ∃ abandoned walk others, whole answers .abort size entry = Except.error abandoned ∧
      whole answers .record size entry = Except.ok walk ∧
      walk.record.failures = abandoned.failure :: others := by
  rcases whole_halts bounded enough .abort entry with
    ⟨failure, others, listed, given_up⟩ | ⟨none, last, steps, halts⟩
  · refine Or.inr (Or.inl ⟨failure, others, listed, given_up, ?_⟩)
    rcases whole_record bounded enough entry with ⟨failure', _, listed', recorded⟩ | ⟨none, _⟩
    · cases listed.symm.trans listed'
      exact recorded
    · rw [none] at listed
      cases listed
  · have clean := Steps.failures_eq_nil steps none
    have lenient := Steps.lenient steps
    rcases whole_record bounded enough entry with
      ⟨_, _, listed, _⟩ | ⟨_, final, recorded, ended, steps'⟩
    · rw [none] at listed
      cases listed
    have halts' : Halts answers false final (.ok final) := halts_of_ended ended
    generalize (whole answers .abort size entry : Except Abandoned Walk) = result at halts ⊢
    cases result with
    | ok walk =>
        obtain ⟨rfl, ended'⟩ := Halts.of_ok halts
        obtain ⟨rfl, _⟩ := Steps.halts_unique lenient steps' (halts_of_ended ended') halts'
        exact Or.inl ⟨last, rfl, recorded, clean⟩
    | error abandoned =>
        obtain ⟨later, step, others, noted⟩ := Halts.exists_lenient halts
        have onward : Steps answers false later final :=
          Steps.to_halt (lenient.tail step) steps' halts'
        obtain ⟨more, kept⟩ := Steps.failures_prefix (lenient.tail step) onward
        rw [noted, clean] at kept
        exact Or.inr (Or.inr ⟨abandoned, final, others ++ more, rfl, recorded, kept.symm⟩)

end Whole

end ModuleGraph.Walk
