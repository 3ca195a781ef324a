import ModuleGraph.Proofs.Walk.Failures

/-!
# Walks with answers that agree

A walk asks a file for its requests when it enters the file, and what they lead to is all that it
learns. So a walk that succeeds does not depend on what other files would have answered: with any
answers that agree on its files it is the same walk (`Walk.whole_congr`).
-/

namespace ModuleGraph

/-- Answers from which a walk learns the same when it enters a file. -/
structure Answers.AgreeOn (answers others : Answers Id) (file : Location) : Prop where
  targets : others.targets file = answers.targets file
  failures : others.failures file = answers.failures file

namespace Walk

variable {answers others : Answers Id} {strict : Bool} {entry : Location}

theorem entering_congr {file : Location} (agree : answers.AgreeOn others file) (walk : Walk) :
    walk.entering others file = walk.entering answers file := by
  rw [entering, entering, agree.targets, agree.failures]

/-- A step can be taken with all answers that agree on the files that have been entered after
it. -/
theorem Step.congr {walk later : Walk} (step : Step answers strict walk later)
    (agree : ∀ file ∈ later.entered, answers.AgreeOn others file) :
    Step others strict walk later := by
  cases step with
  | finish done => exact .finish done
  | look next seen => exact .look next seen
  | @enter record marks frame below target next unseen allowed =>
      have agree_target : answers.AgreeOn others target :=
        agree target (by rw [entered_entering]; exact List.mem_cons_self)
      rw [← entering_congr agree_target]
      exact .enter next unseen fun strictly => agree_target.failures.trans (allowed strictly)

theorem Steps.congr {walk : Walk} (steps : Steps answers strict (first answers entry) walk)
    (agree : ∀ file ∈ walk.entered, answers.AgreeOn others file) :
    Steps others strict (first others entry) walk := by
  induction steps with
  | refl =>
      have agree_entry : answers.AgreeOn others entry :=
        agree entry (by rw [first, entered_entering]; exact List.mem_cons_self)
      rw [first, entering_congr agree_entry]
      exact .refl
  | tail _ step ih =>
      have earlier := ih fun file present => agree file (Step.entered_suffix step |>.subset present)
      exact earlier.tail (step.congr agree)

/-- A walk that succeeds is the same with all answers that agree on its files. -/
theorem whole_congr {within : List Location}
    (bounded : ∀ file, ∀ target ∈ answers.targets file, target ∈ within)
    (bounded' : ∀ file, ∀ target ∈ others.targets file, target ∈ within) {size : Nat}
    (enough : within.length ≤ size) {policy : Policy} {walk : Walk}
    (h : whole answers policy size entry = Except.ok walk)
    (agree : ∀ file ∈ walk.record.graph.files, answers.AgreeOn others file) :
    whole others policy size entry = Except.ok walk := by
  obtain ⟨flawless, steps, ended⟩ := whole_ok bounded enough h
  have agree_entered : ∀ file ∈ walk.entered, answers.AgreeOn others file :=
    fun file present => agree file ((Steps.mem_files_iff steps ended file).mpr present)
  have steps' := steps.congr agree_entered
  have entry_entered : entry ∈ walk.entered :=
    (Steps.entered_suffix steps).subset (by rw [first, entered_entering]; exact List.mem_cons_self)
  rcases whole_halts bounded' enough policy entry with
    ⟨failure, more, listed, _⟩ | ⟨_, last, onward, halts⟩
  · rw [(agree_entered entry entry_entered).failures, flawless] at listed
    cases listed
  · obtain ⟨rfl, same⟩ := steps'.halts_unique onward (halts_of_ended ended) halts
    exact same.symm

end Walk

end ModuleGraph
