import ModuleGraph.Proofs.Walk.Order

/-!
# Files are expanded in preorder

Depth-first preorder is a matter of the targets alone: of some files that are to be looked at one
after the other, one that was seen is passed by, and any other is seen now, and all its targets are
looked at before what comes next. `Answers.Preorder` says so of the files seen before and after.
There is nothing in it of stacks, cursors or marks, and it leaves no choice.

`Walk.Steps.preorder` says that the entrances of a walk are in this order.
-/

namespace ModuleGraph

namespace Answers

variable (answers : Answers Id)

/-- Looking at some files depth first leads from the files that were seen before to those that are
seen afterwards, each list in the order in which files were first seen. -/
inductive Preorder : List Location → List Location → List Location → Prop
  | nil {seen : List Location} : Preorder seen [] seen
  /-- A file that was seen is passed by. -/
  | passed {seen rest last : List Location} {file : Location} (present : file ∈ seen)
      (later : Preorder seen rest last) : Preorder seen (file :: rest) last
  /-- Any other file is seen, then all its targets are looked at. -/
  | entered {seen rest middle last : List Location} {file : Location} (absent : file ∉ seen)
      (inside : Preorder (seen ++ [file]) (answers.targets file) middle)
      (later : Preorder middle rest last) : Preorder seen (file :: rest) last

variable {answers}

/-- What is looked at after some files is looked at when they have been. -/
theorem preorder_append {seen files rest last : List Location} :
    answers.Preorder seen (files ++ rest) last ↔
      ∃ middle, answers.Preorder seen files middle ∧ answers.Preorder middle rest last := by
  induction files generalizing seen with
  | nil =>
      constructor
      · intro h
        exact ⟨seen, .nil, h⟩
      · rintro ⟨middle, none, h⟩
        cases none
        exact h
  | cons file files ih =>
      constructor
      · intro h
        cases h with
        | passed present later =>
            obtain ⟨middle, before, after⟩ := ih.mp later
            exact ⟨middle, .passed present before, after⟩
        | entered absent inside later =>
            obtain ⟨middle, before, after⟩ := ih.mp later
            exact ⟨middle, .entered absent inside before, after⟩
      · rintro ⟨middle, before, after⟩
        cases before with
        | passed present later => exact .passed present (ih.mpr ⟨middle, later, after⟩)
        | entered absent inside later =>
            exact .entered absent inside (ih.mpr ⟨middle, later, after⟩)

/-- There is only one preorder. -/
theorem Preorder.unique {seen files one other : List Location}
    (first : answers.Preorder seen files one) (second : answers.Preorder seen files other) :
    one = other := by
  induction first generalizing other with
  | nil =>
      cases second
      rfl
  | passed present _ ih =>
      cases second with
      | passed _ later => exact ih later
      | entered absent _ _ => exact absurd present absent
  | entered absent _ _ ih_inside ih_later =>
      cases second with
      | passed present _ => exact absurd present absent
      | entered _ inside later =>
          cases ih_inside inside
          exact ih_later later

end Answers

namespace Walk

variable {answers : Answers Id} {strict : Bool} {entry : Location}

/-- The targets that are still to be looked at on a path, those of the topmost file first. -/
def ahead (stack : List Frame) : List Location :=
  stack.flatMap fun frame => frame.targets.drop frame.next

/-- The next target of the topmost file is the first that is ahead. -/
theorem ahead_of_next {frame : Frame} {target : Location} (below : List Frame)
    (next : frame.targets[frame.next]? = some target) :
    ahead (frame :: below) = target :: ahead (frame.advance :: below) := by
  obtain ⟨bound, rfl⟩ := List.getElem?_eq_some_iff.mp next
  simp only [ahead, List.flatMap_cons, Frame.advance_targets, Frame.advance_next]
  rw [List.drop_eq_getElem_cons bound, List.cons_append]

/-- Whatever order of the files ahead continues what was entered after a step, also does so before
the step. -/
theorem Step.preorder {walk later : Walk} (step : Step answers strict walk later)
    (order : walk.Entered) {last : List Location}
    (h : answers.Preorder later.entered.reverse (ahead later.stack) last) :
    answers.Preorder walk.entered.reverse (ahead walk.stack) last := by
  cases step with
  | finish done =>
      rename_i record marks frame below
      have nothing : frame.targets.drop frame.next = [] :=
        List.drop_eq_nil_of_le (List.getElem?_eq_none_iff.mp done)
      rw [ahead, List.flatMap_cons, nothing]
      exact h
  | look next seen =>
      rename_i record marks frame below target mark
      have present : target ∈ Walk.entered ⟨record, marks, frame :: below⟩ :=
        (order.mem_iff target).mpr (Option.isSome_of_eq_some seen)
      rw [ahead_of_next below next]
      exact .passed (List.mem_reverse.mpr present) h
  | enter next unseen allowed =>
      rename_i record marks frame below target
      have absent : target ∉ Walk.entered ⟨record, marks, frame :: below⟩ := by
        rw [order.mem_iff, mark?, unseen]
        exact Bool.false_ne_true
      rw [entered_entering, List.reverse_cons] at h
      obtain ⟨middle, inside, after⟩ := Answers.preorder_append.mp h
      rw [ahead_of_next below next]
      exact .entered (fun there => absent (List.mem_reverse.mp there)) inside after

/-- A walk to its end enters the files that it still meets in preorder. -/
theorem Steps.preorder_of_steps {walk last : Walk}
    (before : Steps answers strict (first answers entry) walk)
    (steps : Steps answers strict walk last) (ended : last.stack = []) :
    answers.Preorder walk.entered.reverse (ahead walk.stack) last.entered.reverse := by
  induction steps using Relation.ReflTransGen.head_induction_on with
  | refl =>
      rw [ahead, ended]
      exact .nil
  | head step _ ih => exact step.preorder before.entered (ih (before.tail step))

/-- A walk to its end enters files in preorder, from its first file on. -/
theorem Steps.preorder {walk : Walk} (steps : Steps answers strict (first answers entry) walk)
    (ended : walk.stack = []) : answers.Preorder [] [entry] walk.entered.reverse := by
  have inside := Steps.preorder_of_steps .refl steps ended
  have all_ahead : ahead (first answers entry).stack = answers.targets entry := by
    simp [first, ahead, entering, start]
  rw [all_ahead] at inside
  exact .entered List.not_mem_nil inside .nil

end Walk

end ModuleGraph
