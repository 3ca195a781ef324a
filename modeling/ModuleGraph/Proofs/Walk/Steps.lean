import Mathlib.Logic.Relation
import ModuleGraph.Proofs.Walk.Expansion

/-!
# A walk as a sequence of steps

A walk goes on as long as there is a frame on its stack. `Walk.Step` lists all that can happen
next: the topmost file is finished, its next target is looked at and has been seen before, or its
next target is entered. A strict walk enters only what can be expanded in full, and halts where it
cannot; any walk halts when nothing is left on the stack.

`Walk.explore_halts` says that exploring is nothing but such steps up to the point where the walk
halts, provided that there are enough entrances for the files it may meet. So what every step keeps
holds of every walk, and `Walk.Step.unique` makes the result of a walk the only one there can be.
-/

namespace ModuleGraph

/-- The frame when one more of its targets has been looked at. -/
def Frame.advance (frame : Frame) : Frame :=
  { frame with next := frame.next + 1 }

@[simp]
theorem Frame.advance_targets (frame : Frame) : frame.advance.targets = frame.targets := rfl

@[simp]
theorem Frame.advance_next (frame : Frame) : frame.advance.next = frame.next + 1 := rfl

namespace Walk

/-- The mark that was set last is the one that counts. -/
theorem mark?_mk_cons (record : Record) (marks : List (Location × Mark)) (stack : List Frame)
    (file other : Location) (mark : Mark) :
    mark? ⟨record, (file, mark) :: marks, stack⟩ other =
      if other = file then some mark else marks.lookup other := by
  rw [mark?, List.lookup_cons]
  by_cases same : other = file
  · simp [same]
  · rw [if_neg same, beq_eq_false_iff_ne.mpr same]

theorem mark?_entering (answers : Answers Id) (walk : Walk) (file other : Location) :
    (walk.entering answers file).mark? other =
      if other = file then some .onPath else walk.mark? other :=
  mark?_mk_cons _ _ _ _ _ _

@[simp]
theorem graph_entering (answers : Answers Id) (walk : Walk) (file : Location) :
    (walk.entering answers file).record.graph =
      walk.record.graph.linkAll file (answers.targets file) := rfl

/-- What is on record after a target has been looked at that was seen before. -/
def seeing (walk : Walk) (target : Location) : Mark → Record
  | .finished => walk.record
  | .onPath =>
    match walk.closing? target with
    | some cycle => walk.record.noteCycle cycle
    | none => walk.record

@[simp]
theorem graph_seeing (walk : Walk) (target : Location) (mark : Mark) :
    (walk.seeing target mark).graph = walk.record.graph := by
  cases mark with
  | finished => rfl
  | onPath =>
      rw [seeing]
      split
      · exact Record.graph_noteCycle _ _
      · rfl

section Steps

variable (answers : Answers Id) (strict : Bool)

/-- One step of a walk. -/
inductive Step : Walk → Walk → Prop
  /-- All targets of the topmost file have been looked at. -/
  | finish {record : Record} {marks : List (Location × Mark)} {frame : Frame} {below : List Frame}
      (done : frame.targets[frame.next]? = none) :
      Step ⟨record, marks, frame :: below⟩ ⟨record, (frame.file, .finished) :: marks, below⟩
  /-- The next target was seen before: it is finished, or it closes a cycle. -/
  | look {record : Record} {marks : List (Location × Mark)} {frame : Frame} {below : List Frame}
      {target : Location} {mark : Mark} (next : frame.targets[frame.next]? = some target)
      (seen : marks.lookup target = some mark) :
      Step ⟨record, marks, frame :: below⟩
        ⟨seeing ⟨record, marks, frame.advance :: below⟩ target mark, marks, frame.advance :: below⟩
  /-- The next target is entered. -/
  | enter {record : Record} {marks : List (Location × Mark)} {frame : Frame} {below : List Frame}
      {target : Location} (next : frame.targets[frame.next]? = some target)
      (unseen : marks.lookup target = none)
      (allowed : strict = true → answers.failures target = []) :
      Step ⟨record, marks, frame :: below⟩
        (entering answers ⟨record, marks, frame.advance :: below⟩ target)

/-- Where a walk halts, and what becomes of it. -/
inductive Halts : Walk → Except Abandoned Walk → Prop
  /-- Nothing is left on the stack. -/
  | ended {record : Record} {marks : List (Location × Mark)} :
      Halts ⟨record, marks, []⟩ (.ok ⟨record, marks, []⟩)
  /-- The next target would have to be entered, strictly, and cannot be expanded in full. -/
  | abandoned {record : Record} {marks : List (Location × Mark)} {frame : Frame}
      {below : List Frame} {target : Location} {failure : Failure} {others : List Failure}
      (next : frame.targets[frame.next]? = some target) (unseen : marks.lookup target = none)
      (strictly : strict = true) (failed : answers.failures target = failure :: others) :
      Halts ⟨record, marks, frame :: below⟩ (.error ⟨failure, record.findings⟩)

/-- Any number of steps. -/
abbrev Steps : Walk → Walk → Prop :=
  Relation.ReflTransGen (Step answers strict)

variable {answers strict}

/-- At most one step can be taken. -/
theorem Step.unique {walk one other : Walk} (first : Step answers strict walk one)
    (second : Step answers strict walk other) : one = other := by
  cases first with
  | finish done =>
      cases second with
      | finish _ => rfl
      | look next _ => rw [done] at next; cases next
      | enter next _ _ => rw [done] at next; cases next
  | look next seen =>
      cases second with
      | finish done => rw [done] at next; cases next
      | look next' seen' =>
          cases next.symm.trans next'
          cases seen.symm.trans seen'
          rfl
      | enter next' unseen _ =>
          cases next.symm.trans next'
          cases seen.symm.trans unseen
  | enter next unseen _ =>
      cases second with
      | finish done => rw [done] at next; cases next
      | look next' seen =>
          cases next.symm.trans next'
          cases seen.symm.trans unseen
      | enter next' _ _ =>
          cases next.symm.trans next'
          rfl

/-- No step can be taken where a walk halts. -/
theorem Halts.not_step {walk later : Walk} {result : Except Abandoned Walk}
    (halts : Halts answers strict walk result) : ¬ Step answers strict walk later := by
  intro step
  cases halts with
  | ended => cases step
  | abandoned next unseen strictly failed =>
      cases step with
      | finish done => rw [done] at next; cases next
      | look next' seen =>
          cases next.symm.trans next'
          cases seen.symm.trans unseen
      | enter next' _ allowed =>
          cases next.symm.trans next'
          rw [allowed strictly] at failed
          cases failed

theorem Halts.unique {walk : Walk} {one other : Except Abandoned Walk}
    (first : Halts answers strict walk one) (second : Halts answers strict walk other) :
    one = other := by
  cases first with
  | ended => cases second with | ended => rfl
  | abandoned next _ _ failed =>
      cases second with
      | abandoned next' _ _ failed' =>
          cases next.symm.trans next'
          cases failed.symm.trans failed'
          rfl

/-- Where a walk halts can be reached from wherever else it comes. -/
theorem Steps.to_halt {walk middle last : Walk} {result : Except Abandoned Walk}
    (first : Steps answers strict walk middle) (second : Steps answers strict walk last)
    (halts : Halts answers strict last result) : Steps answers strict middle last := by
  have comparable : Steps answers strict middle last ∨ Steps answers strict last middle :=
    Relation.ReflTransGen.total_of_right_unique (fun _ _ _ => Step.unique) first second
  rcases comparable with onward | back
  · exact onward
  · rcases back.cases_head with rfl | ⟨_, step, _⟩
    · exact .refl
    · exact absurd step halts.not_step

/-- All ways on from a walk to where it halts are the same. -/
theorem Steps.halts_unique {walk one other : Walk} {result result' : Except Abandoned Walk}
    (first : Steps answers strict walk one) (second : Steps answers strict walk other)
    (halts : Halts answers strict one result) (halts' : Halts answers strict other result') :
    one = other ∧ result = result' := by
  rcases (first.to_halt second halts').cases_head with rfl | ⟨_, step, _⟩
  · exact ⟨rfl, halts.unique halts'⟩
  · exact absurd step halts.not_step

/-! ## Turns are steps -/

section Turns

variable {record : Record} {marks : List (Location × Mark)} {frame : Frame} {below : List Frame}
  {target : Location}

theorem turn_of_done (done : frame.targets[frame.next]? = none) :
    turn ⟨record, marks, frame :: below⟩ =
      .moved ⟨record, (frame.file, .finished) :: marks, below⟩ := by
  simp only [turn, done]
  rfl

theorem turn_of_seen {mark : Mark} (next : frame.targets[frame.next]? = some target)
    (seen : marks.lookup target = some mark) :
    turn ⟨record, marks, frame :: below⟩ =
      .moved ⟨seeing ⟨record, marks, frame.advance :: below⟩ target mark, marks,
        frame.advance :: below⟩ := by
  cases mark with
  | finished =>
      simp only [turn, next, mark?, seen]
      rfl
  | onPath =>
      simp only [turn, next, mark?, seen, seeing, Frame.advance]
      cases closing? ⟨record, marks, ⟨frame.file, frame.targets, frame.next + 1⟩ :: below⟩ target
      · rfl
      · rfl

theorem turn_of_unseen (next : frame.targets[frame.next]? = some target)
    (unseen : marks.lookup target = none) :
    turn ⟨record, marks, frame :: below⟩ =
      .unseen target ⟨record, marks, frame.advance :: below⟩ := by
  simp only [turn, next, mark?, unseen]
  rfl

end Turns

theorem stack_eq_nil_of_turn_ended {walk : Walk} (h : walk.turn = .ended) : walk.stack = [] := by
  obtain ⟨record, marks, stack⟩ := walk
  cases stack with
  | nil => rfl
  | cons frame below =>
      cases next : frame.targets[frame.next]? with
      | none => rw [turn_of_done next] at h; cases h
      | some target =>
          cases seen : marks.lookup target with
          | none => rw [turn_of_unseen next seen] at h; cases h
          | some mark => rw [turn_of_seen next seen] at h; cases h

variable (answers strict) in
/-- What a move does is a step, and the stack leaves one move less afterwards. -/
theorem step_of_turn_moved {walk later : Walk} (h : walk.turn = .moved later) :
    Step answers strict walk later ∧ later.remaining + 1 = walk.remaining := by
  obtain ⟨record, marks, stack⟩ := walk
  cases stack with
  | nil => cases h
  | cons frame below =>
      cases next : frame.targets[frame.next]? with
      | none =>
          rw [turn_of_done next] at h
          cases h
          refine ⟨.finish next, ?_⟩
          have := List.getElem?_eq_none_iff.mp next
          simp only [remaining, List.map_cons, List.foldr_cons]
          omega
      | some target =>
          cases seen : marks.lookup target with
          | none => rw [turn_of_unseen next seen] at h; cases h
          | some mark =>
              rw [turn_of_seen next seen] at h
              cases h
              refine ⟨.look next seen, ?_⟩
              obtain ⟨_, _⟩ := List.getElem?_eq_some_iff.mp next
              simp only [remaining, List.map_cons, List.foldr_cons, Frame.advance_targets,
                Frame.advance_next]
              omega

/-- A file that is to be entered is the next target of the topmost file and was never seen. -/
theorem of_turn_unseen {walk looked : Walk} {target : Location}
    (h : walk.turn = .unseen target looked) :
    ∃ record marks frame below, walk = ⟨record, marks, frame :: below⟩ ∧
      frame.targets[frame.next]? = some target ∧ marks.lookup target = none ∧
      looked = ⟨record, marks, frame.advance :: below⟩ := by
  obtain ⟨record, marks, stack⟩ := walk
  cases stack with
  | nil => cases h
  | cons frame below =>
      cases next : frame.targets[frame.next]? with
      | none => rw [turn_of_done next] at h; cases h
      | some file =>
          cases seen : marks.lookup file with
          | none =>
              rw [turn_of_unseen next seen] at h
              cases h
              exact ⟨record, marks, frame, below, rfl, next, seen, rfl⟩
          | some mark => rw [turn_of_seen next seen] at h; cases h

variable (answers strict) in
/-- Settling takes steps, up to the end of the walk or to a file that is to be entered. -/
theorem settle_steps {moves : Nat} {walk : Walk} (h : walk.remaining < moves) :
    ∃ last, Steps answers strict walk last ∧
      ((settle moves walk = (last, none) ∧ last.stack = []) ∨
        ∃ target looked, settle moves walk = (looked, some target) ∧
          last.turn = .unseen target looked) := by
  induction moves generalizing walk with
  | zero => omega
  | succ moves ih =>
      cases turned : walk.turn with
      | ended =>
          refine ⟨walk, .refl, Or.inl ⟨?_, stack_eq_nil_of_turn_ended turned⟩⟩
          simp only [settle, turned]
      | moved later =>
          obtain ⟨step, fewer⟩ := step_of_turn_moved answers strict turned
          have enough : later.remaining < moves := by omega
          obtain ⟨last, steps, outcome⟩ := ih enough
          refine ⟨last, .head step steps, ?_⟩
          simpa only [settle, turned] using outcome
      | unseen target looked =>
          refine ⟨walk, .refl, Or.inr ⟨target, looked, ?_, turned⟩⟩
          simp only [settle, turned]

/-! ## There are entrances enough -/

/-- The number of files among some that a walk has not seen. -/
def unseenAmong (within : List Location) (walk : Walk) : Nat :=
  within.countP fun file => (walk.mark? file).isNone

/-- A step marks files and never takes a mark away. -/
theorem Step.mark?_isSome {walk later : Walk} (step : Step answers strict walk later)
    {file : Location} (h : (walk.mark? file).isSome = true) :
    (later.mark? file).isSome = true := by
  cases step with
  | finish done =>
      rw [mark?_mk_cons]
      split
      · rfl
      · exact h
  | look next seen => exact h
  | enter next unseen allowed =>
      rw [mark?_entering]
      split
      · rfl
      · exact h

theorem Steps.mark?_isSome {walk later : Walk} (steps : Steps answers strict walk later)
    {file : Location} (h : (walk.mark? file).isSome = true) :
    (later.mark? file).isSome = true := by
  induction steps with
  | refl => exact h
  | tail _ step ih => exact step.mark?_isSome ih

theorem Steps.unseenAmong_le {walk later : Walk} (within : List Location)
    (steps : Steps answers strict walk later) :
    later.unseenAmong within ≤ walk.unseenAmong within := by
  apply List.countP_mono_left
  intro file _ unmarked
  cases seen : walk.mark? file with
  | none => rfl
  | some mark =>
      have marked := steps.mark?_isSome (Option.isSome_of_eq_some seen)
      rw [Option.isNone_iff_eq_none.mp unmarked] at marked
      cases marked

/-- Entering a file leaves one unseen file less. -/
theorem unseenAmong_entering_lt {within : List Location} {walk : Walk} {file : Location}
    (present : file ∈ within) (unseen : walk.mark? file = none) :
    (walk.entering answers file).unseenAmong within < walk.unseenAmong within := by
  induction within with
  | nil => cases present
  | cons first rest ih =>
      have no_more : (walk.entering answers file).unseenAmong rest ≤ walk.unseenAmong rest := by
        apply List.countP_mono_left
        intro other _ unmarked
        rw [mark?_entering] at unmarked
        split at unmarked
        · cases unmarked
        · exact unmarked
      simp only [unseenAmong, List.countP_cons, mark?_entering] at ih no_more ⊢
      by_cases same : first = file
      · subst same
        simp only [if_pos, Option.isNone_some, Bool.false_eq_true, if_false, unseen,
          Option.isNone_none]
        omega
      · have later := ih ((List.mem_cons.mp present).resolve_left (Ne.symm same))
        simp only [if_neg same]
        omega

/-- All targets of the files on the stack are among some files. -/
def TargetsWithin (within : List Location) (walk : Walk) : Prop :=
  ∀ frame ∈ walk.stack, ∀ target ∈ frame.targets, target ∈ within

theorem Step.targetsWithin {within : List Location}
    (bounded : ∀ file, ∀ target ∈ answers.targets file, target ∈ within) {walk later : Walk}
    (step : Step answers strict walk later) (h : walk.TargetsWithin within) :
    later.TargetsWithin within := by
  have advanced {record : Record} {marks : List (Location × Mark)} {frame : Frame}
      {below : List Frame} (h : TargetsWithin within ⟨record, marks, frame :: below⟩) :
      ∀ other ∈ frame.advance :: below, ∀ target ∈ other.targets, target ∈ within := by
    intro other present
    rcases List.mem_cons.mp present with rfl | there
    · exact h frame List.mem_cons_self
    · exact h other (List.mem_cons_of_mem _ there)
  cases step with
  | finish done => exact fun frame present => h frame (List.mem_cons_of_mem _ present)
  | look next seen => exact advanced h
  | enter next unseen allowed =>
      intro other present
      rcases List.mem_cons.mp present with rfl | there
      · exact bounded _
      · exact advanced h other there

theorem Steps.targetsWithin {within : List Location}
    (bounded : ∀ file, ∀ target ∈ answers.targets file, target ∈ within) {walk later : Walk}
    (steps : Steps answers strict walk later) (h : walk.TargetsWithin within) :
    later.TargetsWithin within := by
  induction steps with
  | refl => exact h
  | tail _ step ih => exact step.targetsWithin bounded ih

/-- A file that is to be entered is unseen and among the files that targets are among. -/
theorem unseen_of_turn {within : List Location} {walk looked : Walk} {target : Location}
    (h : walk.TargetsWithin within) (turned : walk.turn = .unseen target looked) :
    target ∈ within ∧ walk.mark? target = none := by
  obtain ⟨record, marks, frame, below, rfl, next, unseen, rfl⟩ := of_turn_unseen turned
  exact ⟨h frame List.mem_cons_self target (List.mem_of_getElem? next), unseen⟩

/-- With as many entrances as there are unseen files, exploring takes steps up to where the walk
halts. -/
theorem explore_halts {within : List Location}
    (bounded : ∀ file, ∀ target ∈ answers.targets file, target ∈ within) {entrances : Nat}
    {walk : Walk} (h : walk.TargetsWithin within) (enough : walk.unseenAmong within ≤ entrances) :
    ∃ last, Steps answers strict walk last ∧
      Halts answers strict last (explore answers strict entrances walk) := by
  -- On the number of entrances: between two of them the walk settles.
  induction entrances generalizing walk with
  | zero =>
      obtain ⟨last, steps, ⟨settled, ended⟩ | ⟨target, looked, settled, turned⟩⟩ :=
        settle_steps answers strict (Nat.lt_succ_self walk.remaining)
      · obtain ⟨record, marks, stack⟩ := last
        cases ended
        refine ⟨⟨record, marks, []⟩, steps, ?_⟩
        simp only [explore, Walk.settled, settled]
        exact .ended
      · obtain ⟨present, unseen⟩ := unseen_of_turn (steps.targetsWithin bounded h) turned
        have some_left : 0 < last.unseenAmong within :=
          List.countP_pos_iff.mpr ⟨target, present, Option.isNone_iff_eq_none.mpr unseen⟩
        have := steps.unseenAmong_le within
        omega
  | succ entrances ih =>
      obtain ⟨last, steps, ⟨settled, ended⟩ | ⟨target, looked, settled, turned⟩⟩ :=
        settle_steps answers strict (Nat.lt_succ_self walk.remaining)
      · obtain ⟨record, marks, stack⟩ := last
        cases ended
        refine ⟨⟨record, marks, []⟩, steps, ?_⟩
        simp only [explore, Walk.settled, settled]
        exact .ended
      · have last_within := steps.targetsWithin bounded h
        obtain ⟨present, _⟩ := unseen_of_turn last_within turned
        have no_more := steps.unseenAmong_le within
        obtain ⟨record, marks, frame, below, rfl, next, unseen, rfl⟩ := of_turn_unseen turned
        by_cases allowed : strict = true → answers.failures target = []
        · have step : Step answers strict ⟨record, marks, frame :: below⟩
              (entering answers ⟨record, marks, frame.advance :: below⟩ target) :=
            .enter next unseen allowed
          have fewer :
              (entering answers ⟨record, marks, frame.advance :: below⟩ target).unseenAmong within <
                unseenAmong within ⟨record, marks, frame :: below⟩ :=
            unseenAmong_entering_lt present unseen
          obtain ⟨final, onward, halts⟩ :=
            ih (step.targetsWithin bounded last_within) (by omega)
          refine ⟨final, (steps.tail step).trans onward, ?_⟩
          simpa only [explore, Walk.settled, settled, bind, enter_eq_ok answers _ allowed]
            using halts
        · obtain ⟨rfl, failed⟩ := Classical.not_imp.mp allowed
          obtain ⟨failure, others, listed⟩ := List.exists_cons_of_ne_nil failed
          refine ⟨_, steps, ?_⟩
          simp only [explore, Walk.settled, settled, bind, enter_eq_error answers _ listed]
          exact .abandoned next unseen rfl listed

/-- A walk that has entered the file that it starts from, and nothing else. -/
def first (answers : Answers Id) (file : Location) : Walk :=
  (start file).entering answers file

/-- A whole walk fails at once if its first file cannot be expanded in full. Otherwise it takes
steps up to where it halts. -/
theorem whole_halts {within : List Location}
    (bounded : ∀ file, ∀ target ∈ answers.targets file, target ∈ within) {size : Nat}
    (enough : within.length ≤ size) (policy : Policy) (file : Location) :
    (∃ failure others, answers.failures file = failure :: others ∧
      whole answers policy size file = Except.error ⟨failure, []⟩) ∨
    (answers.failures file = [] ∧
      ∃ last, Steps answers (policy = .abort) (first answers file) last ∧
        Halts answers (policy = .abort) last (whole answers policy size file)) := by
  cases listed : answers.failures file with
  | cons failure others =>
      refine Or.inl ⟨failure, others, rfl, ?_⟩
      simp only [whole, bind, enter_eq_error answers (start file) listed]
      rfl
  | nil =>
      refine Or.inr ⟨rfl, ?_⟩
      have within_first : (first answers file).TargetsWithin within := by
        intro frame present
        rw [List.mem_singleton.mp present]
        exact bounded file
      have few : (first answers file).unseenAmong within ≤ size :=
        Nat.le_trans List.countP_le_length enough
      simp only [whole, bind, enter_eq_ok answers (start file) fun _ => listed]
      exact explore_halts bounded within_first few

end Steps

end Walk

end ModuleGraph
