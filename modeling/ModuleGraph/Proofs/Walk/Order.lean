import ModuleGraph.Proofs.Walk.Correspondence
import ModuleGraph.Proofs.Walk.Path

/-!
# The order in which files are expanded

A file is expanded when its requests are asked for. `Answers.logging` keeps a list of the files
whose requests were asked for and answers as before, so it tells in which order a walk expands
files.

The marks of a walk hold the same list, latest first: `Walk.entered`. `Walk.whole_logging` says so.
No file is in it twice, and the path is a part of it (`Walk.Entered`), so a file that is lower on
the path was expanded earlier.
-/

namespace ModuleGraph

/-- The same answers, with a list of the files whose requests were asked for, in order. -/
def Answers.logging {m : Type → Type} [Monad m] (answers : Answers m) :
    Answers (StateT (List Location) m) where
  imports file log := do
    let answer ← answers.imports file
    pure (answer, log ++ [file])
  target file specifier log := do
    let answer ← answers.target file specifier
    pure (answer, log)

section Logged

variable {m n : Type → Type} [Monad m] [Monad n]

/-- Computations that keep a list correspond if they do so whatever is in the list. -/
def Correspondence.logged (agree : Correspondence m n) :
    Correspondence (StateT (List Location) m) (StateT (List Location) n) where
  holds x y := ∀ log, agree.holds (x log) (y log)
  holds_pure value log := agree.holds_pure (value, log)
  holds_bind first next log := agree.holds_bind (first log) fun (value, log) => next value log

/-- Where all questions are answered in corresponding ways, whole walks log the same. -/
theorem Walk.whole_logging_corresponds (agree : Correspondence m n) {answers : Answers m}
    {others : Answers n}
    (imports : ∀ file, agree.holds (answers.imports file) (others.imports file))
    (targets : ∀ file request, agree.holds (answers.target file request)
      (others.target file request))
    (policy : Policy) (size : Nat) (file : Location) (log : List Location) :
    agree.holds (whole answers.logging policy size file log)
      (whole others.logging policy size file log) := by
  refine whole_corresponds agree.logged ?_ ?_ policy size file log
  · intro file log
    exact agree.holds_bind (imports file) fun _ => agree.holds_pure _
  · intro file request log
    exact agree.holds_bind (targets file request) fun _ => agree.holds_pure _

end Logged

namespace Walk

variable {answers : Answers Id} {strict : Bool} {entry : Location}

/-- The files that a walk has entered, the latest first. -/
def entered (walk : Walk) : List Location :=
  walk.marks.filterMap fun (file, mark) => if mark = .onPath then some file else none

@[simp]
theorem entered_mk_finished (record : Record) (marks : List (Location × Mark))
    (stack : List Frame) (file : Location) :
    entered ⟨record, (file, .finished) :: marks, stack⟩ = entered ⟨record, marks, stack⟩ := rfl

@[simp]
theorem entered_entering (answers : Answers Id) (walk : Walk) (file : Location) :
    (walk.entering answers file).entered = file :: walk.entered := rfl

/-- Every file that was seen was entered, and only once. The files on the path were entered in the
order in which they are on it. -/
structure Entered (walk : Walk) : Prop where
  mem_iff : ∀ file, file ∈ walk.entered ↔ (walk.mark? file).isSome = true
  nodup : walk.entered.Nodup
  path_sublist : walk.path.Sublist walk.entered

theorem entered_first : (first answers entry).Entered where
  mem_iff file := by
    rw [first, mark?_entering, entered_entering]
    by_cases same : file = entry
    · simp [same]
    · simp [same, start, entered, mark?]
  nodup := List.nodup_singleton entry
  path_sublist := .refl _

/-- A file that was not seen can be entered. -/
theorem Entered.entering {walk : Walk} (h : walk.Entered) {target : Location}
    (unseen : walk.mark? target = none) : (walk.entering answers target).Entered where
  mem_iff file := by
    rw [entered_entering, mark?_entering, List.mem_cons, h.mem_iff]
    by_cases same : file = target
    · simp [same]
    · rw [if_neg same, or_iff_right same]
  nodup := by
    rw [entered_entering]
    refine List.nodup_cons.mpr ⟨?_, h.nodup⟩
    intro there
    rw [h.mem_iff, unseen] at there
    cases there
  path_sublist := h.path_sublist.cons_cons target

theorem Step.entered {walk later : Walk} (step : Step answers strict walk later)
    (path : walk.OnPath answers entry) (h : walk.Entered) : later.Entered := by
  cases step with
  | finish done =>
      rename_i record marks frame below
      refine ⟨?_, h.nodup, .trans (List.sublist_cons_self _ _) h.path_sublist⟩
      intro file
      rw [entered_mk_finished, mark?_mk_cons]
      by_cases same : file = frame.file
      · rw [if_pos same, same]
        exact iff_of_true ((h.mem_iff frame.file).mpr path.top_seen) rfl
      · rw [if_neg same]
        exact h.mem_iff file
  | look next seen => exact ⟨h.mem_iff, h.nodup, h.path_sublist⟩
  | enter next unseen allowed =>
      rename_i record marks frame below target
      have looked : Entered ⟨record, marks, frame.advance :: below⟩ :=
        ⟨h.mem_iff, h.nodup, h.path_sublist⟩
      exact looked.entering unseen

theorem Steps.entered {walk : Walk} (steps : Steps answers strict (first answers entry) walk) :
    walk.Entered := by
  induction steps with
  | refl => exact entered_first
  | tail before step ih => exact step.entered (Steps.coherent before).onPath ih

/-! ## What is logged -/

/-- Following requests logs nothing. -/
theorem follow_logging (file : Location) (specifiers : List Specifier) (record : Record)
    (log : List Location) :
    follow answers.logging strict file specifiers record log =
      (follow answers strict file specifiers record, log) := by
  -- Computations that leave the log alone, compared with their results.
  let silent : Correspondence (StateT (List Location) Id) Id :=
    { holds := fun x a => ∀ log, x log = (a, log)
      holds_pure := fun _ _ => rfl
      holds_bind := by
        intro _ _ x y f g first next log
        change (f (x log).1) (x log).2 = _
        rw [first log]
        exact next y log }
  exact follow_corresponds silent (fun _ _ _ => rfl) strict file specifiers record log

/-- Expanding a file logs that file. -/
theorem expand_logging (file : Location) (record : Record) (log : List Location) :
    expand answers.logging strict file record log =
      (expand answers strict file record, log ++ [file]) := by
  have asked : answers.logging.imports file log = (answers.imports file, log ++ [file]) := rfl
  rw [expand, expand]
  simp only [bind, StateT.bind, asked]
  cases answers.imports file with
  | ok specifiers => exact follow_logging file specifiers record (log ++ [file])
  | error failure => cases strict <;> rfl

theorem enter_logging (file : Location) (walk : Walk) (log : List Location) :
    walk.enter answers.logging strict file log =
      (walk.enter answers strict file, log ++ [file]) := by
  rw [enter, enter]
  simp only [bind, StateT.bind, expand_logging]
  cases expand answers strict file walk.record <;> rfl

/-- Moves enter nothing. -/
theorem entered_settle (moves : Nat) (walk : Walk) :
    (settle moves walk).1.entered = walk.entered := by
  induction moves generalizing walk with
  | zero => rfl
  | succ moves ih =>
      obtain ⟨record, marks, stack⟩ := walk
      cases stack with
      | nil => rfl
      | cons frame below =>
          rw [settle]
          cases next : frame.targets[frame.next]? with
          | none =>
              rw [turn_of_done next]
              exact ih _
          | some target =>
              cases seen : marks.lookup target with
              | none =>
                  rw [turn_of_unseen next seen]
                  rfl
              | some mark =>
                  rw [turn_of_seen next seen]
                  exact ih _

/-- As long as a walk goes on, what is logged is what it has entered. -/
theorem explore_logging (entrances : Nat) (walk : Walk) {log : List Location}
    (h : log = walk.entered.reverse) :
    (explore answers.logging strict entrances walk log).1 =
        explore answers strict entrances walk ∧
      ∀ last, explore answers strict entrances walk = Except.ok last →
        (explore answers.logging strict entrances walk log).2 = last.entered.reverse := by
  induction entrances generalizing walk log with
  | zero =>
      refine ⟨rfl, ?_⟩
      intro last ended
      cases ended
      rw [settled, entered_settle]
      exact h
  | succ entrances ih =>
      have settled_entered : walk.settled.1.entered = walk.entered := entered_settle _ _
      rw [explore, explore]
      generalize walk.settled = outcome at settled_entered ⊢
      obtain ⟨settled, next⟩ := outcome
      cases next with
      | none =>
          refine ⟨rfl, ?_⟩
          intro last ended
          cases ended
          rw [settled_entered]
          exact h
      | some file =>
          simp only [bind, StateT.bind, enter_logging]
          by_cases allowed : strict = true → answers.failures file = []
          · rw [enter_eq_ok answers settled allowed]
            refine ih _ ?_
            rw [entered_entering, List.reverse_cons, settled_entered, h]
          · obtain ⟨rfl, failed⟩ := Classical.not_imp.mp allowed
            obtain ⟨failure, others, listed⟩ := List.exists_cons_of_ne_nil failed
            rw [enter_eq_error answers settled listed]
            refine ⟨rfl, ?_⟩
            intro last ended
            cases ended

/-- A whole walk that logs comes to what it comes to without a log. -/
theorem whole_logging_fst (policy : Policy) (size : Nat) :
    (whole answers.logging policy size entry []).1 = whole answers policy size entry := by
  rw [whole, whole]
  simp only [bind, StateT.bind, enter_logging]
  cases listed : answers.failures entry with
  | nil =>
      rw [enter_eq_ok answers (start entry) fun _ => listed]
      exact (explore_logging size _ rfl).1
  | cons failure others =>
      rw [enter_eq_error answers (start entry) listed]
      rfl

/-- What a whole walk logs is what it has entered, in order. -/
theorem whole_logging {policy : Policy} {size : Nat} {walk : Walk}
    (h : whole answers policy size entry = Except.ok walk) :
    (whole answers.logging policy size entry []).2 = walk.entered.reverse := by
  rw [whole] at h ⊢
  simp only [bind, StateT.bind, enter_logging] at h ⊢
  cases listed : answers.failures entry with
  | nil =>
      rw [enter_eq_ok answers (start entry) fun _ => listed] at h ⊢
      exact (explore_logging size _ rfl).2 walk h
  | cons failure others =>
      rw [enter_eq_error answers (start entry) listed] at h
      cases h

/-- When a file is to be entered, one unseen file less is left after that. -/
theorem unseenAmong_lt_of_settled {within : List Location}
    (bounded : ∀ file, ∀ target ∈ answers.targets file, target ∈ within) {walk looked : Walk}
    {target : Location} (h : walk.TargetsWithin within)
    (settled : walk.settled = (looked, some target)) :
    (looked.entering answers target).TargetsWithin within ∧
      (looked.entering answers target).unseenAmong within < walk.unseenAmong within := by
  obtain ⟨last, steps, ⟨none_left, _⟩ | ⟨target', looked', found, turned⟩⟩ :=
    settle_steps answers false (Nat.lt_succ_self walk.remaining)
  · cases none_left.symm.trans settled
  · cases found.symm.trans settled
    have last_within := steps.targetsWithin bounded h
    obtain ⟨present, _⟩ := unseen_of_turn last_within turned
    obtain ⟨record, marks, frame, below, rfl, next, unseen, rfl⟩ := of_turn_unseen turned
    have step : Step answers false ⟨record, marks, frame :: below⟩
        (entering answers ⟨record, marks, frame.advance :: below⟩ target) :=
      .enter next unseen fun strictly => Bool.noConfusion strictly
    exact ⟨step.targetsWithin bounded last_within,
      Nat.lt_of_lt_of_le (unseenAmong_entering_lt present unseen) (steps.unseenAmong_le within)⟩

/-- It does not matter how many entrances are left, as long as they are enough for all unseen
files. -/
theorem explore_logging_of_le {within : List Location}
    (bounded : ∀ file, ∀ target ∈ answers.targets file, target ∈ within) {entrances more : Nat}
    {walk : Walk} (h : walk.TargetsWithin within) (enough : walk.unseenAmong within ≤ entrances)
    (enough' : walk.unseenAmong within ≤ more) (log : List Location) :
    explore answers.logging strict entrances walk log =
      explore answers.logging strict more walk log := by
  induction entrances generalizing more walk log with
  | zero =>
      cases more with
      | zero => rfl
      | succ more =>
          rw [explore, explore]
          cases settled : walk.settled with
          | mk looked next =>
              cases next with
              | none => rfl
              | some target =>
                  have fewer := (unseenAmong_lt_of_settled bounded h settled).2
                  omega
  | succ entrances ih =>
      cases settled : walk.settled with
      | mk looked next =>
          cases next with
          | none => cases more <;> simp only [explore, settled]
          | some target =>
              obtain ⟨within_later, fewer⟩ := unseenAmong_lt_of_settled bounded h settled
              obtain ⟨more, rfl⟩ := Nat.exists_eq_add_one_of_ne_zero (show more ≠ 0 by omega)
              simp only [explore, settled, bind, StateT.bind, enter_logging]
              by_cases allowed : strict = true → answers.failures target = []
              · rw [enter_eq_ok answers looked allowed]
                exact ih within_later (by omega) (by omega) _
              · obtain ⟨rfl, failed⟩ := Classical.not_imp.mp allowed
                obtain ⟨failure, others, listed⟩ := List.exists_cons_of_ne_nil failed
                rw [enter_eq_error answers looked listed]

/-- It does not matter how many entrances a whole walk has, as long as they are enough for all
targets. -/
theorem whole_logging_of_le {within : List Location}
    (bounded : ∀ file, ∀ target ∈ answers.targets file, target ∈ within) {size more : Nat}
    (enough : within.length ≤ size) (enough' : within.length ≤ more) (policy : Policy)
    (file : Location) :
    whole answers.logging policy size file [] = whole answers.logging policy more file [] := by
  rw [whole, whole]
  simp only [bind, StateT.bind, enter_logging]
  cases listed : answers.failures file with
  | cons failure others => rw [enter_eq_error answers (start file) listed]
  | nil =>
      rw [enter_eq_ok answers (start file) fun _ => listed]
      have few : ((start file).entering answers file).unseenAmong within ≤ within.length :=
        List.countP_le_length
      refine explore_logging_of_le bounded ?_ (few.trans enough) (few.trans enough') _
      intro frame present
      rw [List.mem_singleton.mp present]
      exact bounded file

theorem whole_of_le {within : List Location}
    (bounded : ∀ file, ∀ target ∈ answers.targets file, target ∈ within) {size more : Nat}
    (enough : within.length ≤ size) (enough' : within.length ≤ more) (policy : Policy)
    (file : Location) : whole answers policy size file = whole answers policy more file := by
  rw [← whole_logging_fst, whole_logging_of_le bounded enough enough', whole_logging_fst]

end Walk

end ModuleGraph
