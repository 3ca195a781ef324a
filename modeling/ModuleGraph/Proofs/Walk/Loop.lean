import Mathlib.Data.List.Perm.Basic
import ModuleGraph.Proofs.Walk.Failures

/-!
# The turns of a walk, counted

`Walk.loop` takes one turn of a walk after the other and lists what each of them does: the topmost
file is taken from the stack, its next target is looked at and passed by, or that target is
entered. It is given a limit on the number of turns and comes to nothing if that is too low.

`Walk.exists_loop` says that any limit from some number on is enough. How many turns there are is
read off the list (`Walk.Tally`): it takes every file that was entered from the stack once, and
looks at every target of such a file once, namely at its place. So a walk that comes to its end
takes one turn for each file of its graph and one for each edge (`Walk.Thorough`).
-/

namespace ModuleGraph

/-- What is done in one turn of a walk. -/
inductive Move where
  /-- All targets of a file have been looked at, and it is taken from the stack. -/
  | leave (file : Location)
  /-- The target at some place among those of a file is looked at. It was seen before. -/
  | pass (source : Location) (place : Nat) (target : Location)
  /-- The target at some place among those of a file is looked at and put on the stack. -/
  | enter (source : Location) (place : Nat) (target : Location)
  deriving DecidableEq, Repr

namespace Move

/-- The file that is taken from the stack. -/
def left? : Move → Option Location
  | leave file => some file
  | pass _ _ _ => none
  | enter _ _ _ => none

/-- The file that is put on the stack. -/
def entered? : Move → Option Location
  | leave _ => none
  | pass _ _ _ => none
  | enter _ _ target => some target

/-- The file whose target is looked at, with the place of that target and the target itself. -/
def looked? : Move → Option (Location × Nat × Location)
  | leave _ => none
  | pass source place target => some (source, place, target)
  | enter source place target => some (source, place, target)

/-- What is read off moves when there is one more. -/
theorem filterMap_concat {α : Type} (read : Move → Option α) (moves : List Move) (move : Move) :
    (moves ++ [move]).filterMap read = moves.filterMap read ++ (read move).toList := by
  rw [List.filterMap_append, List.filterMap_cons]
  cases read move <;> rfl

/-- In each turn a file is taken from the stack or a target is looked at. -/
theorem length_eq (moves : List Move) :
    moves.length = (moves.filterMap left?).length + (moves.filterMap looked?).length := by
  induction moves with
  | nil => rfl
  | cons move rest ih =>
      simp only [List.filterMap_cons, List.length_cons, ih]
      cases move with
      | leave file => exact Nat.add_right_comm _ _ 1
      | pass source place target => rfl
      | enter source place target => rfl

end Move

/-! ## Edges and their places -/

/-- The edges from a file to its targets, each with its place among them. -/
def placed (source : Location) (targets : List Location) : List (Location × Nat × Location) :=
  targets.zipIdx.map fun (target, place) => (source, place, target)

theorem length_placed (source : Location) (targets : List Location) :
    (placed source targets).length = targets.length := by
  rw [placed, List.length_map, List.length_zipIdx]

/-- The edge at a place. -/
theorem getElem?_placed (source : Location) (targets : List Location) (place : Nat) :
    (placed source targets)[place]? =
      targets[place]?.map fun target => (source, place, target) := by
  rw [placed, List.getElem?_map, List.getElem?_zipIdx, Option.map_map, Nat.zero_add]
  rfl

/-- The edges of a graph, each with its place among those from the same file. -/
def Graph.edges (graph : Graph) : List (Location × Nat × Location) :=
  graph.nodes.flatMap fun (source, targets) => placed source targets

theorem Graph.length_edges (graph : Graph) : graph.edges.length = graph.edgeCount := by
  rw [edges, edgeCount, List.length_flatMap, List.sum_eq_foldr]
  congr 2
  funext node
  exact length_placed node.1 node.2

theorem Graph.length_files (graph : Graph) : graph.files.length = graph.nodeCount :=
  List.length_map _

namespace Walk

/-! ## The loop -/

/-- What the next turn does, if the walk has not come to its end. -/
def move? (walk : Walk) : Option Move :=
  match walk.stack with
  | [] => none
  | frame :: _ =>
    match frame.targets[frame.next]? with
    | none => some (.leave frame.file)
    | some target =>
      match walk.mark? target with
      | some _ => some (.pass frame.file frame.next target)
      | none => some (.enter frame.file frame.next target)

/-- The walk after the next turn. -/
def advance (answers : Answers Id) (strict : Bool) (walk : Walk) : Except Abandoned Walk :=
  match walk.turn with
  | .ended => .ok walk
  | .moved later => .ok later
  | .unseen file looked => looked.enter answers strict file

/-- Takes turns up to the end of a walk, with a list of what they do. If there are more than the
limit, there is no result. -/
def loop (answers : Answers Id) (strict : Bool) :
    Nat → Walk → Option (List Move × Except Abandoned Walk)
  | 0, walk =>
    match walk.move? with
    | none => some ([], .ok walk)
    | some _ => none
  | limit + 1, walk =>
    match walk.move? with
    | none => some ([], .ok walk)
    | some move =>
      match walk.advance answers strict with
      | .error abandoned => some ([move], .error abandoned)
      | .ok later => (loop answers strict limit later).map fun (moves, result) =>
          (move :: moves, result)

/-- A whole walk from a file, turn by turn. The file itself is entered before the first turn. -/
def looping (answers : Answers Id) (policy : Policy) (limit : Nat) (file : Location) :
    Option (List Move × Except Abandoned Walk) :=
  match ((start file).enter answers true file : Except Abandoned Walk) with
  | .error abandoned => some ([], .error abandoned)
  | .ok walk => loop answers (policy = .abort) limit walk

variable {answers : Answers Id} {strict : Bool} {entry : Location}

section Turns

variable {record : Record} {marks : List (Location × Mark)} {frame : Frame} {below : List Frame}
  {target : Location}

theorem move?_of_done (done : frame.targets[frame.next]? = none) :
    move? ⟨record, marks, frame :: below⟩ = some (.leave frame.file) := by
  simp only [move?, done]

theorem move?_of_seen {mark : Mark} (next : frame.targets[frame.next]? = some target)
    (seen : marks.lookup target = some mark) :
    move? ⟨record, marks, frame :: below⟩ = some (.pass frame.file frame.next target) := by
  simp only [move?, next, mark?, seen]

theorem move?_of_unseen (next : frame.targets[frame.next]? = some target)
    (unseen : marks.lookup target = none) :
    move? ⟨record, marks, frame :: below⟩ = some (.enter frame.file frame.next target) := by
  simp only [move?, next, mark?, unseen]

end Turns

theorem loop_of_ended {walk : Walk} (ended : walk.stack = []) (limit : Nat) :
    loop answers strict limit walk = some ([], .ok walk) := by
  have no_move : walk.move? = none := by simp only [move?, ended]
  cases limit <;> simp only [loop, no_move]

/-- A turn is a step, and something is done in it. -/
theorem Step.exists_move {walk later : Walk} (step : Step answers strict walk later) :
    ∃ move, walk.move? = some move ∧ walk.advance answers strict = .ok later := by
  cases step with
  | finish done =>
      rw [move?_of_done done, advance, turn_of_done done]
      exact ⟨_, rfl, rfl⟩
  | look next seen =>
      rw [move?_of_seen next seen, advance, turn_of_seen next seen]
      exact ⟨_, rfl, rfl⟩
  | enter next unseen allowed =>
      rw [move?_of_unseen next unseen, advance, turn_of_unseen next unseen]
      exact ⟨_, rfl, enter_eq_ok answers _ allowed⟩

/-- The turn in which a walk is given up. -/
theorem Halts.exists_move {walk : Walk} {abandoned : Abandoned}
    (halts : Halts answers strict walk (.error abandoned)) :
    ∃ move, walk.move? = some move ∧ walk.advance answers strict = .error abandoned := by
  cases halts with
  | abandoned next unseen strictly failed =>
      rw [move?_of_unseen next unseen, advance, turn_of_unseen next unseen, strictly]
      exact ⟨_, rfl, enter_eq_error answers _ failed⟩

variable (answers strict) in
/-- Some steps, with a list of what they do. -/
inductive Moves : Walk → List Move → Walk → Prop
  | nil {walk : Walk} : Moves walk [] walk
  | cons {walk middle last : Walk} {move : Move} {moves : List Move}
      (step : Step answers strict walk middle) (does : walk.move? = some move)
      (later : Moves middle moves last) : Moves walk (move :: moves) last

/-- The loop takes the turns that lead to where a walk halts. As many as these are enough for it,
and fewer are not. -/
theorem exists_loop {walk last : Walk} {result : Except Abandoned Walk}
    (steps : Steps answers strict walk last) (halts : Halts answers strict last result) :
    ∃ moves, (∀ limit, loop answers strict limit walk =
        if moves.length ≤ limit then some (moves, result) else none) ∧
      ∀ final, result = .ok final → Moves answers strict walk moves final := by
  induction steps using Relation.ReflTransGen.head_induction_on with
  | refl =>
      cases result with
      | ok final =>
          obtain ⟨rfl, ended⟩ := halts.of_ok
          refine ⟨[], fun limit => ?_, ?_⟩
          · rw [loop_of_ended ended, List.length_nil, if_pos (Nat.zero_le limit)]
          · intro final same
            cases same
            exact .nil
      | error abandoned =>
          obtain ⟨move, does, fails⟩ := halts.exists_move
          refine ⟨[move], fun limit => ?_, fun final same => nomatch same⟩
          cases limit with
          | zero => simp [loop, does]
          | succ limit => simp [loop, does, fails]
  | head step _ ih =>
      obtain ⟨moves, looped, listed⟩ := ih
      obtain ⟨move, does, advanced⟩ := step.exists_move
      refine ⟨move :: moves, fun limit => ?_, fun final same => .cons step does (listed final same)⟩
      cases limit with
      | zero => simp [loop, does]
      | succ limit =>
          simp only [loop, does, advanced, looped, List.length_cons, Nat.succ_le_succ_iff]
          split <;> rfl

/-! ## What the turns come to -/

/-- The edges that a frame has passed. -/
def passedBy (frame : Frame) : List (Location × Nat × Location) :=
  (placed frame.file frame.targets).take frame.next

/-- The next target is the next edge to be passed. -/
theorem passedBy_advance {frame : Frame} {target : Location}
    (next : frame.targets[frame.next]? = some target) :
    passedBy frame.advance = passedBy frame ++ [(frame.file, frame.next, target)] := by
  have at_next : (placed frame.file frame.targets)[frame.next]? =
      some (frame.file, frame.next, target) := by rw [getElem?_placed, next]; rfl
  rw [passedBy, passedBy, Frame.advance_targets, Frame.advance_next, List.take_add_one]
  exact congrArg (_ ++ ·) (congrArg Option.toList at_next)

/-- A frame whose cursor is at the end has passed all edges of its file. -/
theorem passedBy_of_done {frame : Frame} (done : frame.targets[frame.next]? = none) :
    passedBy frame = placed frame.file frame.targets := by
  rw [passedBy, List.take_of_length_le]
  rw [length_placed]
  exact List.getElem?_eq_none_iff.mp done

variable (answers entry) in
/-- What some turns have done by the time that the walk has come so far: they have entered what was
entered after the first file, have taken from the stack what is not on it any more, and have looked
at all targets of those files and at the targets that the frames have passed. -/
structure Tally (moves : List Move) (walk : Walk) : Prop where
  entered : entry :: moves.filterMap Move.entered? = walk.entered.reverse
  left : (moves.filterMap Move.left? ++ walk.path).Perm walk.entered
  looked : (moves.filterMap Move.looked?).Perm
    ((moves.filterMap Move.left?).flatMap (fun file => placed file (answers.targets file)) ++
      walk.stack.flatMap passedBy)

theorem tally_first : Tally answers entry [] (first answers entry) where
  entered := rfl
  left := .refl _
  looked := .refl _

/-- One more edge is passed by the topmost frame. -/
theorem perm_passedBy_advance {edges before : List (Location × Nat × Location)} {frame : Frame}
    {below : List Frame} {target : Location} (next : frame.targets[frame.next]? = some target)
    (h : edges.Perm (before ++ (frame :: below).flatMap passedBy)) :
    (edges ++ [(frame.file, frame.next, target)]).Perm
      (before ++ (frame.advance :: below).flatMap passedBy) := by
  rw [List.flatMap_cons] at h
  rw [List.flatMap_cons, passedBy_advance next]
  calc (edges ++ [(frame.file, frame.next, target)]).Perm
        (before ++ (passedBy frame ++ below.flatMap passedBy) ++
          [(frame.file, frame.next, target)]) := h.append_right _
    _ = before ++ (passedBy frame ++ (below.flatMap passedBy ++
          [(frame.file, frame.next, target)])) := by simp only [List.append_assoc]
    List.Perm _ (before ++ (passedBy frame ++ ([(frame.file, frame.next, target)] ++
          below.flatMap passedBy))) := ((List.perm_append_comm.append_left _).append_left _)
    _ = before ++ (passedBy frame ++ [(frame.file, frame.next, target)] ++
          below.flatMap passedBy) := by simp only [List.append_assoc]

theorem Tally.step {before : List Move} {walk later : Walk} {move : Move}
    (h : Tally answers entry before walk) (path : walk.OnPath answers entry)
    (step : Step answers strict walk later) (does : walk.move? = some move) :
    Tally answers entry (before ++ [move]) later := by
  cases step with
  | finish done =>
      rename_i record marks frame below
      cases (move?_of_done done).symm.trans does
      have all_passed : passedBy frame = placed frame.file (answers.targets frame.file) := by
        rw [passedBy_of_done done, path.targets frame List.mem_cons_self]
      refine ⟨?_, ?_, ?_⟩
      · rw [Move.filterMap_concat, Move.entered?, Option.toList_none, List.append_nil]
        exact h.entered
      · rw [Move.filterMap_concat, Move.left?, Option.toList_some, List.append_assoc]
        exact h.left
      · have before_looked := h.looked
        rw [List.flatMap_cons, all_passed] at before_looked
        rw [Move.filterMap_concat, Move.looked?, Option.toList_none, List.append_nil,
          Move.filterMap_concat, Move.left?, Option.toList_some, List.flatMap_append,
          List.flatMap_singleton, List.append_assoc]
        exact before_looked
  | look next seen =>
      cases (move?_of_seen next seen).symm.trans does
      refine ⟨?_, ?_, ?_⟩
      · rw [Move.filterMap_concat, Move.entered?, Option.toList_none, List.append_nil]
        exact h.entered
      · rw [Move.filterMap_concat, Move.left?, Option.toList_none, List.append_nil]
        exact h.left
      · rw [Move.filterMap_concat, Move.looked?, Option.toList_some, Move.filterMap_concat,
          Move.left?, Option.toList_none, List.append_nil]
        exact perm_passedBy_advance next h.looked
  | enter next unseen allowed =>
      rename_i record marks frame below target
      cases (move?_of_unseen next unseen).symm.trans does
      refine ⟨?_, ?_, ?_⟩
      · rw [entered_entering, List.reverse_cons, Move.filterMap_concat, Move.entered?,
          Option.toList_some, ← List.cons_append, h.entered]
        rfl
      · rw [Move.filterMap_concat, Move.left?, Option.toList_none, List.append_nil]
        exact List.perm_middle.trans (h.left.cons target)
      · rw [Move.filterMap_concat, Move.looked?, Option.toList_some, Move.filterMap_concat,
          Move.left?, Option.toList_none, List.append_nil]
        exact perm_passedBy_advance next h.looked

/-- What has been done after some more turns. -/
theorem Moves.tally {before moves : List Move} {walk last : Walk}
    (later : Moves answers strict walk moves last)
    (steps : Steps answers strict (first answers entry) walk)
    (h : Tally answers entry before walk) : Tally answers entry (before ++ moves) last := by
  induction later generalizing before with
  | nil => rwa [List.append_nil]
  | cons step does _ ih =>
      rw [← List.singleton_append, ← List.append_assoc]
      exact ih (steps.tail step) (h.step (Steps.coherent steps).onPath step does)

/-- The edges of the graph of a walk that has found exactly what can be reached. -/
theorem Exact.edges_eq {walk : Walk} (h : walk.Exact answers entry) :
    walk.record.graph.edges =
      walk.record.graph.files.flatMap fun file => placed file (answers.targets file) := by
  rw [Graph.edges, Graph.files, List.flatMap_map]
  refine List.flatMap_congr fun node present => ?_
  have known := Graph.dependencies?_of_mem h.nodup present
  rw [h.dependencies node.1 (List.mem_map_of_mem present)] at known
  rw [Option.some.inj known]

variable (entry) in
/-- What some turns have done if with them the walk has come to its end. -/
structure Thorough (moves : List Move) (walk : Walk) : Prop where
  nodup : walk.record.graph.files.Nodup
  /-- Every file of the graph was put on the stack once, the first one before the first turn. -/
  entered : (entry :: moves.filterMap Move.entered?).Perm walk.record.graph.files
  /-- Every file of the graph was taken from the stack once. -/
  left : (moves.filterMap Move.left?).Perm walk.record.graph.files
  /-- Every edge of the graph was looked at once. -/
  looked : (moves.filterMap Move.looked?).Perm walk.record.graph.edges
  finished : ∀ file ∈ walk.record.graph.files, walk.mark? file = some .finished
  /-- There was one turn for each file and one for each edge. -/
  length_eq : moves.length = walk.record.graph.nodeCount + walk.record.graph.edgeCount

/-- A walk to its end is thorough. -/
theorem Moves.thorough {moves : List Move} {walk : Walk}
    (turns : Moves answers strict (first answers entry) moves walk)
    (steps : Steps answers strict (first answers entry) walk) (ended : walk.stack = []) :
    walk.Thorough entry moves := by
  have exact_walk := steps.exact ended
  have tally := turns.tally .refl tally_first
  have files_entered : walk.entered.Perm walk.record.graph.files :=
    (List.perm_ext_iff_of_nodup steps.entered.nodup exact_walk.nodup).mpr fun file =>
      (steps.mem_files_iff ended file).symm
  have left : (moves.filterMap Move.left?).Perm walk.record.graph.files := by
    have all_left := tally.left
    rw [path, ended, List.map_nil, List.append_nil] at all_left
    exact all_left.trans files_entered
  have looked : (moves.filterMap Move.looked?).Perm walk.record.graph.edges := by
    have all_looked := tally.looked
    rw [ended, List.flatMap_nil, List.append_nil] at all_looked
    rw [exact_walk.edges_eq]
    exact all_looked.trans (left.flatMap_right _)
  exact
    { nodup := exact_walk.nodup
      entered := by
        have all_entered := tally.entered
        rw [List.nil_append] at all_entered
        rw [all_entered]
        exact (List.reverse_perm _).trans files_entered
      left := left
      looked := looked
      finished := exact_walk.finished
      length_eq := by
        rw [Move.length_eq, left.length_eq, looked.length_eq, Graph.length_files,
          Graph.length_edges] }

/-- A whole walk takes finitely many turns, and comes to the same in whichever way it is taken. If
it is not given up, it is thorough. -/
theorem exists_looping {within : List Location}
    (bounded : ∀ file, ∀ target ∈ answers.targets file, target ∈ within) {size : Nat}
    (enough : within.length ≤ size) (policy : Policy) (entry : Location) :
    ∃ moves, (∀ limit, looping answers policy limit entry =
        if moves.length ≤ limit then some (moves, whole answers policy size entry) else none) ∧
      ∀ walk, whole answers policy size entry = Except.ok walk → walk.Thorough entry moves := by
  rcases whole_halts bounded enough policy entry with
    ⟨failure, others, listed, given_up⟩ | ⟨none, last, steps, halts⟩
  · refine ⟨[], fun limit => ?_, fun walk succeeds => ?_⟩
    · rw [looping, enter_eq_error answers (start entry) listed, given_up, List.length_nil,
        if_pos (Nat.zero_le limit)]
      rfl
    · rw [given_up] at succeeds
      cases succeeds
  · obtain ⟨moves, looped, turns⟩ := exists_loop steps halts
    refine ⟨moves, fun limit => ?_, fun walk succeeds => ?_⟩
    · rw [looping, enter_eq_ok answers (start entry) fun _ => none]
      exact looped limit
    · rw [succeeds] at halts
      obtain ⟨rfl, ended⟩ := halts.of_ok
      exact (turns last succeeds).thorough steps ended

end Walk

end ModuleGraph
