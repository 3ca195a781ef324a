import ModuleGraph.Proofs.Walk.Cycles

/-!
# The stack does what a recursion would do

The walk that one would write down first is recursive: to visit a file, expand it, then look at its
targets one after the other, and visit those that were never seen before. What it finds, a
`Survey`, is threaded through. `Survey.visit` is this recursion. It is given the depth to which its
calls may go inside one another, and says nothing if that is too little.

`Walk.Steps.recurses` says that a walk with a stack goes through the recursion step by step,
whatever the graph is and wherever a failure ends it, and `Walk.whole_recurses` that both come to
the same. A depth of one more than there are files is always enough, and less than enough never
gives anything else.
-/

namespace ModuleGraph

/-- What a recursive walk has found so far. -/
structure Survey where
  graph : Graph
  marks : Location → Option Mark
  cycles : List Cycle
  failures : List Failure

namespace Survey

/-- The survey with a mark set. -/
def setMark (survey : Survey) (file : Location) (mark : Mark) : Survey :=
  { survey with marks := fun other => if other = file then some mark else survey.marks other }

/-- The survey with a file registered and a dependency on it. -/
def link (survey : Survey) (source target : Location) : Survey :=
  { survey with graph := (survey.graph.register target).link source target }

/-- What a failure leads to: the end, strictly, and otherwise it is kept. -/
def fail (survey : Survey) (strict : Bool) (failure : Failure) : Except Failure Survey :=
  if strict then .error failure
  else .ok { survey with failures := survey.failures ++ [failure] }

/-- The survey with the cycle that a file of the path closes, unless it is there already. The path
is given from its first file on. -/
def close (survey : Survey) (path : List Location) (target : Location) : Survey :=
  let cycle : Cycle := ⟨path.dropWhile (· ≠ target) ++ [target]⟩
  if cycle ∈ survey.cycles then survey else { survey with cycles := survey.cycles ++ [cycle] }

variable (answers : Answers Id)

/-- Resolves the requests of a file one after the other and registers what they lead to. -/
def resolveEach (strict : Bool) (file : Location) :
    List Specifier → Survey → Except Failure (List Location × Survey)
  | [], survey => .ok ([], survey)
  | specifier :: rest, survey =>
    match (answers.target file specifier.request : Except Failure Location) with
    | .ok target =>
      match resolveEach strict file rest (survey.link file target) with
      | .ok (targets, survey) => .ok (target :: targets, survey)
      | .error failure => .error failure
    | .error failure =>
      match survey.fail strict failure with
      | .ok survey => resolveEach strict file rest survey
      | .error failure => .error failure

/-- Reads the requests of a file and resolves them. -/
def expand (strict : Bool) (file : Location) (survey : Survey) :
    Except Failure (List Location × Survey) :=
  match (answers.imports file : Except Failure (List Specifier)) with
  | .ok specifiers => survey.resolveEach answers strict file specifiers
  | .error failure =>
    match survey.fail strict failure with
    | .ok survey => .ok ([], survey)
    | .error failure => .error failure

/-- Looks at targets of the last file on the path, one after the other, and visits those that were
never seen. -/
def visitEach (visit : Location → List Location → Survey → Option (Except Failure Survey))
    (path : List Location) : List Location → Survey → Option (Except Failure Survey)
  | [], survey => some (.ok survey)
  | target :: rest, survey =>
    match survey.marks target with
    | some .finished => visitEach visit path rest survey
    | some .onPath => visitEach visit path rest (survey.close path target)
    | none =>
      match visit target (path ++ [target]) survey with
      | some (.ok survey) => visitEach visit path rest survey
      | some (.error failure) => some (.error failure)
      | none => none

variable (policy : Policy)

/-- Visits a file, the last on the path. -/
def visit : Nat → Bool → Location → List Location → Survey → Option (Except Failure Survey)
  | 0, _, _, _, _ => none
  | depth + 1, isEntry, file, path, survey =>
    match (survey.setMark file .onPath).expand answers (isEntry || policy = .abort) file with
    | .error failure => some (.error failure)
    | .ok (targets, survey) =>
      match visitEach (visit depth false) path targets survey with
      | some (.ok survey) => some (.ok (survey.setMark file .finished))
      | some (.error failure) => some (.error failure)
      | none => none

/-- The outcome that a survey shows. -/
def outcome (survey : Survey) : Outcome :=
  ⟨survey.graph, survey.cycles, survey.failures⟩

/-- The recursive walk from a file. -/
def whole (depth : Nat) (file : Location) : Option (Except Failure Survey) :=
  visit answers policy depth true file [file] ⟨Graph.empty.register file, fun _ => none, [], []⟩

variable {answers policy}

/-! ## Depth -/

/-- Where visits give the same as others whenever these give anything, so does looking at
targets. -/
theorem visitEach_mono
    {one other : Location → List Location → Survey → Option (Except Failure Survey)}
    (h : ∀ file path survey result, one file path survey = some result →
      other file path survey = some result)
    {path targets : List Location} {survey : Survey} {result : Except Failure Survey}
    (found : visitEach one path targets survey = some result) :
    visitEach other path targets survey = some result := by
  induction targets generalizing survey with
  | nil => exact found
  | cons target rest ih =>
      rw [visitEach] at found ⊢
      cases seen : survey.marks target with
      | some mark =>
          rw [seen] at found
          cases mark with
          | finished => exact ih found
          | onPath => exact ih found
      | none =>
          rw [seen] at found
          dsimp only at found ⊢
          cases visited : one target (path ++ [target]) survey with
          | none =>
              rw [visited] at found
              cases found
          | some outcome =>
              rw [visited] at found
              rw [h _ _ _ _ visited]
              cases outcome with
              | ok survey => exact ih found
              | error failure => exact found

/-- More depth does not change what a visit gives. -/
theorem visit_succ {depth : Nat} {isEntry : Bool} {file : Location} {path : List Location}
    {survey : Survey} {result : Except Failure Survey}
    (found : visit answers policy depth isEntry file path survey = some result) :
    visit answers policy (depth + 1) isEntry file path survey = some result := by
  induction depth generalizing isEntry file path survey result with
  | zero => cases found
  | succ depth ih =>
      rw [visit] at found ⊢
      split at found
      · exact found
      · next targets expanded read =>
        split at found
        · next survey looked =>
          rw [visitEach_mono (fun _ _ _ _ => ih) looked]
          exact found
        · next failure looked =>
          rw [visitEach_mono (fun _ _ _ _ => ih) looked]
          exact found
        · cases found

theorem whole_mono {depth more : Nat} (h : depth ≤ more) {file : Location}
    {result : Except Failure Survey} (found : whole answers policy depth file = some result) :
    whole answers policy more file = some result := by
  induction h with
  | refl => exact found
  | step _ ih => exact visit_succ ih

/-! ## Expanding a file -/

theorem link_eq {survey : Survey} {source : Location} (target : Location)
    (h : source ∈ survey.graph.files) :
    survey.link source target = { survey with graph := survey.graph.link source target } := by
  rw [link, Graph.link_register h]

/-- The survey after a file has been expanded. -/
def expanded (survey : Survey) (file : Location) (targets : List Location)
    (failures : List Failure) : Survey :=
  { survey with
    graph := survey.graph.linkAll file targets
    failures := survey.failures ++ failures }

theorem resolveEach_eq_ok {strict : Bool} {file : Location} {specifiers : List Specifier}
    {survey : Survey} (registered : file ∈ survey.graph.files)
    (h : strict = true → answers.unresolved file specifiers = []) :
    survey.resolveEach answers strict file specifiers =
      .ok (answers.resolved file specifiers,
        survey.expanded file (answers.resolved file specifiers)
          (answers.unresolved file specifiers)) := by
  induction specifiers generalizing survey with
  | nil => simp [resolveEach, Answers.resolved, Answers.unresolved, expanded]
  | cons specifier rest ih =>
      cases found : answers.target file specifier.request with
      | ok target =>
          rw [Answers.unresolved_cons_of_ok answers rest found] at h ⊢
          rw [Answers.resolved_cons_of_ok answers rest found]
          have still : file ∈ (survey.graph.link file target).files :=
            Graph.mem_files_link.mpr (Or.inr (Or.inr registered))
          simp only [resolveEach, found, link_eq target registered]
          rw [ih still h]
          rfl
      | error failure =>
          rw [Answers.unresolved_cons_of_error answers rest found] at h ⊢
          rw [Answers.resolved_cons_of_error answers rest found]
          obtain rfl := Walk.lenient_of_failure h
          have still : file ∈
              ({ survey with failures := survey.failures ++ [failure] } : Survey).graph.files :=
            registered
          have followed := ih still fun strictly => absurd strictly Bool.false_ne_true
          simp only [resolveEach, found, fail, Bool.false_eq_true, if_false, followed]
          simp [expanded]

/-- Strictly, the first request that leads nowhere ends the recursion. -/
theorem resolveEach_eq_error {file : Location} {specifiers : List Specifier} {survey : Survey}
    {failure : Failure} {others : List Failure}
    (h : answers.unresolved file specifiers = failure :: others) :
    survey.resolveEach answers true file specifiers = .error failure := by
  induction specifiers generalizing survey with
  | nil => cases h
  | cons specifier rest ih =>
      cases found : answers.target file specifier.request with
      | ok target =>
          rw [Answers.unresolved_cons_of_ok answers rest found] at h
          simp only [resolveEach, found, ih h]
      | error first =>
          rw [Answers.unresolved_cons_of_error answers rest found] at h
          cases h
          simp only [resolveEach, found, fail, if_true]

theorem expand_eq_ok {strict : Bool} {file : Location} {survey : Survey}
    (registered : file ∈ survey.graph.files) (h : strict = true → answers.failures file = []) :
    survey.expand answers strict file =
      .ok (answers.targets file,
        survey.expanded file (answers.targets file) (answers.failures file)) := by
  cases read : answers.imports file with
  | ok specifiers =>
      rw [Answers.failures_of_ok answers read] at h ⊢
      rw [Answers.targets_of_ok answers read]
      simp only [expand, read]
      exact resolveEach_eq_ok registered h
  | error failure =>
      rw [Answers.failures_of_error answers read] at h ⊢
      rw [Answers.targets_of_error answers read]
      obtain rfl := Walk.lenient_of_failure h
      simp only [expand, read, fail, Bool.false_eq_true, if_false]
      rfl

theorem expand_eq_error {file : Location} {survey : Survey} {failure : Failure}
    {others : List Failure} (h : answers.failures file = failure :: others) :
    survey.expand answers true file = .error failure := by
  cases read : answers.imports file with
  | ok specifiers =>
      rw [Answers.failures_of_ok answers read] at h
      simp only [expand, read]
      exact resolveEach_eq_error h
  | error first =>
      rw [Answers.failures_of_error answers read] at h
      cases h
      simp only [expand, read, fail, if_true]

end Survey

namespace Walk

variable {answers : Answers Id} {strict : Bool} {entry : Location}

/-! ## What a walk has found, as a survey -/

/-- What a walk has found so far. -/
def survey (walk : Walk) : Survey :=
  ⟨walk.record.graph, walk.mark?, walk.record.cycles, walk.record.failures⟩

theorem survey_entering (answers : Answers Id) (walk : Walk) (file : Location) :
    (walk.entering answers file).survey =
      (walk.survey.setMark file .onPath).expanded file (answers.targets file)
        (answers.failures file) := by
  have marks : (walk.entering answers file).mark? =
      fun other => if other = file then some .onPath else walk.mark? other := by
    funext other
    exact mark?_entering answers walk file other
  have cycles : (walk.entering answers file).record.cycles = walk.record.cycles :=
    Record.cycles_expanded _ _ _ _
  have failures : (walk.entering answers file).record.failures =
      walk.record.failures ++ answers.failures file := Record.failures_expanded _ _ _ _
  rw [survey, marks, cycles, failures]
  rfl

theorem survey_finished (record : Record) (marks : List (Location × Mark))
    (stack stack' : List Frame) (file : Location) :
    survey ⟨record, (file, .finished) :: marks, stack⟩ =
      (survey ⟨record, marks, stack'⟩).setMark file .finished := by
  have marked : mark? ⟨record, (file, .finished) :: marks, stack⟩ =
      fun other => if other = file then some .finished else marks.lookup other := by
    funext other
    exact mark?_mk_cons _ _ _ _ _ _
  rw [survey, marked]
  rfl

theorem survey_seeing {walk : Walk} {target : Location} (nodup : walk.path.Nodup)
    (present : target ∈ walk.path) :
    survey ⟨walk.seeing target .onPath, walk.marks, walk.stack⟩ =
      walk.survey.close walk.path.reverse target := by
  have cycle : (⟨walk.path.reverse.dropWhile (· ≠ target) ++ [target]⟩ : Cycle) =
      .onto walk.path target := congrArg Cycle.mk (Cycle.chain_onto nodup present).symm
  rw [survey, seeing_onPath present, Record.graph_noteCycle, Record.cycles_noteCycle,
    Record.failures_noteCycle, Survey.close, cycle]
  by_cases noted : Cycle.onto walk.path target ∈ walk.record.cycles
  · rw [if_pos noted, if_pos (show _ ∈ walk.survey.cycles from noted)]
    rfl
  · rw [if_neg noted, if_neg (show _ ∉ walk.survey.cycles from noted)]
    rfl

/-! ## Step by step through the recursion -/

variable (answers strict) in
/-- A walk goes on until there is a given stack, or until it is given up, and a recursion comes to
the same. -/
inductive Follows (walk : Walk) (stack : List Frame) : Option (Except Failure Survey) → Prop
  | ok {later : Walk} (steps : Steps answers strict walk later) (there : later.stack = stack) :
      Follows walk stack (some (.ok later.survey))
  | error {last : Walk} {abandoned : Abandoned} (steps : Steps answers strict walk last)
      (halts : Halts answers strict last (.error abandoned)) :
      Follows walk stack (some (.error abandoned.failure))

theorem Follows.after {walk middle : Walk} {stack : List Frame}
    {found : Option (Except Failure Survey)} (h : Follows answers strict middle stack found)
    (before : Steps answers strict walk middle) : Follows answers strict walk stack found := by
  cases h with
  | ok steps there => exact .ok (before.trans steps) there
  | error steps halts => exact .error (before.trans steps) halts

/-- Visiting a file that can be expanded is entering it, looking at its targets, and finishing
it. -/
theorem visit_follows {policy : Policy} {depth : Nat} {isEntry : Bool} {walk : Walk}
    {file : Location}
    (registered : file ∈ walk.record.graph.files)
    (allowed : (isEntry || policy = .abort) = true → answers.failures file = [])
    (each : Follows answers (policy = .abort) (walk.entering answers file)
      (⟨file, answers.targets file, (answers.targets file).length⟩ :: walk.stack)
      (Survey.visitEach (Survey.visit answers policy depth false) (walk.path.reverse ++ [file])
        (answers.targets file) (walk.entering answers file).survey)) :
    Follows answers (policy = .abort) (walk.entering answers file) walk.stack
      (Survey.visit answers policy (depth + 1) isEntry file (walk.path.reverse ++ [file])
        walk.survey) := by
  have registered : file ∈ (walk.survey.setMark file .onPath).graph.files := registered
  rw [Survey.visit, Survey.expand_eq_ok registered allowed, ← survey_entering]
  dsimp only
  generalize Survey.visitEach (Survey.visit answers policy depth false)
    (walk.path.reverse ++ [file]) (answers.targets file) (walk.entering answers file).survey =
    found at each
  cases each with
  | ok steps there =>
      rename_i later
      obtain ⟨record, marks, stack⟩ := later
      cases there
      have finish : Step answers (policy = .abort)
          ⟨record, marks, ⟨file, answers.targets file, (answers.targets file).length⟩ :: walk.stack⟩
          ⟨record, (file, .finished) :: marks, walk.stack⟩ :=
        .finish (List.getElem?_eq_none (Nat.le_refl _))
      dsimp only
      rw [← survey_finished record marks walk.stack]
      exact .ok (steps.tail finish) rfl
  | error steps halts => exact .error steps halts

variable (answers) in
/-- Looking at the targets that the topmost file has left does what the recursion would do. -/
def Recurses (policy : Policy) (depth : Nat) (walk : Walk) : Prop :=
  match walk.stack with
  | [] => True
  | frame :: below =>
    Follows answers (policy = .abort) walk ({ frame with next := frame.targets.length } :: below)
      (Survey.visitEach (Survey.visit answers policy depth false) walk.path.reverse
        (frame.targets.drop frame.next) walk.survey)

section Moves

variable {policy : Policy} {depth : Nat} {record : Record} {marks : List (Location × Mark)}
  {frame : Frame} {below : List Frame} {target : Location} {rest : List Location}

/-- The first of the targets that are left is the next, and the others are left after it. -/
theorem next_of_left (left : frame.targets.drop frame.next = target :: rest) :
    frame.targets[frame.next]? = some target ∧
      frame.advance.targets.drop frame.advance.next = rest := by
  constructor
  · rw [← List.head?_drop, left, List.head?_cons]
  · rw [Frame.advance_targets, Frame.advance_next, ← List.tail_drop, left, List.tail_cons]

theorem recurses_of_done (bounded : frame.next ≤ frame.targets.length)
    (done : frame.targets.drop frame.next = []) :
    Recurses answers policy depth ⟨record, marks, frame :: below⟩ := by
  have all_passed : frame.next = frame.targets.length :=
    Nat.le_antisymm bounded (List.drop_eq_nil_iff.mp done)
  rw [Recurses]
  simp only [done, Survey.visitEach, ← all_passed]
  exact .ok .refl rfl

theorem recurses_of_look (onPath : OnPath answers entry ⟨record, marks, frame :: below⟩)
    (left : frame.targets.drop frame.next = target :: rest) {mark : Mark}
    (seen : marks.lookup target = some mark)
    (h : Recurses answers policy depth
      ⟨seeing ⟨record, marks, frame.advance :: below⟩ target mark, marks,
        frame.advance :: below⟩) :
    Recurses answers policy depth ⟨record, marks, frame :: below⟩ := by
  obtain ⟨next, advanced⟩ := next_of_left left
  have step : Step answers (policy = .abort) ⟨record, marks, frame :: below⟩ _ := .look next seen
  have marked : (survey ⟨record, marks, frame :: below⟩).marks target = some mark := seen
  simp only [Recurses, advanced] at h
  simp only [Recurses, left, Survey.visitEach, marked]
  cases mark with
  | finished => exact h.after (.single step)
  | onPath =>
      have present : target ∈ path ⟨record, marks, frame.advance :: below⟩ :=
        (onPath.mark_iff target).mp seen
      have nodup : (path ⟨record, marks, frame.advance :: below⟩).Nodup := onPath.nodup
      rw [survey_seeing nodup present] at h
      exact h.after (.single step)

/-- When a target is entered, the recursion goes down to it, and comes back to the other
targets. -/
theorem recurses_of_enter (registered : target ∈ record.graph.files)
    (left : frame.targets.drop frame.next = target :: rest) (unseen : marks.lookup target = none)
    (allowed : decide (policy = .abort) = true → answers.failures target = [])
    (entered : Recurses answers policy depth
      (entering answers ⟨record, marks, frame.advance :: below⟩ target))
    (returned : ∀ record' marks', Steps answers (policy = .abort)
        (entering answers ⟨record, marks, frame.advance :: below⟩ target)
        ⟨record', marks', frame.advance :: below⟩ →
      Recurses answers policy (depth + 1) ⟨record', marks', frame.advance :: below⟩) :
    Recurses answers policy (depth + 1) ⟨record, marks, frame :: below⟩ := by
  obtain ⟨next, advanced⟩ := next_of_left left
  have step : Step answers (policy = .abort) ⟨record, marks, frame :: below⟩ _ :=
    .enter next unseen allowed
  have marked : (survey ⟨record, marks, frame :: below⟩).marks target = none := unseen
  have upward : (entering answers ⟨record, marks, frame.advance :: below⟩ target).path.reverse =
      (path ⟨record, marks, frame :: below⟩).reverse ++ [target] := List.reverse_cons
  have visited : Follows answers (policy = .abort)
      (entering answers ⟨record, marks, frame.advance :: below⟩ target) (frame.advance :: below)
      (Survey.visit answers policy (depth + 1) false target
        ((path ⟨record, marks, frame :: below⟩).reverse ++ [target])
        (survey ⟨record, marks, frame :: below⟩)) := by
    refine visit_follows registered allowed ?_
    rw [Recurses] at entered
    exact upward ▸ entered
  simp only [Recurses, left, Survey.visitEach, marked]
  generalize Survey.visit answers policy (depth + 1) false target
    ((path ⟨record, marks, frame :: below⟩).reverse ++ [target])
    (survey ⟨record, marks, frame :: below⟩) = found at visited
  cases visited with
  | ok steps there =>
      rename_i later
      obtain ⟨record', marks', stack⟩ := later
      cases there
      have onward := returned record' marks' steps
      simp only [Recurses, advanced] at onward
      exact onward.after (steps.head step)
  | error steps halts => exact .error (steps.head step) halts

/-- Where a walk is given up, so is the recursion, and for the same reason. -/
theorem recurses_of_abandoned (left : frame.targets.drop frame.next = target :: rest)
    (unseen : marks.lookup target = none)
    (given_up : ¬ (decide (policy = .abort) = true → answers.failures target = [])) :
    Recurses answers policy (depth + 1) ⟨record, marks, frame :: below⟩ := by
  obtain ⟨next, _⟩ := next_of_left left
  obtain ⟨strictly, failed⟩ := Classical.not_imp.mp given_up
  obtain ⟨failure, others, listed⟩ := List.exists_cons_of_ne_nil failed
  have marked : (survey ⟨record, marks, frame :: below⟩).marks target = none := unseen
  have halts : Halts answers (policy = .abort) ⟨record, marks, frame :: below⟩ _ :=
    .abandoned next unseen strictly listed
  have visited : Survey.visit answers policy (depth + 1) false target
      ((path ⟨record, marks, frame :: below⟩).reverse ++ [target])
      (survey ⟨record, marks, frame :: below⟩) = some (.error failure) := by
    rw [Survey.visit, Bool.false_or, strictly, Survey.expand_eq_error listed]
  simp only [Recurses, left, Survey.visitEach, marked, visited]
  exact .error .refl halts

end Moves

/-- At every point, a walk goes on like the recursion, given that depth for every unseen file. -/
theorem Steps.recurses {within : List Location}
    (bounded : ∀ file, ∀ target ∈ answers.targets file, target ∈ within) {policy : Policy}
    {depth : Nat} {walk : Walk}
    (reached : Steps answers (policy = .abort) (first answers entry) walk)
    (enough : walk.unseenAmong within ≤ depth) : walk.Recurses answers policy depth := by
  -- On the depth, for what is entered, and for each depth on the targets that are left.
  induction depth using Nat.strong_induction_on generalizing walk with
  | h depth shallower =>
      obtain ⟨record, marks, stack⟩ := walk
      cases stack with
      | nil => trivial
      | cons frame below =>
          induction left : frame.targets.drop frame.next generalizing record marks frame with
          | nil =>
              have bounded := reached.coherent.onPath.bounded frame List.mem_cons_self
              exact recurses_of_done bounded left
          | cons target rest ih =>
              have coherent := reached.coherent
              obtain ⟨next, advanced⟩ := next_of_left left
              cases seen : marks.lookup target with
              | some mark =>
                  have later := ih _ marks frame.advance (reached.tail (.look next seen)) enough
                    advanced
                  exact recurses_of_look coherent.onPath left seen later
              | none =>
                  have depends := coherent.onPath.dependsOn_next next
                  have fewer : (entering answers ⟨record, marks, frame.advance :: below⟩
                      target).unseenAmong within <
                        unseenAmong within ⟨record, marks, frame :: below⟩ :=
                    unseenAmong_entering_lt (bounded frame.file target depends) seen
                  obtain ⟨less, rfl⟩ : ∃ less, depth = less + 1 :=
                    Nat.exists_eq_add_one_of_ne_zero (by omega)
                  by_cases allowed : decide (policy = .abort) = true → answers.failures target = []
                  · have entered := reached.tail (.enter next seen allowed)
                    have registered : target ∈ record.graph.files :=
                      coherent.registered.mem_of_dependsOn coherent.onPath.top_seen depends
                    have few : (entering answers ⟨record, marks, frame.advance :: below⟩
                        target).unseenAmong within ≤ less := by omega
                    apply recurses_of_enter registered left seen allowed
                      (shallower less (Nat.lt_succ_self less) entered few)
                    intro record' marks' onward
                    have no_more := onward.unseenAmong_le within
                    have few' : unseenAmong within ⟨record', marks', frame.advance :: below⟩ ≤
                        less + 1 := by omega
                    exact ih record' marks' frame.advance (entered.trans onward) few' advanced
                  · exact recurses_of_abandoned left seen allowed

/-- A whole walk comes to what the recursive walk comes to at any depth that is enough for it, and
one more than there are files is enough. -/
theorem whole_recurses {within : List Location}
    (bounded : ∀ file, ∀ target ∈ answers.targets file, target ∈ within) {size : Nat}
    (enough : within.length ≤ size) (policy : Policy) (file : Location) {depth : Nat}
    (deep : within.length < depth) :
    (Survey.whole answers policy depth file).map (Except.map Survey.outcome) =
      some (Build.ofWalk (whole answers policy size file)).result := by
  obtain ⟨less, rfl⟩ : ∃ less, depth = less + 1 := Nat.exists_eq_add_one_of_ne_zero (by omega)
  rcases whole_halts bounded enough policy file with
    ⟨failure, others, listed, given_up⟩ | ⟨none_failed, last, steps, halts⟩
  · rw [Survey.whole, Survey.visit, Bool.true_or, Survey.expand_eq_error listed, given_up]
    rfl
  · have registered : file ∈ (start file).record.graph.files :=
      Graph.mem_files_register.mpr (Or.inl rfl)
    have few : (first answers file).unseenAmong within ≤ less :=
      Nat.le_trans List.countP_le_length (Nat.le_of_lt_succ deep)
    have recurses : (first answers file).Recurses answers policy less :=
      Steps.recurses bounded .refl few
    have visited : Follows answers (policy = .abort) (first answers file) []
        (Survey.whole answers policy (less + 1) file) :=
      visit_follows registered (fun _ => none_failed) recurses
    generalize Survey.whole answers policy (less + 1) file = found at visited
    cases visited with
    | ok onward there =>
        rename_i later
        obtain ⟨record, marks, stack⟩ := later
        cases there
        rw [← (Steps.halts_unique onward steps .ended halts).2]
        rfl
    | error onward halts' =>
        rw [← (Steps.halts_unique onward steps halts' halts).2]
        rfl

end Walk

end ModuleGraph
