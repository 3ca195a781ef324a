import Mathlib.Data.List.Chain
import Mathlib.Data.List.Nodup
import ModuleGraph.Proofs.Walk.Steps

/-!
# The stack is the path

Three things are kept by every step of a walk. The stack is the path from the first file to the one
that was entered last, and the files that are marked as being on the path are those of its frames
(`Walk.OnPath`). Whatever a walk has looked at, it has seen (`Walk.Looked`). And the graph says of
every file that was seen what it depends on, of every other registered file nothing yet, and holds
no file that cannot be reached (`Walk.Registered`).

Each is stated for itself and shown for the first walk and for every kind of step. `Walk.Coherent`
is all three.
-/

namespace ModuleGraph.Walk

variable {answers : Answers Id} {strict : Bool} {entry : Location}

/-- The files on the path, the one that was entered last first. -/
def path (walk : Walk) : List Location :=
  walk.stack.map (·.file)

/-- A frame lies above another: its file is the target that was looked at last in the other. -/
def Above (frame below : Frame) : Prop :=
  ∃ looked, below.next = looked + 1 ∧ below.targets[looked]? = some frame.file

/-! ## The path -/

variable (answers entry) in
/-- The stack is a path from the first file on which no file is twice. -/
structure OnPath (walk : Walk) : Prop where
  mark_iff : ∀ file, walk.mark? file = some .onPath ↔ file ∈ walk.path
  nodup : walk.path.Nodup
  bottom : ∀ file ∈ walk.path.getLast?, file = entry
  linked : walk.stack.IsChain Above
  bounded : ∀ frame ∈ walk.stack, frame.next ≤ frame.targets.length
  targets : ∀ frame ∈ walk.stack, frame.targets = answers.targets frame.file

theorem onPath_first : (first answers entry).OnPath answers entry where
  mark_iff file := by
    rw [first, mark?_entering]
    by_cases same : file = entry
    · simp [same, path, entering, start]
    · simp [same, path, entering, start, mark?]
  nodup := List.nodup_singleton entry
  bottom _ last := (Option.some.inj last).symm
  linked := .singleton _
  bounded frame present := by
    rw [List.mem_singleton.mp present]
    exact Nat.zero_le _
  targets frame present := by rw [List.mem_singleton.mp present]

section Advance

variable {record record' : Record} {marks : List (Location × Mark)} {frame : Frame}
  {below : List Frame} {target : Location}

/-- The topmost file was seen. -/
theorem OnPath.top_seen (h : OnPath answers entry ⟨record, marks, frame :: below⟩) :
    (mark? ⟨record, marks, frame :: below⟩ frame.file).isSome = true :=
  Option.isSome_of_eq_some ((h.mark_iff frame.file).mpr List.mem_cons_self)

/-- The topmost file depends on its next target. -/
theorem OnPath.dependsOn_next (h : OnPath answers entry ⟨record, marks, frame :: below⟩)
    (next : frame.targets[frame.next]? = some target) : answers.DependsOn frame.file target := by
  rw [Answers.DependsOn, ← h.targets frame List.mem_cons_self]
  exact List.mem_of_getElem? next

/-- A file that was not seen is not on the path. -/
theorem OnPath.not_mem_path {walk : Walk} (h : walk.OnPath answers entry)
    (unseen : walk.mark? target = none) : target ∉ walk.path := by
  intro there
  have marked := (h.mark_iff target).mpr there
  rw [unseen] at marked
  cases marked

/-- Looking at one more target leaves the path as it is. -/
theorem OnPath.advance (h : OnPath answers entry ⟨record, marks, frame :: below⟩)
    (next : frame.targets[frame.next]? = some target) :
    OnPath answers entry ⟨record', marks, frame.advance :: below⟩ where
  mark_iff := h.mark_iff
  nodup := h.nodup
  bottom := h.bottom
  linked := by
    cases below with
    | nil => exact .singleton _
    | cons lower rest => exact .cons_cons h.linked.rel h.linked.tail
  bounded other present := by
    rcases List.mem_cons.mp present with rfl | there
    · exact (List.getElem?_eq_some_iff.mp next).1
    · exact h.bounded other (List.mem_cons_of_mem _ there)
  targets other present := by
    rcases List.mem_cons.mp present with rfl | there
    · exact h.targets frame List.mem_cons_self
    · exact h.targets other (List.mem_cons_of_mem _ there)

/-- A finished file leaves the path to the files below it. -/
theorem OnPath.finish (h : OnPath answers entry ⟨record, marks, frame :: below⟩) :
    OnPath answers entry ⟨record, (frame.file, .finished) :: marks, below⟩ where
  mark_iff file := by
    have before : marks.lookup file = some .onPath ↔ file ∈ frame.file :: below.map (·.file) :=
      h.mark_iff file
    rw [mark?_mk_cons]
    by_cases same : file = frame.file
    · rw [if_pos same, same]
      exact iff_of_false (by simp) (List.nodup_cons.mp h.nodup).1
    · rw [if_neg same, before, List.mem_cons, or_iff_right same]
      rfl
  nodup := (List.nodup_cons.mp h.nodup).2
  bottom file last := h.bottom file (by
    cases below with
    | nil => cases last
    | cons lower rest => exact last)
  linked := h.linked.tail
  bounded other present := h.bounded other (List.mem_cons_of_mem _ present)
  targets other present := h.targets other (List.mem_cons_of_mem _ present)

/-- The next target comes on top of the path when it is entered. -/
theorem OnPath.enter (h : OnPath answers entry ⟨record, marks, frame :: below⟩)
    (next : frame.targets[frame.next]? = some target) (unseen : marks.lookup target = none) :
    (entering answers ⟨record, marks, frame.advance :: below⟩ target).OnPath answers entry := by
  have advanced : OnPath answers entry ⟨record, marks, frame.advance :: below⟩ := h.advance next
  exact
    { mark_iff := by
        intro file
        have before : marks.lookup file = some .onPath ↔ file ∈ frame.file :: below.map (·.file) :=
          h.mark_iff file
        rw [mark?_entering]
        change _ ↔ file ∈ target :: frame.file :: below.map (·.file)
        by_cases same : file = target
        · simp [same]
        · rw [if_neg same, List.mem_cons, or_iff_right same]
          exact before
      nodup := by
        exact List.nodup_cons.mpr ⟨h.not_mem_path unseen, h.nodup⟩
      bottom := h.bottom
      linked := .cons_cons ⟨frame.next, rfl, next⟩ advanced.linked
      bounded := by
        intro other present
        rcases List.mem_cons.mp present with rfl | there
        · exact Nat.zero_le _
        · exact advanced.bounded other there
      targets := by
        intro other present
        rcases List.mem_cons.mp present with rfl | there
        · rfl
        · exact advanced.targets other there }

end Advance

theorem Step.onPath {walk later : Walk} (step : Step answers strict walk later)
    (h : walk.OnPath answers entry) : later.OnPath answers entry := by
  cases step with
  | finish done => exact h.finish
  | look next seen => exact h.advance next
  | enter next unseen allowed => exact h.enter next unseen

/-! ## What was looked at -/

variable (answers) in
/-- Every dependency of a finished file was seen, and so was every target of a frame that its
cursor has passed. -/
structure Looked (walk : Walk) : Prop where
  finished : ∀ file, walk.mark? file = some .finished →
    ∀ target ∈ answers.targets file, (walk.mark? target).isSome = true
  passed : ∀ frame ∈ walk.stack,
    ∀ target ∈ frame.targets.take frame.next, (walk.mark? target).isSome = true

theorem looked_first : (first answers entry).Looked answers where
  finished file marked := by
    rw [first, mark?_entering] at marked
    split at marked <;> cases marked
  passed frame present target passed := by
    rw [List.mem_singleton.mp present] at passed
    cases passed

/-- The targets that a frame has passed after one more step are those from before and the next. -/
theorem mem_take_advance {frame : Frame} {target other : Location}
    (next : frame.targets[frame.next]? = some target)
    (h : other ∈ frame.advance.targets.take frame.advance.next) :
    other ∈ frame.targets.take frame.next ∨ other = target := by
  obtain ⟨bound, rfl⟩ := List.getElem?_eq_some_iff.mp next
  rw [Frame.advance_targets, Frame.advance_next, List.take_add_one, List.mem_append, next] at h
  exact h.imp_right fun last => by simpa using last

theorem Step.looked {walk later : Walk} (step : Step answers strict walk later)
    (path : walk.OnPath answers entry) (h : walk.Looked answers) : later.Looked answers where
  finished file marked target depends := by
    have kept (seen : (walk.mark? target).isSome = true) := step.mark?_isSome seen
    cases step with
    | finish done =>
        rename_i record marks frame below
        rw [mark?_mk_cons] at marked
        split at marked
        · next same =>
          subst same
          -- A file is finished when its cursor has passed all targets.
          rw [← path.targets frame List.mem_cons_self] at depends
          refine kept (h.passed frame List.mem_cons_self target ?_)
          rwa [List.take_of_length_le (List.getElem?_eq_none_iff.mp done)]
        · exact kept (h.finished file marked target depends)
    | look next seen => exact h.finished file marked target depends
    | enter next unseen allowed =>
        rw [mark?_entering] at marked
        split at marked
        · cases marked
        · exact kept (h.finished file marked target depends)
  passed other present target passed := by
    have kept (seen : (walk.mark? target).isSome = true) := step.mark?_isSome seen
    cases step with
    | finish done => exact kept (h.passed other (List.mem_cons_of_mem _ present) target passed)
    | look next seen =>
        rcases List.mem_cons.mp present with rfl | there
        · rcases mem_take_advance next passed with before | rfl
          · exact h.passed _ List.mem_cons_self target before
          · exact Option.isSome_of_eq_some seen
        · exact h.passed other (List.mem_cons_of_mem _ there) target passed
    | enter next unseen allowed =>
        rcases List.mem_cons.mp present with rfl | there
        · cases passed
        · rcases List.mem_cons.mp there with rfl | lower
          · rcases mem_take_advance next passed with before | rfl
            · exact kept (h.passed _ List.mem_cons_self target before)
            · rw [mark?_entering, if_pos rfl]
              rfl
          · exact kept (h.passed other (List.mem_cons_of_mem _ lower) target passed)

/-! ## What is registered -/

variable (answers entry) in
/-- The graph is about the first file and all that seen files depend on. It says what seen files
depend on, and nothing of the others. -/
structure Registered (walk : Walk) : Prop where
  nodup : walk.record.graph.files.Nodup
  mem_iff : ∀ file, file ∈ walk.record.graph.files ↔
    file = entry ∨ ∃ source, (walk.mark? source).isSome = true ∧ answers.DependsOn source file
  of_seen : ∀ file, (walk.mark? file).isSome = true →
    walk.record.graph.dependencies? file = some (answers.targets file)
  of_unseen : ∀ file ∈ walk.record.graph.files, walk.mark? file = none →
    walk.record.graph.dependencies? file = some []
  reached : ∀ file, (walk.mark? file).isSome = true →
    Relation.ReflTransGen answers.DependsOn entry file

/-- A file that was seen is registered. -/
theorem Registered.mem_of_seen {walk : Walk} (h : walk.Registered answers entry) {file : Location}
    (seen : (walk.mark? file).isSome = true) : file ∈ walk.record.graph.files :=
  Graph.dependencies?_isSome_iff.mp (Option.isSome_of_eq_some (h.of_seen file seen))

/-- What a file that was seen depends on is registered. -/
theorem Registered.mem_of_dependsOn {walk : Walk} (h : walk.Registered answers entry)
    {source target : Location} (seen : (walk.mark? source).isSome = true)
    (depends : answers.DependsOn source target) : target ∈ walk.record.graph.files :=
  (h.mem_iff target).mpr (Or.inr ⟨source, seen, depends⟩)

/-- It does not matter how far a walk has come with the files that it has seen. -/
theorem Registered.congr {walk later : Walk} (h : walk.Registered answers entry)
    (graph : later.record.graph = walk.record.graph)
    (seen : ∀ file, (later.mark? file).isSome = (walk.mark? file).isSome) :
    later.Registered answers entry where
  nodup := graph ▸ h.nodup
  mem_iff file := by
    rw [graph, h.mem_iff]
    simp only [seen]
  of_seen file marked := by
    rw [graph]
    exact h.of_seen file (seen file ▸ marked)
  of_unseen file present unmarked := by
    rw [graph] at present ⊢
    refine h.of_unseen file present ?_
    have := seen file
    rw [unmarked] at this
    exact Option.not_isSome_iff_eq_none.mp (by rw [← this]; exact Bool.false_ne_true)
  reached file marked := h.reached file (seen file ▸ marked)

/-- A registered file that was not seen is entered: it depends on its targets, which are
registered. -/
theorem Registered.entering {walk : Walk} (h : walk.Registered answers entry) {target : Location}
    (registered : target ∈ walk.record.graph.files) (unseen : walk.mark? target = none)
    (reached : Relation.ReflTransGen answers.DependsOn entry target) :
    (walk.entering answers target).Registered answers entry := by
  have seen_iff (file : Location) : ((walk.entering answers target).mark? file).isSome = true ↔
      file = target ∨ (walk.mark? file).isSome = true := by
    rw [mark?_entering]
    by_cases same : file = target
    · simp [same]
    · simp [same]
  exact
    { nodup := Graph.nodup_files_linkAll _ _ h.nodup
      mem_iff := by
        intro file
        rw [graph_entering, Graph.mem_files_linkAll registered, h.mem_iff, or_assoc]
        simp only [seen_iff, or_and_right, exists_or, exists_eq_left]
        exact or_congr_right or_comm
      of_seen := by
        intro file seen
        rw [graph_entering]
        by_cases same : file = target
        · rw [same, Graph.dependencies?_linkAll_self _ (h.of_unseen target registered unseen),
            List.nil_append]
        · rw [Graph.dependencies?_linkAll_of_ne _ same,
            h.of_seen file (((seen_iff file).mp seen).resolve_left same), Option.some_or]
      of_unseen := by
        intro file present unmarked
        rw [mark?_entering] at unmarked
        split at unmarked
        · cases unmarked
        · next other =>
          rw [graph_entering] at present ⊢
          rw [Graph.dependencies?_linkAll_of_ne _ other]
          by_cases there : file ∈ walk.record.graph.files
          · rw [h.of_unseen file there unmarked, Option.some_or]
          · rw [Graph.dependencies?_eq_none_iff.mpr there, Option.none_or,
              if_pos (((Graph.mem_files_linkAll registered).mp present).resolve_left there)]
      reached := by
        intro file seen
        rcases (seen_iff file).mp seen with rfl | before
        · exact reached
        · exact h.reached file before }

/-- Before the first file is entered, it is registered, and nothing was seen. -/
theorem registered_start : (start entry).Registered answers entry := by
  have alone : (start entry).record.graph.files = [entry] := by
    rw [start, Graph.files_register]
    rfl
  exact
    { nodup := by
        rw [alone]
        exact List.nodup_singleton entry
      mem_iff := by
        intro file
        rw [alone, List.mem_singleton, or_iff_left]
        rintro ⟨source, seen, _⟩
        cases seen
      of_seen := by
        intro file seen
        cases seen
      of_unseen := by
        intro file present _
        rw [alone, List.mem_singleton] at present
        rw [start, Graph.dependencies?_register, if_pos present]
        rfl
      reached := by
        intro file seen
        cases seen }

theorem registered_first : (first answers entry).Registered answers entry :=
  have before : (start entry).Registered answers entry := registered_start
  before.entering ((before.mem_iff entry).mpr (Or.inl rfl)) rfl .refl

theorem Step.registered {walk later : Walk} (step : Step answers strict walk later)
    (path : walk.OnPath answers entry) (h : walk.Registered answers entry) :
    later.Registered answers entry := by
  cases step with
  | finish done =>
      rename_i record marks frame below
      refine h.congr rfl ?_
      intro file
      rw [mark?_mk_cons]
      by_cases same : file = frame.file
      · rw [if_pos same, same, path.top_seen]
        rfl
      · rw [if_neg same]
        rfl
  | look next seen => exact h.congr (graph_seeing _ _ _) fun _ => rfl
  | enter next unseen allowed =>
      rename_i record marks frame below target
      have seen := path.top_seen
      have depends := path.dependsOn_next next
      have advanced : Registered answers entry ⟨record, marks, frame.advance :: below⟩ :=
        h.congr rfl fun _ => rfl
      exact advanced.entering (h.mem_of_dependsOn seen depends) unseen
        ((h.reached frame.file seen).tail depends)

/-! ## All of it -/

variable (answers entry) in
/-- What holds of every walk from a file, however far it has come. -/
structure Coherent (walk : Walk) : Prop where
  onPath : walk.OnPath answers entry
  looked : walk.Looked answers
  registered : walk.Registered answers entry

theorem coherent_first : (first answers entry).Coherent answers entry :=
  ⟨onPath_first, looked_first, registered_first⟩

theorem Step.coherent {walk later : Walk} (step : Step answers strict walk later)
    (h : walk.Coherent answers entry) : later.Coherent answers entry :=
  ⟨step.onPath h.onPath, step.looked h.onPath h.looked, step.registered h.onPath h.registered⟩

/-- Every walk that can be reached from the first one is coherent. -/
theorem Steps.coherent {walk : Walk} (steps : Steps answers strict (first answers entry) walk) :
    walk.Coherent answers entry := by
  induction steps with
  | refl => exact coherent_first
  | tail _ step ih => exact step.coherent ih

end ModuleGraph.Walk
