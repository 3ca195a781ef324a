import ModuleGraph.Proofs.Walk.Cycles
import ModuleGraph.Proofs.Walk.Exactness

/-!
# No cycle is missed

Let a dependency be open if no noted cycle is closed by it. From a file that is finished, open
dependencies cannot be followed for ever: each leads to a file that was finished earlier. This is
`Walk.Grounded`, with what it takes of the files on the path. So once everything is finished, no
way along open dependencies leads back to where it began (`Walk.Grounded.not_transGen_opens`), and
every closed way contains a dependency that closes a noted cycle
(`Walk.Grounded.exists_closes`).
-/

namespace ModuleGraph.Walk

variable {answers : Answers Id} {strict : Bool} {entry : Location}

/-- A cycle was noted that is closed by this dependency. -/
def Closes (walk : Walk) (source target : Location) : Prop :=
  ∃ cycle ∈ walk.record.cycles, cycle.ClosedBy source target

variable (answers) in
/-- A dependency that closes none of the cycles that were noted. -/
def Opens (walk : Walk) (source target : Location) : Prop :=
  answers.DependsOn source target ∧ ¬ walk.Closes source target

/-- Cycles stay where they were noted. -/
theorem Closes.mono {walk later : Walk} (kept : walk.record.cycles ⊆ later.record.cycles)
    {source target : Location} (h : walk.Closes source target) : later.Closes source target := by
  obtain ⟨cycle, noted, closes⟩ := h
  exact ⟨cycle, kept noted, closes⟩

theorem cycles_subset_noteCycle (record : Record) (cycle : Cycle) :
    record.cycles ⊆ (record.noteCycle cycle).cycles := by
  rw [Record.cycles_noteCycle]
  split
  · exact List.Subset.refl _
  · exact List.subset_append_left _ _

theorem mem_cycles_noteCycle (record : Record) (cycle : Cycle) :
    cycle ∈ (record.noteCycle cycle).cycles := by
  rw [Record.cycles_noteCycle]
  split
  · assumption
  · exact List.mem_append_right _ List.mem_cons_self

variable (answers) in
/-- Open dependencies of a finished file cannot be followed for ever. A target that a frame has
passed is finished, or closes a cycle, or is still being looked at above. -/
structure Grounded (walk : Walk) : Prop where
  finished : ∀ file, walk.mark? file = some .finished →
    Acc (fun target source => walk.Opens answers source target) file
  passed : ∀ above frame below, walk.stack = above ++ frame :: below →
    ∀ target ∈ frame.targets.take frame.next, walk.mark? target = some .finished ∨
      walk.Closes frame.file target ∨ target ∈ above.map (·.file)

theorem grounded_first : (first answers entry).Grounded answers where
  finished file marked := by
    rw [first, mark?_entering] at marked
    split at marked <;> cases marked
  passed above frame below is_stack target passed := by
    have alone : frame ∈ (first answers entry).stack := by simp [is_stack]
    rw [List.mem_singleton.mp alone] at passed
    cases passed

/-- More cycles leave fewer dependencies open. -/
theorem acc_opens_of_subset {walk later : Walk} (kept : walk.record.cycles ⊆ later.record.cycles)
    {file : Location} (h : Acc (fun target source => walk.Opens answers source target) file) :
    Acc (fun target source => later.Opens answers source target) file := by
  have fewer {target source : Location} (opens : later.Opens answers source target) :
      walk.Opens answers source target :=
    ⟨opens.1, fun closes => opens.2 (closes.mono kept)⟩
  exact Subrelation.accessible fewer h

section Moves

variable {record record' : Record} {marks : List (Location × Mark)} {frame : Frame}
  {below : List Frame} {target : Location}

/-- When all targets of a file have been passed, each is finished or closes a cycle, for nothing is
above. -/
theorem Grounded.finish (h : Grounded answers ⟨record, marks, frame :: below⟩)
    (targets : frame.targets = answers.targets frame.file)
    (done : frame.targets[frame.next]? = none) :
    Grounded answers ⟨record, (frame.file, .finished) :: marks, below⟩ where
  finished file marked := by
    rw [mark?_mk_cons] at marked
    split at marked
    · next same =>
      subst same
      constructor
      rintro target ⟨depends, unclosed⟩
      rw [Answers.DependsOn, ← targets] at depends
      have passed := h.passed [] frame below rfl target
        (by rwa [List.take_of_length_le (List.getElem?_eq_none_iff.mp done)])
      rcases passed with before | closes | above
      · exact h.finished target before
      · exact absurd closes unclosed
      · cases above
    · exact h.finished file marked
  passed above other lower is_stack target passed := by
    have is_below : below = above ++ other :: lower := is_stack
    rw [mark?_mk_cons]
    by_cases same : target = frame.file
    · exact Or.inl (if_pos same)
    · rw [if_neg same]
      have before := h.passed (frame :: above) other lower (congrArg (frame :: ·) is_below) target
        passed
      rcases before with finished | closes | there
      · exact Or.inl finished
      · exact Or.inr (Or.inl closes)
      · exact Or.inr (Or.inr ((List.mem_cons.mp there).resolve_left same))

/-- A target that is finished or closes a noted cycle can be passed. -/
theorem Grounded.look (h : Grounded answers ⟨record, marks, frame :: below⟩)
    (kept : record.cycles ⊆ record'.cycles) (next : frame.targets[frame.next]? = some target)
    (looked : marks.lookup target = some .finished ∨
      ∃ cycle ∈ record'.cycles, cycle.ClosedBy frame.file target) :
    Grounded answers ⟨record', marks, frame.advance :: below⟩ where
  finished file marked := acc_opens_of_subset kept (h.finished file marked)
  passed above other lower is_stack target' passed := by
    cases above with
    | nil =>
        cases is_stack
        rcases mem_take_advance next passed with before | rfl
        · have known := h.passed [] frame below rfl target' before
          exact known.imp_right fun later => later.imp_left fun closes => closes.mono kept
        · exact looked.imp_right Or.inl
    | cons top rest =>
        cases is_stack
        have known := h.passed (frame :: rest) other lower rfl target' passed
        exact known.imp_right fun later => later.imp_left fun closes => closes.mono kept

/-- A target that is entered is above what depends on it. -/
theorem Grounded.enter (h : Grounded answers ⟨record, marks, frame :: below⟩)
    (next : frame.targets[frame.next]? = some target) (unseen : marks.lookup target = none) :
    (entering answers ⟨record, marks, frame.advance :: below⟩ target).Grounded answers := by
  have kept : record.cycles ⊆ (record.expanded target (answers.targets target)
      (answers.failures target)).cycles := by
    rw [Record.cycles_expanded]
    exact List.Subset.refl _
  have finished_iff (file : Location) :
      (entering answers ⟨record, marks, frame.advance :: below⟩ target).mark? file =
        some .finished ↔ marks.lookup file = some .finished := by
    rw [mark?_entering]
    by_cases same : file = target
    · simp [same, unseen]
    · rw [if_neg same]
      rfl
  exact
    { finished := by
        intro file marked
        exact acc_opens_of_subset kept (h.finished file ((finished_iff file).mp marked))
      passed := by
        intro above other lower is_stack target' passed
        rw [finished_iff]
        rcases above with _ | ⟨top, _ | ⟨second, rest⟩⟩
        · cases is_stack
          cases passed
        · cases is_stack
          rcases mem_take_advance next passed with before | rfl
          · rcases h.passed [] frame below rfl target' before with finished | closes | above
            · exact Or.inl finished
            · exact Or.inr (Or.inl (closes.mono kept))
            · cases above
          · exact Or.inr (Or.inr List.mem_cons_self)
        · cases is_stack
          have known := h.passed (frame :: rest) other lower rfl target' passed
          exact known.imp_right fun later => later.imp (fun closes => closes.mono kept)
            (List.mem_cons_of_mem target) }

end Moves

theorem Step.grounded {walk later : Walk} (step : Step answers strict walk later)
    (path : walk.OnPath answers entry) (h : walk.Grounded answers) : later.Grounded answers := by
  cases step with
  | finish done => exact h.finish (path.targets _ List.mem_cons_self) done
  | look next seen =>
      rename_i record marks frame below target mark
      cases mark with
      | finished => exact h.look (List.Subset.refl _) next (Or.inl seen)
      | onPath =>
          have present : target ∈ frame.file :: below.map (·.file) :=
            (path.mark_iff target).mp seen
          rw [seeing_onPath present]
          refine h.look (cycles_subset_noteCycle _ _) next (Or.inr ?_)
          exact ⟨_, mem_cycles_noteCycle _ _, Cycle.onto_closedBy _ _ _⟩
  | enter next unseen allowed => exact h.enter next unseen

theorem Steps.grounded {walk : Walk} (steps : Steps answers strict (first answers entry) walk) :
    walk.Grounded answers := by
  induction steps with
  | refl => exact grounded_first
  | tail before step ih => exact step.grounded (Steps.coherent before).onPath ih

/-! ## Ways that lead back -/

/-- No way along open dependencies leads from a finished file back to it. -/
theorem Grounded.not_transGen_opens {walk : Walk} (h : walk.Grounded answers) {file : Location}
    (finished : walk.mark? file = some .finished) :
    ¬ Relation.TransGen (walk.Opens answers) file file := by
  have grounded := (h.finished file finished).transGen
  clear finished
  induction grounded with
  | intro file _ ih =>
      intro around
      exact ih file (Relation.transGen_swap.mpr around) around

/-- A closed way that has a step leads from where it begins back to there. -/
theorem transGen_of_isChain {α : Type} {related : α → α → Prop} {way : List α}
    (linked : way.IsChain related) (long : 2 ≤ way.length) (closed : way.head? = way.getLast?) :
    ∃ start, Relation.TransGen related start start ∧ start ∈ way := by
  rcases way with _ | ⟨start, _ | ⟨next, rest⟩⟩
  · cases long
  · exact absurd long (Nat.not_succ_le_self 1)
  · obtain ⟨step, onward⟩ := List.isChain_cons_cons.mp linked
    rw [List.head?_cons, List.getLast?_cons_cons,
      List.getLast?_eq_some_getLast (List.cons_ne_nil next rest)] at closed
    have back : Relation.ReflTransGen related next start :=
      List.relationReflTransGen_of_exists_isChain_cons rest onward (Option.some.inj closed).symm
    exact ⟨start, .head' step back, List.mem_cons_self⟩

/-- In the graph of what can be reached, every closed way contains an edge that closes a noted
cycle. -/
theorem Grounded.exists_closes {walk : Walk} (h : walk.Grounded answers)
    (exact_walk : walk.Exact answers entry) {way : List Location}
    (linked : way.IsChain walk.record.graph.HasEdge) (long : 2 ≤ way.length)
    (closed : way.head? = way.getLast?) :
    ∃ source target, [source, target] <:+: way ∧ walk.Closes source target := by
  apply Classical.byContradiction
  intro none_closes
  have unclosed : way.IsChain fun source target =>
      walk.record.graph.HasEdge source target ∧ ¬ walk.Closes source target := by
    refine List.isChain_iff_forall_rel_of_append_cons_cons.mpr fun source target before after eq =>
      ⟨?_, fun closes => none_closes ⟨source, target, ⟨before, after, by simp [eq]⟩, closes⟩⟩
    exact List.isChain_iff_forall_rel_of_append_cons_cons.mp linked eq
  obtain ⟨start, around, _⟩ := transGen_of_isChain unclosed long closed
  obtain ⟨next, edge, _⟩ := Relation.TransGen.head'_iff.mp around
  have reached := (exact_walk.hasEdge_iff.mp edge.1).1
  have finished := exact_walk.finished start ((exact_walk.mem_iff start).mpr reached)
  apply h.not_transGen_opens finished
  refine Relation.TransGen.mono ?_ start start around
  intro source target step
  exact ⟨(exact_walk.hasEdge_iff.mp step.1).2, step.2⟩

/-- A walk that has found exactly what can be reached has noted no cycle if and only if there is
none to be reached. -/
theorem Grounded.cycles_eq_nil_iff {walk : Walk} (h : walk.Grounded answers)
    (exact_walk : walk.Exact answers entry)
    (reached : ∀ cycle ∈ walk.record.cycles, ∀ file ∈ cycle.chain,
      Relation.ReflTransGen answers.DependsOn entry file)
    (simple : ∀ cycle ∈ walk.record.cycles, cycle.Simple answers.DependsOn) :
    walk.record.cycles = [] ↔ ∀ file, Relation.ReflTransGen answers.DependsOn entry file →
      ¬ Relation.TransGen answers.DependsOn file file := by
  constructor
  · intro none_noted file reached around
    have finished := exact_walk.finished file ((exact_walk.mem_iff file).mpr reached)
    have opens {source target : Location} (depends : answers.DependsOn source target) :
        walk.Opens answers source target := by
      refine ⟨depends, ?_⟩
      rintro ⟨cycle, noted, _⟩
      rw [none_noted] at noted
      cases noted
    exact h.not_transGen_opens finished (Relation.TransGen.mono (fun _ _ => opens) file file around)
  · intro acyclic
    apply List.eq_nil_iff_forall_not_mem.mpr
    intro cycle noted
    obtain ⟨long, closed, _, linked⟩ := simple cycle noted
    obtain ⟨start, around, there⟩ := transGen_of_isChain linked long closed
    exact acyclic start (reached cycle noted start there) around

end ModuleGraph.Walk
