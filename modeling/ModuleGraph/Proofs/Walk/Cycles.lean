import Mathlib.Data.List.Rotate
import Mathlib.Data.List.Perm.Subperm
import ModuleGraph.Proofs.Walk.Order

/-!
# The cycles that are noted

A cycle is noted when the topmost file depends on a file of the path: the cycle is the part of the
path from there up, and back (`Cycle.onto`). As the path consists of dependencies and holds no file
twice, a noted cycle is genuine and simple (`Cycle.Simple`). As the path is in the order in which
its files were entered, so are the files of the cycle.

A cycle that is there already is not noted again, but only the very same chain counts as being
there. That no two noted cycles are the same up to rotation is a matter of the whole walk
(`Walk.Reported`). While a file is on the path, what is below it does not change, so a dependency
of it on a file of the path always closes the same cycle; and once it is finished it closes none.
So no two cycles are closed by the same dependency. Rotations of one another would be in the order
of entrance both, so they would be equal.
-/

namespace ModuleGraph

namespace Cycle

/-- A dependency closes a cycle: it leads from the last file but one of the chain to the last. -/
def ClosedBy (cycle : Cycle) (source target : Location) : Prop :=
  [source, target] <:+ cycle.chain

/-- A closed chain of one or more steps that does not come through any file twice. -/
structure Simple (dependsOn : Location → Location → Prop) (cycle : Cycle) : Prop where
  long : 2 ≤ cycle.chain.length
  closed : cycle.chain.head? = cycle.chain.getLast?
  nodup : cycle.chain.dropLast.Nodup
  linked : cycle.chain.IsChain dependsOn

/-- The cycle from a file of a path up to the topmost one, and back. -/
def onto (path : List Location) (target : Location) : Cycle :=
  ⟨target :: (path.takeWhile (· ≠ target)).reverse ++ [target]⟩

section Simple

variable {dependsOn : Location → Location → Prop} {cycle other : Cycle}

theorem Simple.exists_chain_eq (h : cycle.Simple dependsOn) :
    ∃ first middle, cycle.chain = first :: middle ++ [first] := by
  obtain ⟨long, closed, _, _⟩ := h
  cases chain : cycle.chain with
  | nil =>
      rw [chain] at long
      cases long
  | cons first rest =>
      rw [chain] at long closed
      have more : rest ≠ [] := by
        rintro rfl
        exact absurd long (Nat.not_succ_le_self 1)
      refine ⟨first, rest.dropLast, ?_⟩
      rw [List.head?_cons, List.getLast?_cons_of_ne_nil more,
        List.getLast?_eq_some_getLast more] at closed
      rw [List.cons_append, Option.some.inj closed, List.dropLast_append_getLast more]

/-- What ends a simple cycle also begins it. -/
theorem Simple.mem_dropLast (h : cycle.Simple dependsOn) {file : Location}
    (there : file ∈ cycle.chain) : file ∈ cycle.chain.dropLast := by
  obtain ⟨first, middle, chain⟩ := h.exists_chain_eq
  rw [chain] at there ⊢
  rw [List.dropLast_concat]
  rcases List.mem_append.mp there with within | last
  · exact within
  · exact List.mem_singleton.mp last ▸ List.mem_cons_self

/-- The files of a simple cycle, in order, tell what it is. -/
theorem Simple.eq_of_dropLast_eq (h : cycle.Simple dependsOn) (h' : other.Simple dependsOn)
    (same : cycle.chain.dropLast = other.chain.dropLast) : cycle = other := by
  obtain ⟨first, middle, chain⟩ := h.exists_chain_eq
  obtain ⟨first', middle', chain'⟩ := h'.exists_chain_eq
  rw [chain, chain', List.dropLast_concat, List.dropLast_concat] at same
  cases same
  exact congrArg Cycle.mk (chain.trans chain'.symm)

/-- Some dependency closes a simple cycle. -/
theorem Simple.exists_closedBy (h : cycle.Simple dependsOn) :
    ∃ source target, cycle.ClosedBy source target := by
  obtain ⟨first, middle, chain⟩ := h.exists_chain_eq
  have some_file : first :: middle ≠ [] := List.cons_ne_nil _ _
  refine ⟨(first :: middle).getLast some_file, first, (first :: middle).dropLast, ?_⟩
  calc (first :: middle).dropLast ++ [(first :: middle).getLast some_file, first]
      = (first :: middle).dropLast ++ [(first :: middle).getLast some_file] ++ [first] := by simp
    _ = cycle.chain := by rw [List.dropLast_append_getLast some_file, chain]

/-- No other dependency closes the same cycle. -/
theorem ClosedBy.unique {source source' target target' : Location}
    (h : cycle.ClosedBy source target) (h' : cycle.ClosedBy source' target') :
    source = source' ∧ target = target' := by
  have same : [source, target] = [source', target'] :=
    (List.suffix_of_suffix_length_le h h' (Nat.le_refl _)).eq_of_length rfl
  cases same
  exact ⟨rfl, rfl⟩

end Simple

section Onto

variable {dependsOn : Location → Location → Prop} {path : List Location} {target : Location}

theorem chain_onto_append {above below : List Location} (h : target ∉ above) :
    (onto (above ++ target :: below) target).chain =
      (above ++ [target]).reverse ++ [target] := by
  have passed : ∀ file ∈ above, decide (file ≠ target) = true := by
    intro file there
    exact decide_eq_true fun same => h (same ▸ there)
  rw [onto, List.takeWhile_append_of_pos passed]
  simp

/-- From the bottom up, the cycle is the path from its first file on, and back. -/
theorem chain_onto (nodup : path.Nodup) (present : target ∈ path) :
    (onto path target).chain = path.reverse.dropWhile (· ≠ target) ++ [target] := by
  obtain ⟨above, below, rfl, absent⟩ := List.eq_append_cons_of_mem present
  have lower : target ∉ below := (List.nodup_cons.mp (List.nodup_append.mp nodup).2.1).1
  have dropped : ∀ file ∈ below.reverse, decide (file ≠ target) = true := by
    intro file there
    exact decide_eq_true fun same => lower (same ▸ List.mem_reverse.mp there)
  have from_target : (above ++ target :: below).reverse.dropWhile (· ≠ target) =
      target :: above.reverse := by
    rw [List.reverse_append, List.reverse_cons, List.append_assoc,
      List.dropWhile_append_of_pos dropped]
    simp
  rw [chain_onto_append absent, from_target, List.reverse_concat]

/-- The cycle is closed by the dependency of the topmost file. -/
theorem onto_closedBy (source : Location) (lower : List Location) (target : Location) :
    (onto (source :: lower) target).ClosedBy source target := by
  by_cases same : source = target
  · subst same
    exact ⟨[], by simp [onto]⟩
  · refine ⟨target :: (lower.takeWhile (· ≠ target)).reverse, ?_⟩
    simp [onto, same]

/-- The files of the cycle are those of the path from its first file up. -/
theorem dropLast_onto_sublist (present : target ∈ path) :
    (onto path target).chain.dropLast.Sublist path.reverse := by
  obtain ⟨above, below, rfl, absent⟩ := List.eq_append_cons_of_mem present
  rw [chain_onto_append absent, List.dropLast_concat, List.reverse_sublist]
  exact .append_left (.cons_cons target (List.nil_sublist below)) above

theorem simple_onto (present : target ∈ path) (nodup : path.Nodup)
    (linked : path.IsChain fun upper lower => dependsOn lower upper)
    (closing : ∀ top ∈ path.head?, dependsOn top target) : (onto path target).Simple dependsOn := by
  have files_nodup := (dropLast_onto_sublist present).nodup (List.nodup_reverse.mpr nodup)
  obtain ⟨above, below, rfl, absent⟩ := List.eq_append_cons_of_mem present
  rw [List.append_cons] at linked closing
  have upward : (above ++ [target]).reverse.IsChain dependsOn :=
    List.isChain_reverse.mpr linked.left_of_append
  have chain : (onto (above ++ target :: below) target).chain =
      (above ++ [target]).reverse ++ [target] := chain_onto_append absent
  exact
    { long := by
        rw [chain]
        simp
      closed := by
        rw [chain, List.getLast?_concat, List.reverse_concat]
        rfl
      nodup := files_nodup
      linked := by
        rw [chain]
        apply upward.append (.singleton _)
        intro top last first is_first
        cases is_first
        refine closing top ?_
        rw [List.getLast?_reverse] at last
        rw [List.head?_append, last]
        rfl }

end Onto

end Cycle

namespace Walk

variable {answers : Answers Id} {strict : Bool} {entry : Location}

/-- Every file on the path depends on the one above it. -/
theorem OnPath.isChain_path {walk : Walk} (h : walk.OnPath answers entry) :
    walk.path.IsChain fun upper lower => answers.DependsOn lower upper := by
  rw [path, List.isChain_map]
  apply h.linked.imp_of_mem_imp
  intro upper lower _ there above
  obtain ⟨looked, _, found⟩ := above
  rw [Answers.DependsOn, ← h.targets lower there]
  exact List.mem_of_getElem? found

theorem seeing_onPath {walk : Walk} {target : Location} (h : target ∈ walk.path) :
    walk.seeing target .onPath = walk.record.noteCycle (.onto walk.path target) := by
  have closing : walk.closing? target = some (.onto walk.path target) :=
    if_pos (List.contains_iff_mem.mpr h)
  rw [seeing, closing]

variable (answers) in
/-- What holds of the cycles that were noted on a walk. -/
structure Reported (walk : Walk) : Prop where
  simple : ∀ cycle ∈ walk.record.cycles, cycle.Simple answers.DependsOn
  inOrder : ∀ cycle ∈ walk.record.cycles, cycle.chain.dropLast.Sublist walk.entered.reverse
  /-- The cycles that a file on the path has closed can be told from the path. -/
  tied : ∀ cycle ∈ walk.record.cycles, ∀ source target, cycle.ClosedBy source target →
    walk.mark? source = some .finished ∨
      source ∈ walk.path ∧ cycle = .onto (walk.path.dropWhile (· ≠ source)) target
  distinct : walk.record.cycles.Pairwise fun one other =>
    ∀ source target, one.ClosedBy source target → ¬ other.ClosedBy source target

theorem reported_first : (first answers entry).Reported answers := by
  have none_noted : (first answers entry).record.cycles = [] := Record.cycles_expanded _ _ _ _
  exact
    { simple := by simp [none_noted]
      inOrder := by simp [none_noted]
      tied := by simp [none_noted]
      distinct := by simp [none_noted] }

section Moves

variable {record : Record} {marks : List (Location × Mark)} {frame : Frame} {below : List Frame}
  {target : Location}

theorem Reported.advance (h : Reported answers ⟨record, marks, frame :: below⟩) :
    Reported answers ⟨record, marks, frame.advance :: below⟩ :=
  ⟨h.simple, h.inOrder, h.tied, h.distinct⟩

/-- A finished file closes no more cycles. -/
theorem Reported.finish (h : Reported answers ⟨record, marks, frame :: below⟩) :
    Reported answers ⟨record, (frame.file, .finished) :: marks, below⟩ where
  simple := h.simple
  inOrder := h.inOrder
  tied cycle noted source target closes := by
    rw [mark?_mk_cons]
    by_cases same : source = frame.file
    · exact Or.inl (if_pos same)
    · rw [if_neg same]
      rcases h.tied cycle noted source target closes with finished | ⟨there, eq⟩
      · exact Or.inl finished
      · refine Or.inr ⟨(List.mem_cons.mp there).resolve_left same, ?_⟩
        rw [eq, path, List.map_cons, List.dropWhile_cons_of_pos (by simpa using Ne.symm same)]
        rfl
  distinct := h.distinct

/-- A file that comes on top of the path leaves the cycles as they are. -/
theorem Reported.entering {walk : Walk} (h : walk.Reported answers)
    (unseen : walk.mark? target = none) (off_path : target ∉ walk.path) :
    (walk.entering answers target).Reported answers := by
  have same_cycles : (walk.entering answers target).record.cycles = walk.record.cycles :=
    Record.cycles_expanded _ _ _ _
  exact
    { simple := same_cycles ▸ h.simple
      inOrder := by
        intro cycle noted
        rw [entered_entering, List.reverse_cons]
        exact (h.inOrder cycle (same_cycles ▸ noted)).trans (List.sublist_append_left _ _)
      tied := by
        intro cycle noted source target' closes
        rw [mark?_entering]
        rcases h.tied cycle (same_cycles ▸ noted) source target' closes with
          finished | ⟨there, eq⟩
        · have other : source ≠ target := by
            rintro rfl
            rw [unseen] at finished
            cases finished
          exact Or.inl ((if_neg other).trans finished)
        · have other : target ≠ source := fun same => off_path (same ▸ there)
          refine Or.inr ⟨List.mem_cons_of_mem _ there, eq.trans ?_⟩
          change _ = Cycle.onto ((target :: walk.path).dropWhile (· ≠ source)) target'
          rw [List.dropWhile_cons_of_pos (by simpa using other)]
      distinct := same_cycles ▸ h.distinct }

/-- A cycle that the topmost file closes is noted. If the same dependency has closed a cycle
before, it was this one. -/
theorem Reported.note {walk : Walk} (h : walk.Reported answers)
    (onPath : walk.OnPath answers entry) (order : walk.Entered) {top : Location}
    {lower : List Location} (is_path : walk.path = top :: lower)
    (depends : answers.DependsOn top target) (present : target ∈ walk.path) :
    Reported answers ⟨walk.record.noteCycle (.onto walk.path target), walk.marks, walk.stack⟩ := by
  have closes : (Cycle.onto walk.path target).ClosedBy top target := by
    rw [is_path]
    exact Cycle.onto_closedBy top lower target
  have top_dropped : walk.path.dropWhile (· ≠ top) = walk.path := by
    rw [is_path, List.dropWhile_cons_of_neg (by simp)]
  have simple : (Cycle.onto walk.path target).Simple answers.DependsOn := by
    apply Cycle.simple_onto present onPath.nodup onPath.isChain_path
    intro file is_top
    rw [is_path] at is_top
    cases is_top
    exact depends
  have in_order : (Cycle.onto walk.path target).chain.dropLast.Sublist walk.entered.reverse :=
    (Cycle.dropLast_onto_sublist present).trans order.path_sublist.reverse
  by_cases noted : Cycle.onto walk.path target ∈ walk.record.cycles
  · have same_cycles : (walk.record.noteCycle (.onto walk.path target)).cycles =
        walk.record.cycles := by
      rw [Record.cycles_noteCycle, if_pos noted]
    exact
      { simple := same_cycles ▸ h.simple
        inOrder := same_cycles ▸ h.inOrder
        tied := same_cycles ▸ h.tied
        distinct := same_cycles ▸ h.distinct }
  · have one_more : (walk.record.noteCycle (.onto walk.path target)).cycles =
        walk.record.cycles ++ [.onto walk.path target] := by
      rw [Record.cycles_noteCycle, if_neg noted]
    have either {cycle : Cycle}
        (there : cycle ∈ (walk.record.noteCycle (.onto walk.path target)).cycles) :
        cycle ∈ walk.record.cycles ∨ cycle = .onto walk.path target := by
      simpa [one_more] using there
    exact
      { simple := by
          intro cycle there
          rcases either there with before | rfl
          · exact h.simple cycle before
          · exact simple
        inOrder := by
          intro cycle there
          rcases either there with before | rfl
          · exact h.inOrder cycle before
          · exact in_order
        tied := by
          intro cycle there source target' closes'
          rcases either there with before | rfl
          · exact h.tied cycle before source target' closes'
          · obtain ⟨rfl, rfl⟩ := closes.unique closes'
            have there : top ∈ walk.path := is_path ▸ List.mem_cons_self
            exact Or.inr ⟨there, congrArg (Cycle.onto · target) top_dropped.symm⟩
        distinct := by
          change List.Pairwise _ (walk.record.noteCycle (.onto walk.path target)).cycles
          rw [one_more]
          refine List.pairwise_append.mpr ⟨h.distinct, List.pairwise_singleton _ _, ?_⟩
          intro cycle before last is_last source target' closed closed'
          cases List.mem_singleton.mp is_last
          obtain ⟨rfl, rfl⟩ := closes.unique closed'
          rcases h.tied cycle before top target closed with finished | ⟨_, rfl⟩
          · have on_path := (onPath.mark_iff top).mpr (is_path ▸ List.mem_cons_self)
            rw [on_path] at finished
            cases finished
          · rw [top_dropped] at before
            exact noted before }

end Moves

theorem Step.reported {walk later : Walk} (step : Step answers strict walk later)
    (onPath : walk.OnPath answers entry) (order : walk.Entered) (h : walk.Reported answers) :
    later.Reported answers := by
  cases step with
  | finish done => exact h.finish
  | look next seen =>
      rename_i record marks frame below target mark
      cases mark with
      | finished => exact h.advance
      | onPath =>
          have present : target ∈ frame.file :: below.map (·.file) :=
            (onPath.mark_iff target).mp seen
          have depends := onPath.dependsOn_next next
          have advanced : OnPath answers entry ⟨record, marks, frame.advance :: below⟩ :=
            onPath.advance next
          have order : Entered ⟨record, marks, frame.advance :: below⟩ :=
            ⟨order.mem_iff, order.nodup, order.path_sublist⟩
          rw [seeing_onPath present]
          exact h.advance.note advanced order rfl depends present
  | enter next unseen allowed =>
      rename_i record marks frame below target
      exact h.advance.entering unseen (onPath.not_mem_path unseen)

theorem Steps.reported {walk : Walk} (steps : Steps answers strict (first answers entry) walk) :
    walk.Reported answers := by
  induction steps with
  | refl => exact reported_first
  | tail before step ih =>
      exact step.reported (Steps.coherent before).onPath (Steps.entered before) ih

/-- All files of a noted cycle can be reached. -/
theorem Reported.reached {walk : Walk} (h : walk.Reported answers) (order : walk.Entered)
    (registered : walk.Registered answers entry) {cycle : Cycle}
    (noted : cycle ∈ walk.record.cycles) {file : Location} (there : file ∈ cycle.chain) :
    Relation.ReflTransGen answers.DependsOn entry file := by
  have entered := (h.inOrder cycle noted).subset ((h.simple cycle noted).mem_dropLast there)
  rw [List.mem_reverse, order.mem_iff] at entered
  exact registered.reached file entered

/-- In a list without repetitions, what comes first has the lower place. -/
theorem pairwise_idxOf_lt {files : List Location} (nodup : files.Nodup) :
    files.Pairwise fun file later => files.idxOf file < files.idxOf later := by
  apply List.pairwise_iff_getElem.mpr
  intro i j _ _ before
  rwa [List.Nodup.idxOf_getElem nodup, List.Nodup.idxOf_getElem nodup]

/-- A noted cycle begins with the one of its files that was entered first. -/
theorem Reported.idxOf_le {walk : Walk} (h : walk.Reported answers) (order : walk.Entered)
    {cycle : Cycle} (noted : cycle ∈ walk.record.cycles) {first file : Location}
    (is_first : first ∈ cycle.chain.head?) (there : file ∈ cycle.chain) :
    walk.entered.reverse.idxOf first ≤ walk.entered.reverse.idxOf file := by
  have within := (h.simple cycle noted).mem_dropLast there
  have part := h.inOrder cycle noted
  obtain ⟨start, middle, chain⟩ := (h.simple cycle noted).exists_chain_eq
  rw [chain, List.dropLast_concat] at within part
  rw [chain] at is_first
  cases is_first
  have ordered := (pairwise_idxOf_lt (List.nodup_reverse.mpr order.nodup)).sublist part
  rcases List.mem_cons.mp within with rfl | later
  · exact Nat.le_refl _
  · exact Nat.le_of_lt (List.rel_of_pairwise_cons ordered later)

/-- No two cycles that were noted are rotations of one another. -/
theorem Reported.not_isRotated {walk : Walk} (h : walk.Reported answers) (order : walk.Entered) :
    walk.record.cycles.Pairwise fun one other =>
      ¬ one.chain.dropLast.IsRotated other.chain.dropLast := by
  apply h.distinct.imp_of_mem
  intro one other noted noted' distinct rotated
  have entered_nodup : walk.entered.reverse.Nodup := List.nodup_reverse.mpr order.nodup
  have same : one.chain.dropLast = other.chain.dropLast :=
    (List.Nodup.perm_iff_eq_of_sublist entered_nodup (h.inOrder one noted)
      (h.inOrder other noted')).mp rotated.perm
  cases (h.simple one noted).eq_of_dropLast_eq (h.simple other noted') same
  obtain ⟨source, target, closes⟩ := (h.simple one noted).exists_closedBy
  exact distinct source target closes closes

end Walk

end ModuleGraph
