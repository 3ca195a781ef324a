import ModuleGraph.Proofs.Walk.Path

/-!
# Walks find exactly what can be reached

A walk that has come to its end has finished every file that it has seen, and it has seen every
file that can be reached from the first one. So its graph is that of the reachable files
(`Walk.Exact`), and `Walk.whole_ok` gives that for every whole walk that was not given up.
-/

namespace ModuleGraph.Walk

variable {answers : Answers Id} {strict : Bool} {entry : Location}

variable (answers entry) in
/-- The graph of a walk is that of the files that can be reached from its first file, and each of
them is finished. -/
structure Exact (walk : Walk) : Prop where
  nodup : walk.record.graph.files.Nodup
  mem_iff : ∀ file, file ∈ walk.record.graph.files ↔
    Relation.ReflTransGen answers.DependsOn entry file
  dependencies : ∀ file ∈ walk.record.graph.files,
    walk.record.graph.dependencies? file = some (answers.targets file)
  finished : ∀ file ∈ walk.record.graph.files, walk.mark? file = some .finished

/-- The edges of such a graph are the dependencies of the files that can be reached. -/
theorem Exact.hasEdge_iff {walk : Walk} (h : walk.Exact answers entry) {source target : Location} :
    walk.record.graph.HasEdge source target ↔
      Relation.ReflTransGen answers.DependsOn entry source ∧ answers.DependsOn source target := by
  constructor
  · rintro ⟨targets, known, listed⟩
    have present : source ∈ walk.record.graph.files :=
      Graph.dependencies?_isSome_iff.mp (Option.isSome_of_eq_some known)
    rw [h.dependencies source present] at known
    cases known
    exact ⟨(h.mem_iff source).mp present, listed⟩
  · rintro ⟨reached, depends⟩
    exact ⟨_, h.dependencies source ((h.mem_iff source).mpr reached), depends⟩

/-- With nothing left on the stack, all that was seen is finished. -/
theorem OnPath.finished {walk : Walk} (h : walk.OnPath answers entry) (ended : walk.stack = [])
    {file : Location} (seen : (walk.mark? file).isSome = true) :
    walk.mark? file = some .finished := by
  obtain ⟨mark, marked⟩ := Option.isSome_iff_exists.mp seen
  cases mark with
  | finished => exact marked
  | onPath =>
      have there := (h.mark_iff file).mp marked
      rw [path, ended] at there
      cases there

/-- A walk from a file to its end has found exactly what can be reached from there. -/
theorem Steps.exact {walk : Walk} (steps : Steps answers strict (first answers entry) walk)
    (ended : walk.stack = []) : walk.Exact answers entry := by
  have coherent := steps.coherent
  have entry_seen : (walk.mark? entry).isSome = true :=
    steps.mark?_isSome (by rw [first, mark?_entering, if_pos rfl]; rfl)
  -- What was seen is closed under dependencies, so it holds all that can be reached.
  have seen_of_reached {file : Location}
      (reached : Relation.ReflTransGen answers.DependsOn entry file) :
      (walk.mark? file).isSome = true := by
    induction reached with
    | refl => exact entry_seen
    | tail _ depends ih =>
        exact coherent.looked.finished _ (coherent.onPath.finished ended ih) _ depends
  have mem_iff (file : Location) : file ∈ walk.record.graph.files ↔
      Relation.ReflTransGen answers.DependsOn entry file := by
    rw [coherent.registered.mem_iff]
    constructor
    · rintro (rfl | ⟨source, seen, depends⟩)
      · exact .refl
      · exact (coherent.registered.reached source seen).tail depends
    · intro reached
      rcases reached.cases_tail with same | ⟨source, before, depends⟩
      · exact Or.inl same
      · exact Or.inr ⟨source, seen_of_reached before, depends⟩
  exact
    { nodup := coherent.registered.nodup
      mem_iff := mem_iff
      dependencies := fun file present =>
        coherent.registered.of_seen file (seen_of_reached ((mem_iff file).mp present))
      finished := fun file present =>
        coherent.onPath.finished ended (seen_of_reached ((mem_iff file).mp present)) }

/-- A whole walk that was not given up has taken steps from its first file to its end. -/
theorem whole_ok {within : List Location}
    (bounded : ∀ file, ∀ target ∈ answers.targets file, target ∈ within) {size : Nat}
    (enough : within.length ≤ size) {policy : Policy} {walk : Walk}
    (h : whole answers policy size entry = Except.ok walk) :
    answers.failures entry = [] ∧
      Steps answers (policy = .abort) (first answers entry) walk ∧ walk.stack = [] := by
  rcases whole_halts bounded enough policy entry with ⟨failure, others, _, given_up⟩ | ⟨none, rest⟩
  · rw [given_up] at h
    cases h
  · obtain ⟨last, steps, halts⟩ := rest
    rw [h] at halts
    cases halts
    exact ⟨none, steps, rfl⟩

end ModuleGraph.Walk
