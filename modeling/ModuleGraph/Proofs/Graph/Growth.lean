import ModuleGraph.Graph

/-!
# How graphs grow

What a graph says about a file is read off its nodes by looking the file up, and both ways to make
a graph grow are stated in that view. `Graph.linkAll` is what happens when a file is expanded: one
dependency after the other is added to it, and whatever is not registered yet is registered on the
way.
-/

namespace ModuleGraph.Graph

/-- What a file depends on stands at its first place among the nodes. -/
theorem dependencies?_eq_lookup (graph : Graph) (file : Location) :
    graph.dependencies? file = graph.nodes.lookup file := by
  obtain ⟨nodes⟩ := graph
  simp only [dependencies?, position?, files]
  induction nodes with
  | nil => rfl
  | cons node rest ih =>
      obtain ⟨first, targets⟩ := node
      by_cases same : first = file
      · subst same
        simp [List.idxOf?_cons]
      · rw [List.lookup_cons, beq_eq_false_iff_ne.mpr (Ne.symm same), ← ih, List.map_cons,
          List.idxOf?_cons, beq_eq_false_iff_ne.mpr same]
        cases (rest.map (·.1)).idxOf? file <;> rfl

/-- The graph says something about a file exactly if the file is registered. -/
theorem dependencies?_isSome_iff {graph : Graph} {file : Location} :
    (graph.dependencies? file).isSome = true ↔ file ∈ graph.files := by
  rw [dependencies?_eq_lookup, List.lookup_isSome_iff, files, List.mem_map]
  constructor
  · rintro ⟨node, present, same⟩
    exact ⟨node, present, (beq_iff_eq.mp same).symm⟩
  · rintro ⟨node, present, rfl⟩
    exact ⟨node, present, BEq.rfl⟩

theorem dependencies?_eq_none_iff {graph : Graph} {file : Location} :
    graph.dependencies? file = none ↔ file ∉ graph.files := by
  rw [← dependencies?_isSome_iff, Bool.not_eq_true, Option.isSome_eq_false_iff,
    Option.isNone_iff_eq_none]

/-- In a graph that holds no file twice, what stands beside a file is what it depends on. -/
theorem dependencies?_of_mem {graph : Graph} {file : Location} {targets : List Location}
    (nodup : graph.files.Nodup) (h : (file, targets) ∈ graph.nodes) :
    graph.dependencies? file = some targets := by
  obtain ⟨before, after, listed⟩ := List.append_of_mem h
  rw [files, listed, List.map_append, List.map_cons] at nodup
  rw [dependencies?_eq_lookup, List.lookup_eq_some_iff]
  refine ⟨before, after, listed, fun node present => bne_iff_ne.mpr ?_⟩
  exact fun same => (List.nodup_append.mp nodup).2.2 node.1 (List.mem_map_of_mem present) file
    List.mem_cons_self same.symm

/-- The graph says of one file that it depends on another. -/
def HasEdge (graph : Graph) (source target : Location) : Prop :=
  ∃ targets, graph.dependencies? source = some targets ∧ target ∈ targets

/-- Nothing happens to a graph when a file is registered again. -/
theorem register_of_mem {graph : Graph} {file : Location} (h : file ∈ graph.files) :
    graph.register file = graph := by
  rw [register, if_pos (contains_iff_mem_files.mpr h)]

/-- A file that is registered depends on nothing, and nothing else changes. -/
theorem dependencies?_register (graph : Graph) (file other : Location) :
    (graph.register file).dependencies? other =
      (graph.dependencies? other).or (if other = file then some [] else none) := by
  by_cases h : file ∈ graph.files
  · rw [register_of_mem h]
    by_cases same : other = file
    · obtain ⟨targets, known⟩ := Option.isSome_iff_exists.mp (dependencies?_isSome_iff.mpr h)
      rw [same, known, Option.some_or]
    · rw [if_neg same, Option.or_none]
  · have added : (graph.register file).nodes = graph.nodes ++ [(file, [])] := by
      rw [register, if_neg fun there => h (contains_iff_mem_files.mp there)]
    rw [dependencies?_eq_lookup, added, List.lookup_append, ← dependencies?_eq_lookup]
    congr 1
    by_cases same : other = file
    · simp [same]
    · rw [if_neg same, List.lookup_cons, beq_eq_false_iff_ne.mpr same]
      rfl

/-- A change at the first place of a key changes what is found under that key and nothing else. -/
theorem lookup_modify_idxOf (nodes : List (Location × List Location)) (file other : Location)
    (change : List Location → List Location) {position : Nat}
    (h : (nodes.map (·.1)).idxOf? file = some position) :
    (nodes.modify position fun node => (node.1, change node.2)).lookup other =
      if other = file then (nodes.lookup file).map change else nodes.lookup other := by
  induction nodes generalizing position with
  | nil => cases h
  | cons node rest ih =>
      obtain ⟨first, targets⟩ := node
      rw [List.map_cons, List.idxOf?_cons] at h
      by_cases same : first = file
      · subst same
        rw [if_pos BEq.rfl] at h
        cases h
        rw [List.modify_zero_cons, List.lookup_cons]
        by_cases found : other = first
        · simp [found]
        · rw [if_neg found, List.lookup_cons, beq_eq_false_iff_ne.mpr found]
      · rw [if_neg (by simpa using same), Option.map_eq_some_iff] at h
        obtain ⟨below, hbelow, rfl⟩ := h
        rw [List.modify_succ_cons, List.lookup_cons, ih hbelow, List.lookup_cons, List.lookup_cons,
          beq_eq_false_iff_ne.mpr (Ne.symm same)]
        by_cases found : other = file
        · rw [if_pos found, if_pos found, found, beq_eq_false_iff_ne.mpr (Ne.symm same)]
        · rw [if_neg found, if_neg found]

/-- A new dependency comes last among those of its file. -/
theorem dependencies?_link (graph : Graph) (source target other : Location) :
    (graph.link source target).dependencies? other =
      if other = source then some ((graph.dependencies? source).getD [] ++ [target])
      else ((graph.register source).register target).dependencies? other := by
  have registered : source ∈ ((graph.register source).register target).files :=
    mem_files_register.mpr (Or.inr (mem_files_register.mpr (Or.inl rfl)))
  obtain ⟨position, found⟩ := Option.isSome_iff_exists.mp (contains_iff_mem_files.mpr registered)
  simp only [link, found]
  rw [dependencies?_eq_lookup, lookup_modify_idxOf _ source other (· ++ [target]) found,
    ← dependencies?_eq_lookup, ← dependencies?_eq_lookup]
  by_cases same : other = source
  · rw [if_pos same, if_pos same, dependencies?_register, dependencies?_register, if_pos rfl]
    cases graph.dependencies? source <;> rfl
  · rw [if_neg same, if_neg same]

/-- It makes no difference if the file that a registered file depends on was registered before. -/
theorem link_register {graph : Graph} {source target : Location} (h : source ∈ graph.files) :
    (graph.register target).link source target = graph.link source target := by
  have source_there : source ∈ (graph.register target).files := mem_files_register.mpr (Or.inr h)
  have target_there : target ∈ (graph.register target).files := mem_files_register.mpr (Or.inl rfl)
  simp only [link, register_of_mem source_there, register_of_mem target_there, register_of_mem h]

/-- The graph in which a file depends on so many more files. -/
def linkAll (graph : Graph) (source : Location) (targets : List Location) : Graph :=
  targets.foldl (fun grown target => grown.link source target) graph

@[simp]
theorem linkAll_nil (graph : Graph) (source : Location) : graph.linkAll source [] = graph := rfl

@[simp]
theorem linkAll_cons (graph : Graph) (source target : Location) (rest : List Location) :
    graph.linkAll source (target :: rest) = (graph.link source target).linkAll source rest := rfl

theorem mem_files_link {graph : Graph} {source target other : Location} :
    other ∈ (graph.link source target).files ↔
      other = target ∨ other = source ∨ other ∈ graph.files := by
  rw [files_link, mem_files_register, mem_files_register]

/-- Expanding a registered file registers what it depends on. -/
theorem mem_files_linkAll {graph : Graph} {source other : Location} {targets : List Location}
    (h : source ∈ graph.files) :
    other ∈ (graph.linkAll source targets).files ↔ other ∈ graph.files ∨ other ∈ targets := by
  induction targets generalizing graph with
  | nil => simp
  | cons target rest ih =>
      rw [linkAll_cons, ih (mem_files_link.mpr (Or.inr (Or.inr h))), mem_files_link, List.mem_cons]
      constructor
      · rintro ((rfl | rfl | present) | later)
        · exact Or.inr (Or.inl rfl)
        · exact Or.inl h
        · exact Or.inl present
        · exact Or.inr (Or.inr later)
      · rintro (present | rfl | later)
        · exact Or.inl (Or.inr (Or.inr present))
        · exact Or.inl (Or.inl rfl)
        · exact Or.inr later

theorem nodup_files_linkAll {graph : Graph} (source : Location) (targets : List Location)
    (h : graph.files.Nodup) : (graph.linkAll source targets).files.Nodup := by
  induction targets generalizing graph with
  | nil => exact h
  | cons target rest ih =>
      rw [linkAll_cons]
      apply ih
      rw [files_link]
      exact nodup_files_register target (nodup_files_register source h)

/-- An expanded file depends on all that it was expanded with, in that order, behind what it
depended on before. -/
theorem dependencies?_linkAll_self {graph : Graph} {source : Location}
    {before : List Location} (targets : List Location)
    (h : graph.dependencies? source = some before) :
    (graph.linkAll source targets).dependencies? source = some (before ++ targets) := by
  induction targets generalizing graph before with
  | nil => rw [linkAll_nil, h, List.append_nil]
  | cons target rest ih =>
      have linked :
          (graph.link source target).dependencies? source = some (before ++ [target]) := by
        rw [dependencies?_link, if_pos rfl, h, Option.getD_some]
      rw [linkAll_cons, ih linked, List.append_assoc, List.singleton_append]

/-- Expanding a file does not change what other files depend on. -/
theorem dependencies?_linkAll_of_ne {graph : Graph} {source other : Location}
    (targets : List Location) (h : other ≠ source) :
    (graph.linkAll source targets).dependencies? other =
      (graph.dependencies? other).or (if other ∈ targets then some [] else none) := by
  induction targets generalizing graph with
  | nil => simp
  | cons target rest ih =>
      rw [linkAll_cons, ih, dependencies?_link, if_neg h, dependencies?_register,
        dependencies?_register, if_neg h, Option.or_none, Option.or_assoc]
      congr 1
      by_cases same : other = target
      · simp [same]
      · simp [same]

end ModuleGraph.Graph
