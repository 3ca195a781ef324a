import ModuleGraph.Location

/-!
# Dependency graphs

A graph of files that keeps the order in which its files were registered and, for each of them, the
files it depends on in the order of its text, as often as it asks for them. A graph only grows.

`Graph.files` is the view in which registration is stated: `files_register` and `files_link` say
what each operation does to it.
-/

namespace ModuleGraph

/-- The files of a graph with their dependencies, in the order of registration. -/
structure Graph where
  nodes : List (Location × List Location)
  deriving DecidableEq, Repr

namespace Graph

/-- The graph without files. -/
def empty : Graph :=
  ⟨[]⟩

/-- The files of a graph, in the order of registration. -/
def files (graph : Graph) : List Location :=
  graph.nodes.map (·.1)

/-- The place of a file in the order of registration. -/
def position? (graph : Graph) (file : Location) : Option Nat :=
  graph.files.idxOf? file

/-- Whether a file is registered. -/
def contains (graph : Graph) (file : Location) : Bool :=
  (graph.position? file).isSome

/-- What a registered file depends on. -/
def dependencies? (graph : Graph) (file : Location) : Option (List Location) := do
  let position ← graph.position? file
  let (_, targets) ← graph.nodes[position]?
  return targets

/-- The graph with a file registered in it, at the end unless it is there already. -/
def register (graph : Graph) (file : Location) : Graph :=
  if graph.contains file then graph else ⟨graph.nodes ++ [(file, [])]⟩

/-- The graph in which a file depends on one more file. Either is registered if it is not yet, the
one that depends before the other. -/
def link (graph : Graph) (source target : Location) : Graph :=
  let both := (graph.register source).register target
  match both.position? source with
  | some position => ⟨both.nodes.modify position fun (file, targets) => (file, targets ++ [target])⟩
  | none => both

/-- The number of files. -/
def nodeCount (graph : Graph) : Nat :=
  graph.nodes.length

/-- The number of dependencies, repetitions included. -/
def edgeCount (graph : Graph) : Nat :=
  (graph.nodes.map (·.2.length)).foldr (· + ·) 0

/-- Whether no file is registered. -/
def isEmpty (graph : Graph) : Bool :=
  graph.nodes.isEmpty

/-- A file is registered exactly when it is among the files. -/
theorem contains_iff_mem_files {graph : Graph} {file : Location} :
    graph.contains file = true ↔ file ∈ graph.files := by
  rw [contains, position?, Option.isSome_iff_ne_none, ne_eq, List.idxOf?_eq_none_iff,
    Decidable.not_not]

/-- Registering adds a file at the end or not at all. -/
theorem files_register (graph : Graph) (file : Location) :
    (graph.register file).files =
      if file ∈ graph.files then graph.files else graph.files ++ [file] := by
  by_cases h : file ∈ graph.files
  · simp [register, contains_iff_mem_files, h]
  · have notThere : ¬ graph.contains file = true := fun there => h (contains_iff_mem_files.mp there)
    rw [register, if_neg notThere, if_neg h]
    simp [files]

/-- A registered file is among the files, and so is what was there before. -/
theorem mem_files_register {graph : Graph} {file other : Location} :
    other ∈ (graph.register file).files ↔ other = file ∨ other ∈ graph.files := by
  rw [files_register]
  by_cases h : file ∈ graph.files
  · rw [if_pos h]
    exact ⟨Or.inr, fun either => either.elim (fun same => same ▸ h) id⟩
  · rw [if_neg h, List.mem_append, List.mem_singleton]
    exact or_comm

/-- No file is registered twice. -/
theorem nodup_files_register {graph : Graph} (file : Location) (h : graph.files.Nodup) :
    (graph.register file).files.Nodup := by
  rw [files_register]
  by_cases there : file ∈ graph.files
  · rwa [if_pos there]
  · rw [if_neg there, List.nodup_append]
    refine ⟨h, List.nodup_cons.mpr ⟨List.not_mem_nil, List.nodup_nil⟩, ?_⟩
    intro other present last isLast same
    exact there (List.mem_singleton.mp isLast ▸ same ▸ present)

/-- A change of one node that keeps its file keeps all files. -/
theorem map_fst_modify (nodes : List (Location × List Location)) (position : Nat)
    (change : Location × List Location → Location × List Location)
    (h : ∀ node, (change node).1 = node.1) :
    (nodes.modify position change).map (·.1) = nodes.map (·.1) := by
  induction nodes generalizing position with
  | nil => cases position <;> rfl
  | cons node rest ih =>
    cases position with
    | zero => rw [List.modify_zero_cons, List.map_cons, List.map_cons, h]
    | succ position => rw [List.modify_succ_cons, List.map_cons, List.map_cons, ih]

/-- A dependency registers its ends, and no other file. -/
theorem files_link (graph : Graph) (source target : Location) :
    (graph.link source target).files = ((graph.register source).register target).files := by
  rw [link]
  split
  · exact map_fst_modify _ _ _ fun _ => rfl
  · rfl

end Graph

end ModuleGraph
