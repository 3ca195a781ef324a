import Mathlib.Data.List.Induction
import ModuleGraph.Proofs.Graph.Log

/-!
# Graphs with an index

The position of a file in a graph can be searched for, as `Graph.position?` does, or it can be kept
in a table beside the nodes, so that no search is needed. The table says a second time what the
nodes say already. Nothing in its form keeps it from saying something else: that a file is unknown
which is there, or that a file stands where there is nothing. So all that is done with its help may
fail.

It never does. `Graph.Indexed.Coherent` says that table and nodes are inverse to one another. Each
call keeps that, and does to the nodes what it does to the graph
(`Graph.Indexed.Coherent.exists_applied?`). So whatever calls are made, a graph with an index is
the graph without one (`Graph.refines_log`).
-/

namespace ModuleGraph

namespace Graph

/-- Nodes in the order of registration, and a table of their positions. -/
structure Indexed where
  nodes : List (Location × List Location)
  index : List (Location × Nat)
  deriving DecidableEq, Repr

namespace Indexed

/-- No nodes, and an empty table. -/
def empty : Indexed :=
  ⟨[], []⟩

/-- What is left when the table is taken away. -/
def graph (indexed : Indexed) : Graph :=
  ⟨indexed.nodes⟩

/-- Whether the table has a position for a file. -/
def contains (indexed : Indexed) (file : Location) : Bool :=
  (indexed.index.lookup file).isSome

/-- What a file depends on that the table has a position for. There is no answer if that position
lies beyond the nodes. -/
def dependencies? (indexed : Indexed) (file : Location) : Option (Option (List Location)) :=
  match indexed.index.lookup file with
  | none => some none
  | some position => indexed.nodes[position]?.map fun node => some node.2

/-- Adds a file behind the nodes, and its position to the table, unless it has one. -/
def register (indexed : Indexed) (file : Location) : Indexed :=
  if indexed.contains file then indexed
  else ⟨indexed.nodes ++ [(file, [])], (file, indexed.nodes.length) :: indexed.index⟩

/-- Adds a target to the node at a position. -/
def push (indexed : Indexed) (position : Nat) (target : Location) : Indexed :=
  { indexed with
    nodes := indexed.nodes.modify position fun (file, targets) => (file, targets ++ [target]) }

/-- Adds a target at the position that the table has for a file. That fails if it has none, or if
there is no node at that position. -/
def link? (indexed : Indexed) (source target : Location) : Option Indexed :=
  let both := (indexed.register source).register target
  match both.index.lookup source with
  | none => none
  | some position => if position < both.nodes.length then some (both.push position target) else none

/-- What a call makes of a graph with an index, unless it fails. -/
def applied? (indexed : Indexed) : Call → Option Indexed
  | .register file => some (indexed.register file)
  | .link source target => indexed.link? source target

/-- What calls make of the empty graph with an index, unless one of them fails. -/
def ofLog? (log : List Call) : Option Indexed :=
  log.foldlM applied? empty

/-- The table has a position for a file exactly if the file stands there. -/
def Coherent (indexed : Indexed) : Prop :=
  ∀ file position, indexed.index.lookup file = some position ↔
    indexed.graph.files[position]? = some file

/-- What stands in a list with one more element at its end. -/
theorem getElem?_concat_eq_some_iff {α : Type} {elements : List α} {last other : α}
    {position : Nat} :
    (elements ++ [last])[position]? = some other ↔
      elements[position]? = some other ∨ position = elements.length ∧ other = last := by
  rw [List.getElem?_append]
  split
  · next before => simp [Nat.ne_of_lt before]
  · next beyond =>
    rw [List.getElem?_eq_none (Nat.not_lt.mp beyond), List.getElem?_singleton]
    split
    · next first =>
      have here : position = elements.length := by omega
      simp [here, eq_comm]
    · next later =>
      have elsewhere : position ≠ elements.length := by omega
      simp [elsewhere]

theorem coherent_empty : empty.Coherent := by
  intro file position
  exact iff_of_false (fun known => nomatch known) (fun stands => nomatch stands)

variable {indexed : Indexed}

namespace Coherent

/-- Looking a position up is as good as searching for it. -/
theorem lookup_eq (coherent : indexed.Coherent) (file : Location) :
    indexed.index.lookup file = indexed.graph.position? file := by
  cases searched : indexed.graph.position? file with
  | some position =>
      obtain ⟨within, stands, _⟩ := List.idxOf?_eq_some_iff.mp searched
      exact (coherent file position).mpr (List.getElem?_eq_some_iff.mpr ⟨within, stands⟩)
  | none =>
      rw [Option.eq_none_iff_forall_ne_some]
      intro position looked
      have stands := (coherent file position).mp looked
      exact List.idxOf?_eq_none_iff.mp searched (List.mem_of_getElem? stands)

theorem contains_eq (coherent : indexed.Coherent) (file : Location) :
    indexed.contains file = indexed.graph.contains file := by
  rw [contains, coherent.lookup_eq, Graph.contains]

/-- Registering a file is registering it in the graph, and keeps table and nodes inverse. -/
theorem graph_register (coherent : indexed.Coherent) (file : Location) :
    (indexed.register file).graph = indexed.graph.register file := by
  rw [register, Graph.register, coherent.contains_eq]
  split <;> rfl

theorem register (coherent : indexed.Coherent) (file : Location) :
    (indexed.register file).Coherent := by
  rw [Indexed.register]
  split
  · exact coherent
  · next unknown =>
    have absent : file ∉ indexed.graph.files := by
      rwa [coherent.contains_eq, contains_iff_mem_files] at unknown
    have added : (graph ⟨indexed.nodes ++ [(file, [])],
        (file, indexed.nodes.length) :: indexed.index⟩).files = indexed.graph.files ++ [file] := by
      simp [graph, files]
    have length_eq : indexed.graph.files.length = indexed.nodes.length := List.length_map _
    intro other position
    rw [added, getElem?_concat_eq_some_iff, length_eq, ← coherent]
    by_cases same : other = file
    · subst same
      have unknown : indexed.index.lookup other = none := by
        rw [coherent.lookup_eq]
        exact List.idxOf?_eq_none_iff.mpr absent
      simp [unknown, eq_comm]
    · rw [List.lookup_cons, beq_eq_false_iff_ne.mpr same]
      simp [same]

/-- A target more leaves the positions of files as they are. -/
theorem push (coherent : indexed.Coherent) (position : Nat) (target : Location) :
    (indexed.push position target).Coherent := by
  have same_files : (indexed.push position target).graph.files = indexed.graph.files :=
    map_fst_modify _ _ _ fun _ => rfl
  intro file place
  rw [same_files]
  exact coherent file place

/-- Linking files never fails. It is linking them in the graph, and keeps table and nodes
inverse. -/
theorem exists_link? (coherent : indexed.Coherent) (source target : Location) :
    ∃ linked, indexed.link? source target = some linked ∧
      linked.graph = indexed.graph.link source target ∧ linked.Coherent := by
  have both := (coherent.register source).register target
  have same_graph : ((indexed.register source).register target).graph =
      (indexed.graph.register source).register target := by
    rw [(coherent.register source).graph_register, coherent.graph_register]
  have registered : source ∈ ((indexed.register source).register target).graph.files := by
    rw [same_graph]
    exact mem_files_register.mpr (Or.inr (mem_files_register.mpr (Or.inl rfl)))
  obtain ⟨position, found⟩ := Option.isSome_iff_exists.mp (contains_iff_mem_files.mpr registered)
  have looked := (both.lookup_eq source).trans found
  have within := lt_length_of_position? found
  refine ⟨((indexed.register source).register target).push position target, ?_, ?_,
    both.push position target⟩
  · simp only [link?, looked]
    exact if_pos within
  · rw [Graph.link, ← same_graph]
    simp only [found]
    rfl

/-- No call fails. Each does what it does to the graph, and keeps table and nodes inverse. -/
theorem exists_applied? (coherent : indexed.Coherent) (call : Call) :
    ∃ later, indexed.applied? call = some later ∧ later.graph = indexed.graph.apply call ∧
      later.Coherent := by
  cases call with
  | register file => exact ⟨_, rfl, coherent.graph_register file, coherent.register file⟩
  | link source target => exact coherent.exists_link? source target

/-- What a file depends on is always found at the position that the table has for it. -/
theorem dependencies?_eq (coherent : indexed.Coherent) (file : Location) :
    indexed.dependencies? file = some (indexed.graph.dependencies? file) := by
  rw [Indexed.dependencies?, Graph.dependencies?, coherent.lookup_eq]
  cases searched : indexed.graph.position? file with
  | none => rfl
  | some position =>
      have within := lt_length_of_position? searched
      change position < indexed.nodes.length at within
      simp [graph, List.getElem?_eq_getElem within]

end Coherent

theorem ofLog?_concat (log : List Call) (call : Call) :
    ofLog? (log ++ [call]) = (ofLog? log).bind (applied? · call) := by
  rw [ofLog?, List.foldlM_append, ofLog?]
  cases log.foldlM applied? empty <;> simp

/-- Calls never fail, and make the same graph with an index as without. -/
theorem exists_ofLog? (log : List Call) :
    ∃ indexed, ofLog? log = some indexed ∧ indexed.graph = ofLog log ∧ indexed.Coherent := by
  induction log using List.reverseRecOn with
  | nil => exact ⟨empty, rfl, rfl, coherent_empty⟩
  | append_singleton log call ih =>
      obtain ⟨indexed, made, same_graph, coherent⟩ := ih
      obtain ⟨later, applied, same_later, coherent'⟩ := coherent.exists_applied? call
      refine ⟨later, ?_, ?_, coherent'⟩
      · rw [ofLog?_concat, made, Option.bind_some, applied]
      · rw [same_later, same_graph, ofLog_concat]

end Indexed

/-- Whatever calls are made of the empty graph, it says exactly what they say: the files that they
mention, in the order of first mention, and for each of them its targets in the order of the calls.
More calls only add behind that. With an index all this is the same, and nothing that is done with
its help fails: table and nodes are inverse to one another. -/
theorem refines_log (log : List Call) :
    (ofLog log).Reflects log ∧
    (∀ more, (ofLog log).GrowsTo (ofLog (log ++ more))) ∧
    ∃ indexed, Indexed.ofLog? log = some indexed ∧ indexed.graph = ofLog log ∧
      indexed.Coherent ∧ ∀ file, indexed.contains file = (ofLog log).contains file ∧
        indexed.dependencies? file = some ((ofLog log).dependencies? file) := by
  obtain ⟨indexed, made, same_graph, coherent⟩ := Indexed.exists_ofLog? log
  refine ⟨reflects_ofLog log, growsTo_ofLog_append log, indexed, made, same_graph, coherent, ?_⟩
  intro file
  rw [← same_graph]
  exact ⟨coherent.contains_eq file, coherent.dependencies?_eq file⟩

end Graph

end ModuleGraph
