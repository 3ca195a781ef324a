import Mathlib.Data.List.Chain
import Mathlib.Data.List.Nodup
import ModuleGraph.Proofs.Walk.Completeness

/-!
# What the stack of a walk tells

The stack of a walk, its marks and its graph are changed one after the other, and a turn relies on
their being in agreement. A target that is marked as being on the path is searched for among the
frames; were it not there, its cycle would be passed over without a word. `Walk.StackIsPath` says
how stack, marks and graph agree. It speaks of the walk alone, not of the answers that it was
given.

Two things follow for the next turn. If the cursor of the topmost frame is not at the end, there is
a target at it (`Walk.StackIsPath.exists_next`). If that target is on the path, the search finds it
and its cycle comes on record (`Walk.StackIsPath.turn_onPath`).
-/

namespace ModuleGraph.Walk

variable {answers : Answers Id} {entry : Location} {walk : Walk}

/-- The stack of a walk is its path from the entry, and marks and graph agree with it. -/
structure StackIsPath (entry : Location) (walk : Walk) : Prop where
  /-- A file is marked as being on the path exactly if there is one frame for it. -/
  mark_iff : ∀ file, walk.mark? file = some .onPath ↔
    ∃! place : Nat, walk.path[place]? = some file
  nodup : walk.path.Nodup
  bottom : ∀ frame ∈ walk.stack.getLast?, frame.file = entry
  /-- A frame above another is for the target just before the cursor of the other. -/
  linked : ∀ place upper lower, walk.stack[place]? = some upper →
    walk.stack[place + 1]? = some lower →
      0 < lower.next ∧ lower.targets[lower.next - 1]? = some upper.file ∧
        walk.record.graph.HasEdge lower.file upper.file
  bounded : ∀ frame ∈ walk.stack, frame.next ≤ frame.targets.length
  /-- The targets of a frame are what the graph says that its file depends on. -/
  recorded : ∀ frame ∈ walk.stack,
    walk.record.graph.dependencies? frame.file = some frame.targets
  finished : ∀ source target, walk.mark? source = some .finished →
    walk.record.graph.HasEdge source target → (walk.mark? target).isSome = true
  passed : ∀ frame ∈ walk.stack,
    ∀ target ∈ frame.targets.take frame.next, (walk.mark? target).isSome = true
  registered : ∀ file, (walk.mark? file).isSome = true → file ∈ walk.record.graph.files

/-- In a list without repetitions, every element has one place. -/
theorem existsUnique_place_iff {files : List Location} (nodup : files.Nodup) {file : Location} :
    (∃! place : Nat, files[place]? = some file) ↔ file ∈ files := by
  constructor
  · rintro ⟨place, at_place, _⟩
    exact List.mem_of_getElem? at_place
  · intro present
    obtain ⟨place, at_place⟩ := List.mem_iff_getElem?.mp present
    refine ⟨place, at_place, ?_⟩
    intro other at_other
    obtain ⟨bound, _⟩ := List.getElem?_eq_some_iff.mp at_other
    exact (List.getElem?_inj bound nodup).mp (at_other.trans at_place.symm)

/-- What the graph of a coherent walk says of the file of a frame. -/
theorem Coherent.dependencies?_frame (h : walk.Coherent answers entry) {frame : Frame}
    (there : frame ∈ walk.stack) :
    walk.record.graph.dependencies? frame.file = some frame.targets := by
  have on_path := (h.onPath.mark_iff frame.file).mpr (List.mem_map_of_mem there)
  rw [h.registered.of_seen frame.file (Option.isSome_of_eq_some on_path),
    h.onPath.targets frame there]

/-- A coherent walk has its path on the stack. -/
theorem Coherent.stackIsPath (h : walk.Coherent answers entry) : walk.StackIsPath entry where
  mark_iff file := by
    rw [existsUnique_place_iff h.onPath.nodup]
    exact h.onPath.mark_iff file
  nodup := h.onPath.nodup
  bottom frame last := by
    refine h.onPath.bottom frame.file ?_
    rw [path, List.getLast?_map, last]
    rfl
  linked place upper lower at_upper at_lower := by
    obtain ⟨_, rfl⟩ := List.getElem?_eq_some_iff.mp at_upper
    obtain ⟨bound, rfl⟩ := List.getElem?_eq_some_iff.mp at_lower
    obtain ⟨looked, cursor, at_cursor⟩ :=
      List.isChain_iff_getElem.mp h.onPath.linked place bound
    have recorded := h.dependencies?_frame (List.getElem_mem bound)
    rw [cursor]
    exact ⟨Nat.succ_pos looked, at_cursor, _, recorded, List.mem_of_getElem? at_cursor⟩
  bounded := h.onPath.bounded
  recorded _ there := h.dependencies?_frame there
  finished source target marked edge := by
    obtain ⟨targets, known, listed⟩ := edge
    rw [h.registered.of_seen source (Option.isSome_of_eq_some marked)] at known
    cases known
    exact h.looked.finished source marked target listed
  passed := h.looked.passed
  registered _ seen := h.registered.mem_of_seen seen

section Turn

variable {frame : Frame} {below : List Frame} {target : Location}

/-- If the cursor is not at the end, there is a target at it. -/
theorem StackIsPath.exists_next (h : walk.StackIsPath entry) (top : walk.stack = frame :: below)
    (more : frame.next ≠ frame.targets.length) :
    ∃ target, frame.targets[frame.next]? = some target := by
  have bounded := h.bounded frame (top ▸ List.mem_cons_self)
  exact ⟨_, List.getElem?_eq_getElem (Nat.lt_of_le_of_ne bounded more)⟩

/-- A target that is on the path is found there, and its cycle is on record after the turn: the
path from the target up, and back. -/
theorem StackIsPath.turn_onPath (h : walk.StackIsPath entry) (top : walk.stack = frame :: below)
    (next : frame.targets[frame.next]? = some target) (marked : walk.mark? target = some .onPath) :
    ∃ later, walk.turn = .moved later ∧
      ⟨walk.path.reverse.dropWhile (· ≠ target) ++ [target]⟩ ∈ later.record.cycles := by
  have present : target ∈ walk.path :=
    (existsUnique_place_iff h.nodup).mp ((h.mark_iff target).mp marked)
  have chain := Cycle.chain_onto h.nodup present
  obtain ⟨record, marks, stack⟩ := walk
  obtain rfl : stack = frame :: below := top
  refine ⟨_, turn_of_seen next marked, ?_⟩
  -- The search comes after the cursor has gone on, which leaves the files on the path as they are.
  have found : target ∈ path ⟨record, marks, frame.advance :: below⟩ := present
  rw [seeing_onPath found, ← chain]
  exact mem_cycles_noteCycle record _

end Turn

end ModuleGraph.Walk
