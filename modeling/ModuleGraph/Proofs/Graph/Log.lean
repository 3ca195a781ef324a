import Mathlib.Data.List.Induction
import Mathlib.Data.List.Nodup
import ModuleGraph.Extension
import ModuleGraph.Proofs.Graph.Growth

/-!
# Graphs from the calls that made them

A graph is made by calls, of which there are two kinds. What it says can be read off the list of
these calls without any graph: the files that are mentioned, each where it is mentioned first, and
for each of them the targets that it was linked to, in the order of the calls.

`Graph.reflects_ofLog` says that the graph says exactly this, whatever the calls are and in
whatever order they are made. Later calls only add behind what was there
(`Graph.growsTo_ofLog_append`).
-/

namespace ModuleGraph

namespace Graph

/-- A call that makes a graph grow. -/
inductive Call where
  | register (file : Location)
  | link (source target : Location)
  deriving DecidableEq, Repr

namespace Call

/-- The files that a call mentions, in the order in which it takes care of them. -/
def mentions : Call → List Location
  | register file => [file]
  | link source target => [source, target]

/-- The target that a call gives to a file. -/
def target? (file : Location) : Call → Option Location
  | register _ => none
  | link source target => if source = file then some target else none

/-- Whether a call adds an edge. -/
def isLink : Call → Bool
  | register _ => false
  | link _ _ => true

end Call

/-- The files that calls mention, in their order and as often as they do. -/
def mentioned (log : List Call) : List Location :=
  log.flatMap Call.mentions

/-- The targets that calls give to a file, in their order and as often as they do. -/
def targetsIn (log : List Call) (file : Location) : List Location :=
  log.filterMap (Call.target? file)

/-- The graph after a call. -/
def apply (graph : Graph) : Call → Graph
  | .register file => graph.register file
  | .link source target => graph.link source target

/-- The graph that calls make of the empty one. -/
def ofLog (log : List Call) : Graph :=
  log.foldl apply empty

/-- What a graph says if it is told by calls. -/
structure Reflects (graph : Graph) (log : List Call) : Prop where
  /-- The files are those that are mentioned, each where it is mentioned first. -/
  files : graph.files = Extension.firstOccurrences (mentioned log)
  nodup : graph.files.Nodup
  /-- Beside each file stand the targets that it was given. -/
  nodes : graph.nodes = graph.files.map fun file => (file, targetsIn log file)
  dependencies? : ∀ file, graph.dependencies? file =
    if file ∈ mentioned log then some (targetsIn log file) else none
  contains : ∀ file, graph.contains file = true ↔ file ∈ mentioned log
  nodeCount : graph.nodeCount = (Extension.firstOccurrences (mentioned log)).length
  edgeCount : graph.edgeCount = log.countP Call.isLink
  isEmpty : graph.isEmpty = true ↔ log = []
  /-- Every target is a file of the graph. -/
  closed : ∀ source target, graph.HasEdge source target → target ∈ graph.files
  /-- A position belongs to a file exactly if the file stands there. -/
  position? : ∀ file position,
    graph.position? file = some position ↔ graph.files[position]? = some file

/-- Of two graphs, the later has only added behind what the earlier says. -/
structure GrowsTo (earlier later : Graph) : Prop where
  files : earlier.files <+: later.files
  dependencies : ∀ file targets, earlier.dependencies? file = some targets →
    ∃ more, later.dependencies? file = some more ∧ targets <+: more

/-! ## One more call -/

theorem mentioned_append (log more : List Call) :
    mentioned (log ++ more) = mentioned log ++ mentioned more :=
  List.flatMap_append

theorem mentioned_concat (log : List Call) (call : Call) :
    mentioned (log ++ [call]) = mentioned log ++ call.mentions := by
  rw [mentioned_append]
  exact congrArg _ (List.append_nil _)

theorem targetsIn_append (log more : List Call) (file : Location) :
    targetsIn (log ++ more) file = targetsIn log file ++ targetsIn more file :=
  List.filterMap_append

theorem targetsIn_concat (log : List Call) (call : Call) (file : Location) :
    targetsIn (log ++ [call]) file = targetsIn log file ++ (call.target? file).toList := by
  have one : targetsIn [call] file = (call.target? file).toList := by
    rw [targetsIn]
    cases given : call.target? file <;> simp [given]
  rw [targetsIn_append, one]

theorem ofLog_concat (log : List Call) (call : Call) :
    ofLog (log ++ [call]) = (ofLog log).apply call :=
  List.foldl_append

/-- A file that no call mentions is given no targets. -/
theorem targetsIn_eq_nil {log : List Call} {file : Location} (h : file ∉ mentioned log) :
    targetsIn log file = [] := by
  rw [targetsIn, List.filterMap_eq_nil_iff]
  intro call made
  have unmentioned : file ∉ call.mentions := fun there =>
    h (List.mem_flatMap.mpr ⟨call, made, there⟩)
  cases call with
  | register other => rfl
  | link source target =>
      have other : source ≠ file := fun same => unmentioned (same ▸ List.mem_cons_self)
      exact if_neg other

/-- What is given as a target is mentioned. -/
theorem mem_mentioned_of_mem_targetsIn {log : List Call} {file target : Location}
    (h : target ∈ targetsIn log file) : target ∈ mentioned log := by
  obtain ⟨call, made, given⟩ := List.mem_filterMap.mp h
  refine List.mem_flatMap.mpr ⟨call, made, ?_⟩
  cases call with
  | register other => cases given
  | link source other =>
      rw [Call.target?] at given
      split at given
      · cases given
        exact List.mem_cons_of_mem _ List.mem_cons_self
      · cases given

/-! ## Files -/

/-- Registering a file is mentioning it. -/
theorem files_register_eq {graph : Graph} {mentioned : List Location}
    (h : graph.files = Extension.firstOccurrences mentioned) (file : Location) :
    (graph.register file).files = Extension.firstOccurrences (mentioned ++ [file]) := by
  rw [files_register, Extension.firstOccurrences_append, h]
  by_cases there : file ∈ mentioned
  · rw [if_pos (Extension.mem_firstOccurrences.mpr there)]
    simp [Extension.firstOccurrences, there]
  · rw [if_neg fun present => there (Extension.mem_firstOccurrences.mp present)]
    simp [Extension.firstOccurrences, there]

theorem files_ofLog (log : List Call) :
    (ofLog log).files = Extension.firstOccurrences (mentioned log) := by
  induction log using List.reverseRecOn with
  | nil => rfl
  | append_singleton log call ih =>
      rw [ofLog_concat, mentioned_concat]
      cases call with
      | register file => exact files_register_eq ih file
      | link source target =>
          have both := files_register_eq (files_register_eq ih source) target
          rw [List.append_assoc] at both
          exact (files_link _ source target).trans both

theorem nodup_files_ofLog (log : List Call) : (ofLog log).files.Nodup := by
  rw [files_ofLog]
  exact Extension.nodup_firstOccurrences _

theorem mem_files_ofLog {log : List Call} {file : Location} :
    file ∈ (ofLog log).files ↔ file ∈ mentioned log := by
  rw [files_ofLog, Extension.mem_firstOccurrences]

/-! ## Dependencies -/

theorem dependencies?_ofLog (log : List Call) (file : Location) :
    (ofLog log).dependencies? file =
      if file ∈ mentioned log then some (targetsIn log file) else none := by
  induction log using List.reverseRecOn with
  | nil => rfl
  | append_singleton log call ih =>
      rw [ofLog_concat, mentioned_concat, targetsIn_concat]
      cases call with
      | register other =>
          change ((ofLog log).register other).dependencies? file = _
          rw [dependencies?_register, ih]
          by_cases there : file ∈ mentioned log
          · simp [there, Call.target?]
          · by_cases same : file = other
            · subst same
              simp [there, Call.target?, Call.mentions, targetsIn_eq_nil there]
            · simp [there, same, Call.mentions]
      | link source target =>
          change ((ofLog log).link source target).dependencies? file = _
          rw [dependencies?_link]
          by_cases same : file = source
          · subst same
            rw [if_pos rfl, ih]
            by_cases there : file ∈ mentioned log
            · simp [there, Call.target?]
            · simp [there, Call.target?, Call.mentions, targetsIn_eq_nil there]
          · rw [if_neg same, dependencies?_register, dependencies?_register, ih, if_neg same]
            by_cases there : file ∈ mentioned log
            · simp [there, Call.target?, Ne.symm same]
            · by_cases other : file = target
              · subst other
                simp [there, Call.target?, Call.mentions, Ne.symm same, targetsIn_eq_nil there]
              · simp [there, same, other, Call.mentions]

/-- A graph that holds no file twice is told by its files and what they depend on. -/
theorem nodes_eq_map_files {graph : Graph} (nodup : graph.files.Nodup) :
    graph.nodes =
      graph.files.map fun file => (file, (graph.dependencies? file).getD []) := by
  rw [files, List.map_map]
  refine ((List.map_congr_left fun node present => ?_).trans (List.map_id _)).symm
  rw [Function.comp_apply, dependencies?_of_mem nodup present]
  rfl

theorem nodes_ofLog (log : List Call) :
    (ofLog log).nodes = (ofLog log).files.map fun file => (file, targetsIn log file) := by
  rw [nodes_eq_map_files (nodup_files_ofLog log)]
  refine List.map_congr_left fun file present => ?_
  rw [dependencies?_ofLog, if_pos (mem_files_ofLog.mp present)]
  rfl

/-- No graph stays empty through a call. -/
theorem isEmpty_ofLog {log : List Call} : (ofLog log).isEmpty = true ↔ log = [] := by
  cases log with
  | nil => exact iff_of_true rfl rfl
  | cons call rest =>
      have some_file : ∃ file, file ∈ (ofLog (call :: rest)).files := by
        simp only [mem_files_ofLog, mentioned, List.flatMap_cons, List.mem_append]
        cases call with
        | register file => exact ⟨file, Or.inl List.mem_cons_self⟩
        | link source target => exact ⟨source, Or.inl List.mem_cons_self⟩
      obtain ⟨file, present⟩ := some_file
      obtain ⟨node, listed, _⟩ := List.mem_map.mp present
      refine iff_of_false (fun none => ?_) (List.cons_ne_nil _ _)
      exact List.ne_nil_of_mem listed (List.isEmpty_iff.mp none)

/-! ## Edges -/

/-- A graph has no edge more when a file is registered. -/
theorem edgeCount_register (graph : Graph) (file : Location) :
    (graph.register file).edgeCount = graph.edgeCount := by
  rw [register]
  split
  · rfl
  · simp [edgeCount]

/-- One more target anywhere is one more edge. -/
theorem sum_lengths_modify (nodes : List (Location × List Location)) (target : Location)
    {position : Nat} (h : position < nodes.length) :
    ((nodes.modify position fun (file, targets) => (file, targets ++ [target])).map
        (·.2.length)).foldr (· + ·) 0 =
      (nodes.map (·.2.length)).foldr (· + ·) 0 + 1 := by
  induction nodes generalizing position with
  | nil => cases h
  | cons node rest ih =>
      cases position with
      | zero =>
          rw [List.modify_zero_cons]
          simp only [List.map_cons, List.foldr_cons, List.length_append, List.length_singleton]
          omega
      | succ position =>
          rw [List.modify_succ_cons]
          simp only [List.map_cons, List.foldr_cons, ih (Nat.lt_of_succ_lt_succ h)]
          omega

/-- The position of a file is one at which there is a node. -/
theorem lt_length_of_position? {graph : Graph} {file : Location} {position : Nat}
    (h : graph.position? file = some position) : position < graph.nodes.length := by
  have within : position < graph.files.length := (List.idxOf?_eq_some_iff.mp h).1
  rwa [files, List.length_map] at within

/-- A graph has one edge more when a file is linked to another. -/
theorem edgeCount_link (graph : Graph) (source target : Location) :
    (graph.link source target).edgeCount = graph.edgeCount + 1 := by
  have registered : source ∈ ((graph.register source).register target).files :=
    mem_files_register.mpr (Or.inr (mem_files_register.mpr (Or.inl rfl)))
  obtain ⟨position, found⟩ := Option.isSome_iff_exists.mp (contains_iff_mem_files.mpr registered)
  simp only [link, found]
  rw [edgeCount, sum_lengths_modify _ target (lt_length_of_position? found)]
  exact congrArg (· + 1) ((edgeCount_register _ target).trans (edgeCount_register _ source))

theorem edgeCount_ofLog (log : List Call) : (ofLog log).edgeCount = log.countP Call.isLink := by
  induction log using List.reverseRecOn with
  | nil => rfl
  | append_singleton log call ih =>
      rw [ofLog_concat, List.countP_append, ← ih]
      cases call with
      | register file => exact edgeCount_register _ file
      | link source target => exact edgeCount_link _ source target

/-! ## What is said as a whole -/

/-- Where no file stands twice, searching for a file is the inverse of looking at its position. -/
theorem position?_eq_some_iff {graph : Graph} (nodup : graph.files.Nodup) {file : Location}
    {position : Nat} :
    graph.position? file = some position ↔ graph.files[position]? = some file := by
  rw [position?, List.idxOf?_eq_some_iff, List.getElem?_eq_some_iff]
  constructor
  · rintro ⟨within, stands, _⟩
    exact ⟨within, stands⟩
  · rintro ⟨within, stands⟩
    refine ⟨within, stands, fun earlier before same => ?_⟩
    have twice : earlier = position := nodup.getElem_inj_iff.mp (same.trans stands.symm)
    exact absurd twice (Nat.ne_of_lt before)

/-- A graph says what the calls say that have made it. -/
theorem reflects_ofLog (log : List Call) : (ofLog log).Reflects log where
  files := files_ofLog log
  nodup := nodup_files_ofLog log
  nodes := nodes_ofLog log
  dependencies? := dependencies?_ofLog log
  contains file := contains_iff_mem_files.trans mem_files_ofLog
  nodeCount := by rw [← files_ofLog, files, List.length_map, nodeCount]
  edgeCount := edgeCount_ofLog log
  isEmpty := isEmpty_ofLog
  closed source target edge := by
    obtain ⟨targets, told, present⟩ := edge
    rw [dependencies?_ofLog] at told
    split at told
    · cases told
      exact mem_files_ofLog.mpr (mem_mentioned_of_mem_targetsIn present)
    · cases told
  position? _ _ := position?_eq_some_iff (nodup_files_ofLog log)

/-- More calls only add behind what the graph says. -/
theorem growsTo_ofLog_append (log more : List Call) :
    (ofLog log).GrowsTo (ofLog (log ++ more)) where
  files := by
    rw [files_ofLog, files_ofLog, mentioned_append, Extension.firstOccurrences_append]
    exact List.prefix_append _ _
  dependencies file targets told := by
    rw [dependencies?_ofLog] at told
    split at told
    · next there =>
      cases told
      refine ⟨targetsIn (log ++ more) file, ?_, ?_⟩
      · rw [dependencies?_ofLog, mentioned_append, if_pos (List.mem_append_left _ there)]
      · rw [targetsIn_append]
        exact List.prefix_append _ _
    · cases told

end Graph

end ModuleGraph
