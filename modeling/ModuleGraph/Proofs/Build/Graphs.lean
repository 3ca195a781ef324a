import ModuleGraph.Proofs.Disk.Resolution
import ModuleGraph.Proofs.Walk.Completeness
import ModuleGraph.Proofs.Walk.Recursion
import ModuleGraph.Source.Program

/-!
# What a build has found

A build that succeeds was a walk to its end, and so it is told in the words of the disk what it has
found. `Options.build_graph_exact`: its graph holds exactly the files that can be reached, and says
exactly what they depend on. `Options.build_cycles_complete`: every closed way in the graph goes
along a dependency that closes a noted cycle. `Options.build_cycles_genuine`: noted cycles are
simple, consist of edges of the graph, begin with the file that was expanded first, and none is
there twice, not even turned.

Nothing is assumed of the disk. Links, files that cannot be read and files that ask for one another
are all allowed.
-/

namespace ModuleGraph

namespace Session

variable [Source.Parser]

/-- The files whose requests a build in a session asks for, in the order in which it does. -/
def expansions (access : Access Id) (path : String) (session : Session) : List Location :=
  match (access.canonicalize path : Except Cause Location) with
  | .error _ => []
  | .ok file =>
    (Walk.whole (answers access).logging session.policy
      (access.size.run + session.resolver.known.length) file [] session).1.2

/-- A walk in a session logs what a walk with the standing answers logs. -/
theorem whole_logging_eq_standing (access : Access Id) (session : Session) (policy : Policy)
    (size : Nat) (file : Location) :
    (Walk.whole (answers access).logging policy size file [] session).1 =
      Walk.whole (session.standing access).logging policy size file [] :=
  (Walk.whole_logging_corresponds (keeping access (session.standing access))
    (keeping_imports access _) (keeping_target access _) policy size file [] session rfl).1

/-- The order of expansion is that of the walk with the standing answers. -/
theorem expansions_of_ok {access : Access Id} {path : String} {session : Session}
    {file : Location} (h : access.canonicalize path = .ok file) :
    session.expansions access path =
      (Walk.whole (session.standing access).logging session.policy
        (access.size.run + session.resolver.known.length) file []).2 := by
  rw [expansions, h]
  exact congrArg Prod.snd (whole_logging_eq_standing access session _ _ file)

end Session

/-- A disk with two files that ask for one another. One does so twice, the other also asks for
itself. -/
def Disk.ring : Disk where
  entries :=
    [(⟨["e.js"]⟩, .file (.text "require('./a'); require('./a');")),
      (⟨["a.js"]⟩, .file (.text "require('./e'); require('./a');"))]
  workingDirectory := some .root

/-- What a build finds on that disk. -/
def Disk.ringOutcome : Outcome where
  graph := ⟨[(⟨["e.js"]⟩, [⟨["a.js"]⟩, ⟨["a.js"]⟩]), (⟨["a.js"]⟩, [⟨["e.js"]⟩, ⟨["a.js"]⟩])]⟩
  cycles := [⟨[⟨["e.js"]⟩, ⟨["a.js"]⟩, ⟨["e.js"]⟩]⟩, ⟨[⟨["a.js"]⟩, ⟨["a.js"]⟩]⟩]
  failures := []

namespace Options

variable {disk : Disk} {options : Options} {path : String} {outcome : Outcome}

section

variable [Source.Parser]

/-- The order in which a build in a fresh session expands files. -/
def expansions (access : Access Id) (options : Options) (path : String) : List Location :=
  (Session.fresh options).expansions access path

/-- A build that succeeds is a whole walk that was not given up. -/
theorem exists_whole_of_build (h : (options.build disk.access path : Build).result = .ok outcome) :
    ∃ entry walk, disk.canonicalize path = .ok entry ∧
      Walk.whole (disk.access.answers options) options.policy disk.access.size.run entry =
        Except.ok walk ∧
      walk.record.outcome = outcome := by
  cases leads : disk.canonicalize path with
  | error cause =>
      rw [build_of_error disk.access leads] at h
      cases h
  | ok entry =>
      rw [build_of_ok disk.access leads] at h
      cases walked : (Walk.whole (disk.access.answers options) options.policy disk.access.size.run
          entry : Except Abandoned Walk) with
      | error abandoned =>
          rw [walked] at h
          cases h
      | ok walk =>
          rw [walked] at h
          exact ⟨entry, walk, rfl, walked, Except.ok.inj h⟩

/-- A build that succeeds is a walk that goes from where the path leads to its end. -/
theorem exists_walk_of_build (h : (options.build disk.access path : Build).result = .ok outcome) :
    ∃ entry walk, disk.canonicalize path = .ok entry ∧
      Walk.Steps (disk.access.answers options) (options.policy = .abort)
        (.first (disk.access.answers options) entry) walk ∧
      walk.stack = [] ∧ walk.record.outcome = outcome ∧
      options.expansions disk.access path = walk.entered.reverse := by
  obtain ⟨entry, walk, leads, walked, same⟩ := exists_whole_of_build h
  obtain ⟨_, steps, ended⟩ :=
    Walk.whole_ok Disk.mem_entries_of_mem_targets disk.length_entries_le_size walked
  refine ⟨entry, walk, leads, steps, ended, same, ?_⟩
  rw [expansions, Session.expansions_of_ok leads, Session.standing_fresh]
  exact Walk.whole_logging walked

end

/-! ## Reachability -/

theorem build_ring :
    (standard.build Disk.ring.access "/e.js" : Build).result = .ok Disk.ringOutcome := by
  decide +kernel

/-- The graph that a build gives holds the files that can be reached from where the path leads,
each once, and says of each what it depends on: what its requests lead to, in their order and as
often as they are made. -/
theorem build_graph_exact [Source.Parser]
    (h : (options.build disk.access path : Build).result = .ok outcome) :
    ∃ entry, disk.canonicalize path = .ok entry ∧ outcome.graph.files.Nodup ∧
      (∀ file, file ∈ outcome.graph.files ↔
        Relation.ReflTransGen (disk.access.answers options).DependsOn entry file) ∧
      ∀ file ∈ outcome.graph.files, outcome.graph.dependencies? file =
        some ((disk.access.answers options).targets file) := by
  obtain ⟨entry, walk, leads, steps, ended, rfl, _⟩ := exists_walk_of_build h
  have exact_walk := steps.exact ended
  exact ⟨entry, leads, exact_walk.nodup, exact_walk.mem_iff, exact_walk.dependencies⟩

theorem build_graph_exact_ring :
    (standard.build Disk.ring.access "/e.js" : Build).result = .ok Disk.ringOutcome ∧
      ∃ entry, Disk.ring.canonicalize "/e.js" = .ok entry ∧ ∀ file,
        (file = ⟨["e.js"]⟩ ∨ file = ⟨["a.js"]⟩) ↔
          Relation.ReflTransGen (Disk.ring.access.answers standard).DependsOn entry file := by
  obtain ⟨entry, leads, _, mem_iff, _⟩ := build_graph_exact build_ring
  refine ⟨build_ring, entry, leads, ?_⟩
  intro file
  rw [← mem_iff]
  simp [Graph.files, Disk.ringOutcome]

/-! ## Cycles -/

/-- Every closed way in the graph that a build gives goes along a dependency that closes a noted
cycle. In particular, no cycle is noted if and only if there is none to be reached. -/
theorem build_cycles_complete [Source.Parser]
    (h : (options.build disk.access path : Build).result = .ok outcome) :
    ∃ entry, disk.canonicalize path = .ok entry ∧
      (∀ way : List Location, way.IsChain outcome.graph.HasEdge → 2 ≤ way.length →
        way.head? = way.getLast? → ∃ source target, [source, target] <:+: way ∧
          ∃ cycle ∈ outcome.cycles, [source, target] <:+ cycle.chain) ∧
      (outcome.cycles = [] ↔
        ∀ file, Relation.ReflTransGen (disk.access.answers options).DependsOn entry file →
          ¬ Relation.TransGen (disk.access.answers options).DependsOn file file) := by
  obtain ⟨entry, walk, leads, steps, ended, rfl, _⟩ := exists_walk_of_build h
  have exact_walk := steps.exact ended
  refine ⟨entry, leads, ?_, ?_⟩
  · intro way linked long closed
    obtain ⟨source, target, along, cycle, noted, closes⟩ :=
      steps.grounded.exists_closes exact_walk linked long closed
    exact ⟨source, target, along, cycle, noted, closes⟩
  · refine steps.grounded.cycles_eq_nil_iff exact_walk ?_ steps.reported.simple
    intro cycle noted file there
    exact steps.reported.reached steps.entered steps.coherent.registered noted there

theorem build_cycles_complete_ring :
    (standard.build Disk.ring.access "/e.js" : Build).result = .ok Disk.ringOutcome ∧
      ∃ file, Relation.TransGen (Disk.ring.access.answers standard).DependsOn file file := by
  obtain ⟨entry, _, _, none_iff⟩ := build_cycles_complete build_ring
  refine ⟨build_ring, Classical.byContradiction fun acyclic => ?_⟩
  have none_noted := none_iff.mpr fun file _ around => acyclic ⟨file, around⟩
  cases none_noted

/-- Every noted cycle is a closed chain of edges of the graph that comes through no file twice and
begins with the one of its files that was expanded first. No two of them are closed by the same
dependency or are rotations of one another. -/
theorem build_cycles_genuine [Source.Parser]
    (h : (options.build disk.access path : Build).result = .ok outcome) :
    ((options.expansions disk.access path).Nodup ∧
      ∀ file, file ∈ options.expansions disk.access path ↔ file ∈ outcome.graph.files) ∧
    (∀ cycle ∈ outcome.cycles,
      2 ≤ cycle.chain.length ∧ cycle.chain.head? = cycle.chain.getLast? ∧
      cycle.chain.dropLast.Nodup ∧ cycle.chain.IsChain outcome.graph.HasEdge ∧
      ∀ first ∈ cycle.chain.head?, ∀ file ∈ cycle.chain,
        (options.expansions disk.access path).idxOf first ≤
          (options.expansions disk.access path).idxOf file) ∧
    ∀ (i j : Nat) (one other : Cycle), i ≠ j → outcome.cycles[i]? = some one →
      outcome.cycles[j]? = some other →
      (∀ source target, [source, target] <:+ one.chain → ¬ [source, target] <:+ other.chain) ∧
        ¬ one.chain.dropLast.IsRotated other.chain.dropLast := by
  obtain ⟨entry, walk, leads, steps, ended, rfl, in_order⟩ := exists_walk_of_build h
  have exact_walk := steps.exact ended
  have reported := steps.reported
  rw [in_order]
  refine ⟨⟨?_, ?_⟩, ?_, ?_⟩
  · exact List.nodup_reverse.mpr steps.entered.nodup
  · intro file
    rw [List.mem_reverse, steps.entered.mem_iff]
    constructor
    · exact steps.coherent.registered.mem_of_seen
    · intro present
      exact Option.isSome_of_eq_some (exact_walk.finished file present)
  · intro cycle noted
    obtain ⟨long, closed, nodup, linked⟩ := reported.simple cycle noted
    refine ⟨long, closed, nodup, ?_, ?_⟩
    · apply linked.imp_of_mem_imp
      intro source target there _ depends
      have reached := reported.reached steps.entered steps.coherent.registered noted there
      exact exact_walk.hasEdge_iff.mpr ⟨reached, depends⟩
    · intro first is_first file there
      exact reported.idxOf_le steps.entered noted is_first there
  · intro i j one other apart at_i at_j
    obtain ⟨_, rfl⟩ := List.getElem?_eq_some_iff.mp at_i
    obtain ⟨_, rfl⟩ := List.getElem?_eq_some_iff.mp at_j
    have distinct := List.pairwise_iff_getElem.mp reported.distinct
    have not_turned := List.pairwise_iff_getElem.mp (reported.not_isRotated steps.entered)
    -- Neither of the two relations has a direction, so it does not matter which cycle comes first.
    rcases Nat.lt_or_gt_of_ne apart with before | after
    · exact ⟨distinct i j _ _ before, not_turned i j _ _ before⟩
    · constructor
      · intro source target closes closes'
        exact distinct j i _ _ after source target closes' closes
      · intro turned
        exact not_turned j i _ _ after turned.symm

theorem build_cycles_genuine_ring :
    (standard.build Disk.ring.access "/e.js" : Build).result = .ok Disk.ringOutcome ∧
      ∀ cycle ∈ Disk.ringOutcome.cycles, cycle.chain.IsChain Disk.ringOutcome.graph.HasEdge := by
  obtain ⟨_, genuine, _⟩ := build_cycles_genuine build_ring
  exact ⟨build_ring, fun cycle noted => (genuine cycle noted).2.2.2.1⟩

/-! ## Recursion -/

variable [Source.Parser]

/-- The graph of what can be reached from a path, found by a recursive walk of so much depth. -/
def buildRecursively (access : Access Id) (options : Options) (depth : Nat) (path : String) :
    Option (Except Failure Outcome) :=
  match (access.canonicalize path : Except Cause Location) with
  | .error cause => some (.error (.unreadable path cause))
  | .ok file =>
    (Survey.whole (access.answers options) options.policy depth file).map
      (Except.map Survey.outcome)

theorem buildRecursively_mono {access : Access Id} {depth more : Nat} (h : depth ≤ more)
    {result : Except Failure Outcome}
    (found : options.buildRecursively access depth path = some result) :
    options.buildRecursively access more path = some result := by
  cases leads : (access.canonicalize path : Except Cause Location) with
  | error cause =>
      rw [buildRecursively, leads] at found ⊢
      exact found
  | ok file =>
      rw [buildRecursively, leads] at found ⊢
      obtain ⟨survey, visited, rfl⟩ := Option.map_eq_some_iff.mp found
      exact congrArg (Option.map (Except.map Survey.outcome)) (Survey.whole_mono h visited)

/-- A recursive walk that is deep enough for all files comes to what a build gives. -/
theorem buildRecursively_of_lt {depth : Nat} (deep : disk.entries.length < depth) :
    options.buildRecursively disk.access depth path =
      some (options.build disk.access path : Build).result := by
  cases leads : (disk.access.canonicalize path : Except Cause Location) with
  | error cause => rw [build_of_error disk.access leads, buildRecursively, leads]
  | ok entry =>
      rw [build_of_ok disk.access leads, buildRecursively, leads]
      rw [← List.length_map (·.1)] at deep
      exact Walk.whole_recurses Disk.mem_entries_of_mem_targets disk.length_entries_le_size
        options.policy entry deep

/-- A build gives what the recursive walk gives: the same failure, or the same graph with the same
order of registration, the same cycles and the same failures, each in the same order. The recursion
gives this as soon as it is deep enough for all files, and with less depth this or nothing. -/
theorem build_result_recursive (disk : Disk) (options : Options) (path : String) :
    (∀ depth, disk.entries.length < depth → options.buildRecursively disk.access depth path =
      some (options.build disk.access path : Build).result) ∧
    ∀ depth result, options.buildRecursively disk.access depth path = some result →
      result = (options.build disk.access path : Build).result := by
  refine ⟨fun depth deep => buildRecursively_of_lt deep, ?_⟩
  intro depth result found
  have deep : disk.entries.length < disk.entries.length + 1 + depth := by omega
  have found_deep : options.buildRecursively disk.access (disk.entries.length + 1 + depth) path =
      some result := buildRecursively_mono (Nat.le_add_left _ _) found
  rw [buildRecursively_of_lt deep] at found_deep
  exact (Option.some.inj found_deep).symm

end Options

end ModuleGraph
