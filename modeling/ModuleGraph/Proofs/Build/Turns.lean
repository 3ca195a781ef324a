import ModuleGraph.Proofs.Session.Readings
import ModuleGraph.Proofs.Walk.Loop

/-!
# Builds come to an end

However files ask for one another, a build takes finitely many turns. `Session.build_turns` says
how many these are if the build succeeds: one for each file of its graph and one for each edge.
Every file comes onto the stack once and leaves it once, every edge is looked at once, and the
requests of every file are asked for once and read from the disk at most once.
-/

namespace ModuleGraph

/-- A build by itself is one in a fresh session. -/
theorem Options.build_eq_fresh [Source.Parser] (access : Access Id) (options : Options)
    (path : String) :
    (options.build access path : Build) =
      ((Session.fresh options).build access path : Build × Session).1 := rfl

namespace Session

variable {session : Session} {disk : Disk} {path : String} {entry : Location}

/-- The files that a walk in a session can come to are those of the disk and those that the session
knows of. -/
theorem length_known_le_size (disk : Disk) (session : Session) :
    (disk.entries.map (·.1) ++ session.resolver.known.map (·.2)).length ≤
      disk.access.size.run + session.resolver.known.length := by
  rw [List.length_append, List.length_map, List.length_map]
  exact Nat.add_le_add_right (Nat.le_succ _) _

/-- The files that a build expands are those of its graph, each once. -/
theorem expansions_perm [Source.Parser] {walk : Walk} (leads : disk.canonicalize path = .ok entry)
    (walked : Walk.whole (session.standing disk.access) session.policy
      (disk.access.size.run + session.resolver.known.length) entry = Except.ok walk) :
    (session.expansions disk.access path).Nodup ∧
      (session.expansions disk.access path).Perm walk.record.graph.files := by
  have bounded (file : Location) : ∀ target ∈ (session.standing disk.access).targets file,
      target ∈ disk.entries.map (·.1) ++ session.resolver.known.map (·.2) :=
    fun _ => mem_of_mem_targets
  obtain ⟨_, steps, ended⟩ := Walk.whole_ok bounded (length_known_le_size disk session) walked
  have nodup := List.nodup_reverse.mpr steps.entered.nodup
  rw [expansions_of_ok leads, Walk.whole_logging walked]
  refine ⟨nodup, (List.perm_ext_iff_of_nodup nodup (steps.exact ended).nodup).mpr fun file => ?_⟩
  rw [List.mem_reverse]
  exact (steps.mem_files_iff ended file).symm

/-- A build takes finitely many turns, whichever file it starts from and whatever becomes of it. If
it succeeds, there is one turn for each file of its graph and one for each edge: every file comes
onto the stack once, leaves it once and is finished, and every edge is looked at once. The requests
of each file are asked for once, and read once from the disk if the session did not know them. -/
theorem build_turns [Source.Parser] (disk : Disk) (session : Session) (path : String) :
    (∀ cause, disk.canonicalize path = .error cause →
      (session.build disk.access path : Build × Session).1.result =
        .error (.unreadable path cause)) ∧
    ∀ entry, disk.canonicalize path = .ok entry → ∃ moves walked,
      (∀ limit, Walk.looping (session.standing disk.access) session.policy limit entry =
        if moves.length ≤ limit then some (moves, walked) else none) ∧
      (session.build disk.access path : Build × Session).1 = .ofWalk walked ∧
      ∀ walk, walked = .ok walk → walk.Thorough entry moves ∧
        (session.expansions disk.access path).Perm walk.record.graph.files ∧
        (session.readings disk.access path).Perm
          ((session.unread walk.record.graph.files).map Location.text) := by
  refine ⟨fun cause astray => ?_, fun entry leads => ?_⟩
  · rw [build_eq]
    simp only [Disk.access, astray]
  · have bounded (file : Location) : ∀ target ∈ (session.standing disk.access).targets file,
        target ∈ disk.entries.map (·.1) ++ session.resolver.known.map (·.2) :=
      fun _ => mem_of_mem_targets
    obtain ⟨moves, looped, thorough⟩ := Walk.exists_looping bounded
      (length_known_le_size disk session) session.policy entry
    refine ⟨moves, _, looped, ?_, fun walk walked => ?_⟩
    · rw [build_eq]
      simp only [Disk.access, leads]
    · obtain ⟨nodup, expanded⟩ := expansions_perm leads walked
      refine ⟨thorough walk walked, expanded, ?_⟩
      rw [readings_eq nodup]
      exact (expanded.filter _).map _

theorem build_turns_ring :
    Disk.ring.canonicalize "/e.js" = .ok ⟨["e.js"]⟩ ∧ ∃ moves walk, moves.length = 6 ∧
      Walk.looping ((fresh .standard).standing Disk.ring.access) .abort 6 ⟨["e.js"]⟩ =
        some (moves, .ok walk) ∧
      walk.record.outcome = Disk.ringOutcome ∧
      ((fresh .standard).readings Disk.ring.access "/e.js").Perm ["/e.js", "/a.js"] := by
  have leads : Disk.ring.canonicalize "/e.js" = .ok ⟨["e.js"]⟩ := by decide +kernel
  obtain ⟨moves, walked, looped, built, thorough⟩ :=
    (build_turns Disk.ring (fresh .standard) "/e.js").2 _ leads
  have succeeds : (Build.ofWalk walked).result = .ok Disk.ringOutcome := by
    rw [← built, ← Options.build_eq_fresh]
    exact Options.build_ring
  cases walked with
  | error abandoned => cases succeeds
  | ok walk =>
      have outcome : walk.record.outcome = Disk.ringOutcome := Except.ok.inj succeeds
      have graph : walk.record.graph = Disk.ringOutcome.graph := congrArg Outcome.graph outcome
      obtain ⟨all_done, _, read⟩ := thorough walk rfl
      have six : moves.length = 6 := by rw [all_done.length_eq, graph]; rfl
      refine ⟨leads, moves, walk, six, ?_, outcome, ?_⟩
      · exact (looped 6).trans (if_pos six.le)
      · rwa [graph, unread_fresh] at read

end Session

end ModuleGraph
