import ModuleGraph.Proofs.Command.Status
import ModuleGraph.Report.Lines

/-!
# What the all-clear is about

A report on cycles may begin with the line that says that there are none. It is about builds that
succeeded, and of these it is true: none of their files depends on itself, whether or not failures
are on record. A build that failed has no cycles to report, however many it had come to before it
was given up or would have come to after that. `Config.ComesTo.all_clear_sound` says both.

So whoever reads that line must look for failures too. Each build that failed has a line of its own
in the same report.
-/

namespace ModuleGraph

/-! ## The lines of a report -/

namespace Report.Manner

variable {manner : Manner} {run : Run} {result : EntryResult} {failure : Failure}

/-- The report on cycles begins with the line that says that there are none, and what it has to say
of each file follows. -/
def GivesAllClear (manner : Manner) (run : Run) : Prop :=
  manner.cycleLines run = manner.allClear :: run.entries.flatMap manner.entryCycleLines

/-- No other line is taken for that one, not even the path of a file that spells it. -/
theorem givesAllClear_iff : manner.GivesAllClear run ↔ run.cycleCount = 0 := by
  rw [GivesAllClear, cycleLines]
  split
  · next none => exact iff_of_true rfl none
  · next some =>
    rw [List.nil_append]
    exact iff_of_false (List.cons_ne_self _ _).symm some

/-- A build that failed is not passed over in silence. -/
theorem failureLine_mem_cycleLines (listed : result ∈ run.entries)
    (failed : result.outcome = .error failure) :
    manner.failureLine failure ∈ manner.cycleLines run := by
  refine List.mem_append_right _ (List.mem_flatMap.mpr ⟨result, listed, ?_⟩)
  rw [entryCycleLines, failed]
  exact List.mem_singleton_self _

end Report.Manner

/-! ## Builds that fail -/

namespace Disk

variable [Source.Parser] {disk : Disk} {options : Options} {path : String} {entry : Location}

/-- A build from a path can end with a failure without having seen all that can be reached:
requests of the first file are known, but something is wrong with a file that can be reached. If
failures are noted, that can only be the first file itself. -/
inductive CutsShort (disk : Disk) (options : Options) (path : String) : Failure → Prop
  | flawed {entry file : Location} {failure : Failure} (leads : disk.canonicalize path = .ok entry)
      (reads : disk.reads options entry = true)
      (reaches : Relation.ReflTransGen (disk.access.answers options).DependsOn entry file)
      (wrong : failure ∈ disk.flaws options file)
      (recorded : options.policy = .record → file = entry) : CutsShort disk options path failure

/-- Nothing can be reached by a path that leads nowhere. -/
theorem acyclic_of_astray {cause : Cause} (leads : disk.canonicalize path = .error cause) :
    disk.Acyclic options path := by
  intro entry leads'
  cases leads.symm.trans leads'

/-- A file that cannot be read or is not well formed depends on nothing. -/
theorem acyclic_of_reads_eq_false (leads : disk.canonicalize path = .ok entry)
    (unread : disk.reads options entry = false) : disk.Acyclic options path := by
  have edgeless (target : Location) :
      ¬ (disk.access.answers options).DependsOn entry target := by
    intro depends
    cases asked : (disk.access.requests options.dynamicImports entry :
        Except Failure (List Specifier)) with
    | ok specifiers => simp [reads, asked, Except.isOk, Except.toBool] at unread
    | error failure =>
        rw [Answers.DependsOn, Answers.targets_of_error _ asked] at depends
        cases depends
  intro entry' leads' file reaches around
  cases leads.symm.trans leads'
  rcases reaches.cases_head with rfl | ⟨target, depends, _⟩
  · obtain ⟨target, depends, _⟩ := Relation.TransGen.head'_iff.mp around
    exact edgeless target depends
  · exact edgeless target depends

end Disk

namespace Options

variable [Source.Parser] {disk : Disk} {options : Options} {path : String} {entry : Location}
  {failure : Failure}

/-- A build that notes failures fails only if its path is refused. -/
theorem refuses_of_record
    (h : ((options.under .record).build disk.access path : Build).result = .error failure) :
    disk.Refuses options path failure := by
  obtain ⟨agreement, holds⟩ := exists_agreement disk options path
  rw [h] at holds
  cases agreement with
  | full =>
      obtain ⟨_, _, succeeds, _⟩ := holds
      cases succeeds
  | refused =>
      obtain ⟨_, _, same, refuses⟩ := holds
      cases same
      exact refuses
  | cut =>
      obtain ⟨_, _, _, succeeds, _⟩ := holds
      cases succeeds

/-- A build that gives up at failures fails because its path is refused, or with what is the first
failure on record if failures are noted. -/
theorem refuses_or_noted_of_abort
    (h : ((options.under .abort).build disk.access path : Build).result = .error failure) :
    disk.Refuses options path failure ∨ ∃ outcome,
      ((options.under .record).build disk.access path : Build).result = .ok outcome ∧
        outcome.failures.head? = some failure := by
  obtain ⟨agreement, holds⟩ := exists_agreement disk options path
  rw [h] at holds
  cases agreement with
  | full =>
      obtain ⟨_, succeeds, _⟩ := holds
      cases succeeds
  | refused =>
      obtain ⟨_, same, _, refuses⟩ := holds
      cases same
      exact .inl refuses
  | cut =>
      obtain ⟨_, outcome, same, recorded, first⟩ := holds
      cases same
      exact .inr ⟨outcome, recorded, first⟩

/-- A build that fails from a file that is there has come to one with which something is wrong. If
it notes failures, that is the file it started from. -/
theorem exists_flaw_of_build_error (leads : disk.canonicalize path = .ok entry)
    (h : (options.build disk.access path : Build).result = .error failure) :
    ∃ file, Relation.ReflTransGen (disk.access.answers options).DependsOn entry file ∧
      failure ∈ disk.flaws options file ∧ (options.policy = .record → file = entry) := by
  have of_refuses (refuses : disk.Refuses options path failure) :
      failure ∈ disk.flaws options entry := by
    cases refuses with
    | astray astray => cases leads.symm.trans astray
    | flawed leads' wrong =>
        cases leads.symm.trans leads'
        exact wrong
  have same : options.under options.policy = options := rfl
  rw [← same] at h
  cases policy : options.policy with
  | record =>
      rw [policy] at h
      exact ⟨entry, .refl, of_refuses (refuses_of_record h), fun _ => rfl⟩
  | abort =>
      rw [policy] at h
      rcases refuses_or_noted_of_abort h with refuses | ⟨outcome, recorded, first⟩
      · exact ⟨entry, .refl, of_refuses refuses, fun record => nomatch record⟩
      · -- The build that goes on has the failure on record, with the file that it is about.
        have told := told_of_build recorded
        obtain ⟨file, present, wrong⟩ := (told.failures failure).mp (List.mem_of_head? first)
        obtain ⟨entry', leads', reached⟩ := told.reached
        cases leads.symm.trans leads'
        exact ⟨file, (reached file).mp present, wrong, fun record => nomatch record⟩

/-- A build that fails had no cycle to come to, or it was cut short. -/
theorem acyclic_or_cutsShort
    (h : (options.build disk.access path : Build).result = .error failure) :
    disk.Acyclic options path ∨ disk.CutsShort options path failure := by
  cases leads : disk.canonicalize path with
  | error cause => exact .inl (Disk.acyclic_of_astray leads)
  | ok entry =>
      cases reads : disk.reads options entry with
      | false => exact .inl (Disk.acyclic_of_reads_eq_false leads reads)
      | true =>
          obtain ⟨file, reaches, wrong, recorded⟩ := exists_flaw_of_build_error leads h
          exact .inr (.flawed leads reads reaches wrong recorded)

end Options

/-! ## The all-clear -/

namespace Config

/-- A report on cycles gives the all-clear exactly if no file depends on itself that a build which
succeeded has come to. Nothing is said of the other builds. Each of these has the line of its
failure in the report, and either no file that can be reached depends on itself or the build was
cut short by that failure. -/
theorem ComesTo.all_clear_sound [Source.Parser] {disk : Disk} {config : Config} {run : Run}
    (comes : config.ComesTo disk run) (manner : Report.Manner) :
    run.entries.map (·.entry) = config.entries ∧
    (manner.GivesAllClear run ↔ ∀ result ∈ run.entries, result.outcome.isOk = true →
      disk.Acyclic config.options result.entry) ∧
    ∀ result ∈ run.entries, ∀ failure, result.outcome = .error failure →
      manner.failureLine failure ∈ manner.cycleLines run ∧
        (disk.Acyclic config.options result.entry ∨
          disk.CutsShort config.options result.entry failure) := by
  obtain rfl := comes.eq
  refine ⟨?_, ?_, ?_⟩
  · simp only [Options.runSeparately, List.map_map]
    exact List.map_id _
  · rw [Report.Manner.givesAllClear_iff, Run.cycleCount_eq_zero_iff]
    simp only [Options.runSeparately, List.forall_mem_map]
    refine forall_congr' fun path => forall_congr' fun given => ?_
    constructor
    · intro none isOk
      cases built : (config.options.build disk.access path : Build).result with
      | ok outcome => exact (Options.cycles_eq_nil_iff built).mp (none outcome built)
      | error failure =>
          rw [built] at isOk
          cases isOk
    · intro acyclic outcome built
      refine (Options.cycles_eq_nil_iff built).mpr (acyclic ?_)
      rw [built]
      rfl
  · intro result listed failure failed
    refine ⟨Report.Manner.failureLine_mem_cycleLines listed failed, ?_⟩
    obtain ⟨path, given, rfl⟩ := List.mem_map.mp listed
    exact Options.acyclic_or_cutsShort failed

end Config

/-- A disk with two files that ask for one that is not there. One of them depends on nothing else,
the other on itself. -/
def Disk.blots : Disk where
  entries :=
    [(⟨["top.js"]⟩, .file (.text "require('./low');")),
      (⟨["low.js"]⟩, .file (.text "require('./gone');")),
      (⟨["knot.js"]⟩, .file (.text "require('./knot'); require('./gone');"))]
  workingDirectory := some .root

namespace Config

/-- A configuration that starts from two files and keeps going, whatever is wrong with them. -/
def blotted : Config :=
  { twice with entries := ["/top.js", "/knot.js"] }

theorem exists_blotted_run : ∃ run, blotted.ComesTo Disk.blots run ∧ run.cycleCount = 0 ∧
    ∃ outcome, run.entries = [⟨"/top.js", .ok outcome⟩,
      ⟨"/knot.js", .error (.unresolved "./gone" "/knot.js" [⟨["gone.js"]⟩])⟩] := by
  obtain ⟨said, ran⟩ := exists_run_eq Disk.blots blotted
  have accepted : blotted.refusal? Disk.blots = none := by decide +kernel
  rw [accepted] at ran
  let outcome : Outcome :=
    ⟨⟨[(⟨["top.js"]⟩, [⟨["low.js"]⟩]), (⟨["low.js"]⟩, [])]⟩, [],
      [.unresolved "./gone" "/low.js" [⟨["gone.js"]⟩]]⟩
  have top : (blotted.options.build Disk.blots.access "/top.js" : Build).result = .ok outcome := by
    decide +kernel
  have knot : (blotted.options.build Disk.blots.access "/knot.js" : Build).result =
      .error (.unresolved "./gone" "/knot.js" [⟨["gone.js"]⟩]) := by
    decide +kernel
  have results : (blotted.options.runSeparately Disk.blots blotted.entries).entries =
      [⟨"/top.js", .ok outcome⟩,
        ⟨"/knot.js", .error (.unresolved "./gone" "/knot.js" [⟨["gone.js"]⟩])⟩] := by
    change [EntryResult.mk "/top.js" _, EntryResult.mk "/knot.js" _] = _
    rw [top, knot]
  refine ⟨_, .inTurn ran, ?_, outcome, results⟩
  rw [Run.cycleCount, results]
  rfl

theorem not_acyclic_blotted : ¬ Disk.blots.Acyclic blotted.options "/knot.js" := by
  intro acyclic
  have leads : Disk.blots.canonicalize "/knot.js" = .ok ⟨["knot.js"]⟩ := by decide +kernel
  have depends : ⟨["knot.js"]⟩ ∈
      (Disk.blots.access.answers blotted.options).targets ⟨["knot.js"]⟩ := by
    decide +kernel
  exact acyclic _ leads _ .refl (.single depends)

theorem ComesTo.all_clear_sound_blots : ∃ run, blotted.ComesTo Disk.blots run ∧
    (⟨false, some "/"⟩ : Report.Manner).GivesAllClear run ∧
    Disk.blots.Acyclic blotted.options "/top.js" ∧
    Disk.blots.CutsShort blotted.options "/knot.js"
      (.unresolved "./gone" "/knot.js" [⟨["gone.js"]⟩]) := by
  obtain ⟨run, comes, none, outcome, results⟩ := exists_blotted_run
  obtain ⟨_, all_clear_iff, failed⟩ := comes.all_clear_sound ⟨false, some "/"⟩
  have all_clear : (⟨false, some "/"⟩ : Report.Manner).GivesAllClear run :=
    Report.Manner.givesAllClear_iff.mpr none
  have sound := all_clear_iff.mp all_clear
  rw [results] at sound failed
  refine ⟨run, comes, all_clear, sound _ List.mem_cons_self rfl, ?_⟩
  obtain ⟨_, acyclic_or_cut⟩ := failed _ (List.mem_cons_of_mem _ List.mem_cons_self) _ rfl
  exact acyclic_or_cut.resolve_left not_acyclic_blotted

/-- The all-clear is given although a file that was given depends on itself, since its build failed
for another reason. -/
theorem ComesTo.all_clear_blots : ∃ run, blotted.ComesTo Disk.blots run ∧
    (⟨false, some "/"⟩ : Report.Manner).GivesAllClear run ∧
    ¬ ∀ path ∈ blotted.entries, Disk.blots.Acyclic blotted.options path := by
  obtain ⟨run, comes, none, _⟩ := exists_blotted_run
  refine ⟨run, comes, Report.Manner.givesAllClear_iff.mpr none, ?_⟩
  intro acyclic
  exact not_acyclic_blotted (acyclic "/knot.js" (by decide))

end Config

end ModuleGraph
