import ModuleGraph.Proofs.Build.Identity
import ModuleGraph.Proofs.Build.Policies
import ModuleGraph.Proofs.Crew.Config

/-!
# Every file is counted once

The builds of a run share what was read, but not their graphs. Still the number of files that a run
has analysed can be told from the graphs alone, if all builds succeed: each file of any graph is
either among those that were analysed, or among those that could not be read or are not well formed
(`Config.ComesTo.accounts_for_files`).

Files that fail in this way are named in failures by their paths. So is a candidate that is too
deep to be located, but the path of a candidate is then not the path of any file of a graph
(`Disk.eq_of_mem_flaws`).
-/

namespace ModuleGraph

/-- The path of a file that could not be read, or whose text is not well formed. -/
def Failure.unread? : Failure → Option String
  | unreadable path _ => some path
  | malformed path _ => some path
  | unresolved .. => none

namespace Run

/-- The files of all graphs of a run, each once. -/
def files (run : Run) : List Location :=
  (run.entries.flatMap fun result =>
    (result.outcome?.map (·.graph.files)).getD []).dedup

/-- The files of all graphs of which some failure says that they could not be read or are not well
formed. -/
def unread (run : Run) : List Location :=
  run.files.filter fun file => run.entries.any fun result =>
    result.failures.any fun failure => failure.unread? = some file.text

/-- Without failures there are none of these. -/
theorem unread_eq_nil {run : Run} (h : run.hasFailures = false) : run.unread = [] := by
  have none_noted : ∀ result ∈ run.entries, result.failures = [] := by
    simpa [hasFailures] using h
  apply List.filter_eq_nil_iff.mpr
  intro file _
  rw [Bool.not_eq_true, List.any_eq_false]
  intro result listed
  rw [none_noted result listed]
  exact Bool.false_ne_true

end Run

namespace Disk

variable [Source.Parser] {disk : Disk} {options : Options} {file : Location}

/-- Requests that cannot be had fail with the path of their file. -/
theorem unread?_of_requests {dynamic : Bool} {failure : Failure}
    (h : disk.access.requests dynamic file = .error failure) :
    failure.unread? = some file.text := by
  cases read : disk.readText file.text with
  | error cause =>
      cases h.symm.trans (requests_of_unreadable dynamic read)
      rfl
  | ok text =>
      cases found : Source.Parser.requests dynamic file.text text with
      | error complaint =>
          cases h.symm.trans (requests_of_malformed read found)
          rfl
      | ok specifiers => cases h.symm.trans (requests_of_wellFormed read found)

/-- A flaw of a file that says of one that stands that it could not be read, or is not well formed,
is that the requests of this very file cannot be had. -/
theorem eq_of_mem_flaws {named : Location} {failure : Failure} (stands : disk.Stands file)
    (stands' : disk.Stands named) (wrong : failure ∈ disk.flaws options file)
    (unread : failure.unread? = some named.text) :
    named = file ∧ disk.reads options named = false := by
  rw [← failures_answers] at wrong
  cases asked : (disk.access.requests options.dynamicImports file :
      Except Failure (List Specifier)) with
  | ok specifiers =>
      rw [Answers.failures_of_ok _ asked, unresolved_answers] at wrong
      obtain ⟨specifier, _, met⟩ := List.mem_filterMap.mp wrong
      rcases obstacle?_cases met with ⟨_, rfl⟩ | ⟨candidate, _, isFile, deep, rfl⟩
      · cases unread
      · have same : candidate.text = named.text := Option.some.inj unread
        rw [same] at isFile deep
        cases deep.symm.trans (stands'.canonicalize_of_isFile isFile)
  | error failure' =>
      rw [Answers.failures_of_error _ asked, List.mem_singleton] at wrong
      subst wrong
      have same : named.text = file.text :=
        Option.some.inj (unread.symm.trans (unread?_of_requests asked))
      obtain rfl := stands'.proper.eq_of_text_eq stands.proper same
      exact ⟨rfl, by simp [reads, asked, Except.isOk, Except.toBool]⟩

/-- If the requests of a file cannot be had, that is a flaw of it. -/
theorem exists_mem_flaws (h : disk.reads options file = false) :
    ∃ failure ∈ disk.flaws options file, failure.unread? = some file.text := by
  cases asked : (disk.access.requests options.dynamicImports file :
      Except Failure (List Specifier)) with
  | ok specifiers => simp [reads, asked, Except.isOk, Except.toBool] at h
  | error failure =>
      refine ⟨failure, ?_, unread?_of_requests asked⟩
      rw [← failures_answers, Answers.failures_of_error _ asked]
      exact List.mem_singleton_self failure

end Disk

namespace Options

variable [Source.Parser] {disk : Disk} {options : Options} {path : String} {outcome : Outcome}

/-- What is told by a build that succeeds of the files that it has come to. -/
structure Told (disk : Disk) (options : Options) (path : String) (outcome : Outcome) : Prop where
  /-- The files of the graph are those that can be reached from where the path leads. -/
  reached : ∃ entry, disk.canonicalize path = .ok entry ∧ ∀ file, file ∈ outcome.graph.files ↔
    Relation.ReflTransGen (disk.access.answers options).DependsOn entry file
  /-- They are those that were expanded. -/
  expanded : ∀ file, file ∈ outcome.graph.files ↔ file ∈ options.expansions disk.access path
  /-- The failures are what is wrong with these files. -/
  failures : ∀ failure, failure ∈ outcome.failures ↔
    ∃ file ∈ outcome.graph.files, failure ∈ disk.flaws options file

theorem told_of_build (h : (options.build disk.access path : Build).result = .ok outcome) :
    Told disk options path outcome := by
  obtain ⟨entry, walk, leads, steps, ended, rfl, in_order⟩ := exists_walk_of_build h
  have exact_walk := steps.exact ended
  have mem_iff := Walk.Steps.mem_files_iff steps ended
  refine ⟨⟨entry, leads, exact_walk.mem_iff⟩, fun file => ?_, fun failure => ?_⟩
  · rw [in_order, List.mem_reverse]
    exact mem_iff file
  · have noted : walk.record.failures =
        walk.entered.reverse.flatMap (disk.access.answers options).failures :=
      Walk.Steps.failures_eq steps
    change failure ∈ walk.record.failures ↔
      ∃ file ∈ walk.record.graph.files, failure ∈ disk.flaws options file
    rw [noted, List.mem_flatMap]
    refine exists_congr fun file => ?_
    rw [List.mem_reverse, mem_iff, Disk.failures_answers]

/-! ## Runs -/

variable {entries : List String}

/-- All builds of a run succeed. -/
def AllSucceed (disk : Disk) (options : Options) (entries : List String) : Prop :=
  ∀ entry ∈ entries, ∃ outcome, (options.build disk.access entry : Build).result = .ok outcome

theorem mem_files_runSeparately {file : Location} :
    file ∈ (options.runSeparately disk entries).files ↔ ∃ entry ∈ entries, ∃ outcome,
      (options.build disk.access entry : Build).result = .ok outcome ∧
        file ∈ outcome.graph.files := by
  simp only [runSeparately, Run.files, List.mem_dedup, List.mem_flatMap, List.mem_map,
    exists_exists_and_eq_and, EntryResult.outcome?]
  refine exists_congr fun entry => and_congr_right fun _ => ?_
  cases (options.build disk.access entry : Build).result with
  | error failure => simp [Except.toOption]
  | ok outcome => simp [Except.toOption]

/-- The files that are analysed in a run whose builds all succeed are those of its graphs that can
be read. -/
theorem mem_readable_iff (succeed : AllSucceed disk options entries) {file : Location} :
    file ∈ options.readable disk entries ↔
      file ∈ (options.runSeparately disk entries).files ∧ disk.reads options file = true := by
  simp only [readable, List.mem_flatMap, List.mem_filter, mem_files_runSeparately]
  constructor
  · rintro ⟨entry, given, expanded, reads⟩
    obtain ⟨outcome, built⟩ := succeed entry given
    exact ⟨⟨entry, given, outcome, built, ((told_of_build built).expanded file).mpr expanded⟩,
      reads⟩
  · rintro ⟨⟨entry, given, outcome, built, present⟩, reads⟩
    exact ⟨entry, given, ((told_of_build built).expanded file).mp present, reads⟩

/-- A file of a graph of a run stands where it is. -/
theorem stands_of_mem_files (wellFormed : disk.WellFormed) {file : Location}
    (h : file ∈ (options.runSeparately disk entries).files) : disk.Stands file := by
  obtain ⟨entry, _, outcome, built, present⟩ := mem_files_runSeparately.mp h
  obtain ⟨found, _⟩ := Disk.found_of_build built
  exact (found file present).stands wellFormed

/-- The files that could not be read or are not well formed are the other files of its graphs. -/
theorem unread_runSeparately (wellFormed : disk.WellFormed)
    (succeed : AllSucceed disk options entries) :
    (options.runSeparately disk entries).unread =
      (options.runSeparately disk entries).files.filter (!disk.reads options ·) := by
  apply List.filter_congr
  intro file present
  rw [Bool.eq_iff_iff, Bool.not_eq_true', List.any_eq_true]
  constructor
  · rintro ⟨_, listed, noted⟩
    obtain ⟨entry, given, rfl⟩ := List.mem_map.mp listed
    obtain ⟨failure, noted, unread⟩ := List.any_eq_true.mp noted
    obtain ⟨outcome, built⟩ := succeed entry given
    rw [EntryResult.failures, built] at noted
    obtain ⟨other, there, wrong⟩ := ((told_of_build built).failures failure).mp noted
    have stands := stands_of_mem_files wellFormed
      (mem_files_runSeparately.mpr ⟨entry, given, outcome, built, there⟩)
    have stands' := stands_of_mem_files wellFormed present
    exact (Disk.eq_of_mem_flaws stands stands' wrong (of_decide_eq_true unread)).2
  · intro unread
    obtain ⟨entry, given, outcome, built, there⟩ := mem_files_runSeparately.mp present
    obtain ⟨failure, wrong, named⟩ := Disk.exists_mem_flaws unread
    refine ⟨_, List.mem_map_of_mem given, List.any_eq_true.mpr ⟨failure, ?_, decide_eq_true named⟩⟩
    rw [EntryResult.failures, built]
    exact ((told_of_build built).failures failure).mpr ⟨file, there, wrong⟩

/-- If all builds of a run succeed, the files of its graphs are those that it has analysed and
those that could not be read or are not well formed. -/
theorem filesAnalyzed_add_length_unread (wellFormed : disk.WellFormed)
    (succeed : AllSucceed disk options entries) :
    (options.runSeparately disk entries).filesAnalyzed +
        (options.runSeparately disk entries).unread.length =
      (options.runSeparately disk entries).files.length := by
  have nodup : (options.runSeparately disk entries).files.Nodup := List.nodup_dedup _
  have analysed : (options.readable disk entries).dedup.Perm
      ((options.runSeparately disk entries).files.filter (disk.reads options)) := by
    refine (List.perm_ext_iff_of_nodup (List.nodup_dedup _) (nodup.filter _)).mpr fun file => ?_
    rw [List.mem_dedup, mem_readable_iff succeed, List.mem_filter]
  have counted : (options.runSeparately disk entries).filesAnalyzed =
      ((options.runSeparately disk entries).files.filter (disk.reads options)).length :=
    analysed.length_eq
  rw [counted, unread_runSeparately wellFormed succeed]
  exact (List.length_eq_length_filter_add _).symm

end Options

namespace Config

/-- If all builds of a run on a well-formed disk succeed, then the files that it has analysed and
those that could not be read or are not well formed are together as many as the graphs have, each
file counted once however many graphs it is in. If there are no failures, as many files were
analysed as the graphs have. -/
theorem ComesTo.accounts_for_files [Source.Parser] {disk : Disk} {config : Config} {run : Run}
    (wellFormed : disk.WellFormed) (comes : config.ComesTo disk run)
    (succeed : ∀ result ∈ run.entries, result.outcome.isOk = true) :
    run.filesAnalyzed + run.unread.length = run.files.length ∧
      (run.hasFailures = false → run.filesAnalyzed = run.files.length) := by
  obtain rfl := comes.eq
  have all_succeed : Options.AllSucceed disk config.options config.entries := by
    intro entry given
    have isOk := succeed _ (List.mem_map_of_mem given)
    cases built : (config.options.build disk.access entry : Build).result with
    | ok outcome => exact ⟨outcome, rfl⟩
    | error failure =>
        rw [built] at isOk
        cases isOk
  have counted := Options.filesAnalyzed_add_length_unread wellFormed all_succeed
  refine ⟨counted, fun none => ?_⟩
  rwa [Run.unread_eq_nil none, List.length_nil, Nat.add_zero] at counted

/-- A configuration that starts twice from one file, keeps going, and uses no repository. -/
def twice : Config where
  entries := ["/e.js", "e.js"]
  root := some "/"
  extensions := Extension.default
  dynamicImports := false
  keepGoing := true
  json := false

theorem ComesTo.accounts_for_files_gaps :
    ∃ run, twice.ComesTo Disk.gaps run ∧ run.filesAnalyzed = 2 ∧ run.unread.length = 1 ∧
      run.files.length = 3 := by
  obtain ⟨said, ran⟩ := exists_run_eq Disk.gaps twice
  have accepted : twice.refusal? Disk.gaps = none := by decide +kernel
  rw [accepted] at ran
  have comes := ComesTo.inTurn ran
  obtain ⟨succeed, analysed, files⟩ :
      (∀ result ∈ (twice.options.runSeparately Disk.gaps twice.entries).entries,
        result.outcome.isOk = true) ∧
      (twice.options.runSeparately Disk.gaps twice.entries).filesAnalyzed = 2 ∧
      (twice.options.runSeparately Disk.gaps twice.entries).files.length = 3 := by
    decide +kernel
  obtain ⟨counted, _⟩ := comes.accounts_for_files (by decide +kernel) succeed
  refine ⟨_, comes, analysed, ?_, files⟩
  omega

/-- A configuration that starts from one file and keeps going. -/
def keepingGoing : Config :=
  { twice with entries := ["/e.js"] }

/-- A failure can name a file that is too deep, which is no file of any graph. -/
theorem ComesTo.accounts_for_files_too_deep :
    ∃ run, keepingGoing.ComesTo Disk.shaft run ∧
      (∀ result ∈ run.entries, result.outcome.isOk = true) ∧
      ¬ run.filesAnalyzed + (run.entries.flatMap fun result =>
        result.failures.filterMap Failure.unread?).dedup.length = run.files.length := by
  obtain ⟨run, comes, results, counted⟩ : ∃ run, keepingGoing.ComesTo Disk.shaft run ∧
      run.entries = [⟨"/e.js", .ok Options.shaftOutcome⟩] ∧
      run.filesAnalyzed + run.unread.length = run.files.length := by
    obtain ⟨said, ran⟩ := exists_run_eq Disk.shaft keepingGoing
    have accepted : keepingGoing.refusal? Disk.shaft = none := by decide +kernel
    rw [accepted] at ran
    have succeed : Options.AllSucceed Disk.shaft keepingGoing.options keepingGoing.entries := by
      intro entry given
      obtain rfl := List.mem_singleton.mp given
      exact ⟨_, Options.build_shaft⟩
    exact ⟨_, .inTurn ran, congrArg (fun result => [EntryResult.mk "/e.js" result])
      Options.build_shaft, Options.filesAnalyzed_add_length_unread Disk.shaft_wellFormed succeed⟩
  have files : run.files = [⟨["e.js"]⟩, ⟨["m.js"]⟩] := by
    rw [Run.files, results]
    decide +kernel
  have unread : run.unread = [] := by
    rw [Run.unread, files, results]
    decide +kernel
  have named : (run.entries.flatMap fun result =>
      result.failures.filterMap Failure.unread?).dedup = ["/l/l/x.js"] := by
    rw [results]
    decide +kernel
  refine ⟨run, comes, ?_, ?_⟩
  · rw [results]
    decide
  · rw [named]
    rw [unread] at counted
    simp only [List.length_nil, List.length_singleton] at counted ⊢
    omega

end Config

end ModuleGraph
