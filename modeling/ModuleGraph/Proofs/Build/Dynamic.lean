import Mathlib.Data.List.Flatten
import Mathlib.Data.List.Perm.Subperm
import ModuleGraph.Proofs.Build.Intact
import ModuleGraph.Proofs.Source.Requests

/-!
# Following calls of `import` only adds

With calls of `import` a file asks for all that it asks for without them. The two builds still take
different ways: a call may lead to a file early that is otherwise come to late, and a cycle may be
noted at another of its edges. So they are not compared step by step. What is compared is what can
be reached, what is wrong with it, and whether a cycle can be reached, none of which depends on the
way (`Options.build_within`).

`Answers.Within` says all that is needed of the answers: every file depends on less, in the same
order, and less is wrong with it. `Options.build_following` is the case of calls of `import`.
-/

namespace ModuleGraph

/-- A disk on which a call of `import` is the shorter way into a ring of two files. -/
def Disk.shortcut : Disk where
  entries :=
    [(⟨["e.js"]⟩, .file (.text "import('./b'); require('./a');")),
      (⟨["a.js"]⟩, .file (.text "require('./b'); require('./gone');")),
      (⟨["b.js"]⟩, .file (.text "import('./lost'); require('./a');"))]
  workingDirectory := some .root

/-- What is found on that disk by a build that follows calls of `import`. -/
def Disk.shortcutOutcome : Outcome where
  graph := ⟨[(⟨["e.js"]⟩, [⟨["b.js"]⟩, ⟨["a.js"]⟩]), (⟨["b.js"]⟩, [⟨["a.js"]⟩]),
    (⟨["a.js"]⟩, [⟨["b.js"]⟩])]⟩
  cycles := [⟨[⟨["b.js"]⟩, ⟨["a.js"]⟩, ⟨["b.js"]⟩]⟩]
  failures := [.unresolved "./lost" "/b.js" [⟨["lost.js"]⟩],
    .unresolved "./gone" "/a.js" [⟨["gone.js"]⟩]]

/-- What is found there by one that does not: the files in another order, and the ring from its
other end. -/
def Disk.detourOutcome : Outcome where
  graph := ⟨[(⟨["e.js"]⟩, [⟨["a.js"]⟩]), (⟨["a.js"]⟩, [⟨["b.js"]⟩]),
    (⟨["b.js"]⟩, [⟨["a.js"]⟩])]⟩
  cycles := [⟨[⟨["a.js"]⟩, ⟨["b.js"]⟩, ⟨["a.js"]⟩]⟩]
  failures := [.unresolved "./gone" "/a.js" [⟨["gone.js"]⟩]]

/-- Answers by which every file depends on less, in the same order, and less is wrong with it. -/
structure Answers.Within (fewer more : Answers Id) : Prop where
  targets : ∀ file, (fewer.targets file).Sublist (more.targets file)
  failures : ∀ file, (fewer.failures file).Sublist (more.failures file)

/-- An outcome of which all is found again in another one. -/
structure Outcome.Within (fewer more : Outcome) : Prop where
  files : fewer.graph.files ⊆ more.graph.files
  /-- What a file depends on comes in the same order. -/
  dependencies : ∀ file targets, fewer.graph.dependencies? file = some targets →
    ∃ others, more.graph.dependencies? file = some others ∧ targets.Sublist others
  /-- Each failure is on record at least as often. -/
  failures : fewer.failures.Subperm more.failures
  /-- There is no cycle if there is none there. -/
  acyclic : more.cycles = [] → fewer.cycles = []

/-! ## What can be reached -/

namespace Answers.Within

variable {fewer more : Answers Id}

theorem dependsOn (within : fewer.Within more) {source target : Location}
    (h : fewer.DependsOn source target) : more.DependsOn source target :=
  (within.targets source).subset h

theorem reached (within : fewer.Within more) {source target : Location}
    (h : Relation.ReflTransGen fewer.DependsOn source target) :
    Relation.ReflTransGen more.DependsOn source target :=
  Relation.ReflTransGen.mono (fun _ _ => within.dependsOn) _ _ h

end Answers.Within

/-- If less is wrong with each of fewer files, then less is wrong with them together. -/
theorem subperm_flatMap {files others : List Location} {less more : Location → List Failure}
    (nodup : files.Nodup) (fewer : files ⊆ others)
    (sublist : ∀ file, (less file).Sublist (more file)) :
    (files.flatMap less).Subperm (others.flatMap more) := by
  obtain ⟨chosen, perm, chosen_sublist⟩ := List.subperm_of_subset nodup fewer
  refine ⟨chosen.flatMap less, List.Perm.flatMap_right less perm, ?_⟩
  have less_sublist : (chosen.flatMap less).Sublist (chosen.flatMap more) :=
    List.Sublist.flatMap_right chosen fun file _ => sublist file
  exact less_sublist.trans (chosen_sublist.flatMap more)

namespace Options

theorem under_eq {options : Options} {policy : Policy} (h : options.policy = policy) :
    options.under policy = options := by
  subst h
  rfl

variable [Source.Parser] {disk : Disk} {options fewer : Options} {path : String} {outcome : Outcome}

/-- A path is intact if it is with more requests. -/
theorem intact_of_within (within : (disk.access.answers fewer).Within (disk.access.answers options))
    (intact : disk.Intact options path) : disk.Intact fewer path := by
  obtain ⟨entry, leads, expandable⟩ := intact
  refine ⟨entry, leads, fun file reached => ?_⟩
  have sublist := within.failures file
  rw [Disk.failures_answers, Disk.failures_answers,
    Disk.flaws_eq_nil_iff.mpr (expandable file (within.reached reached))] at sublist
  exact Disk.flaws_eq_nil_iff.mp (List.sublist_nil.mp sublist)

theorem acyclic_of_within
    (within : (disk.access.answers fewer).Within (disk.access.answers options))
    (acyclic : disk.Acyclic options path) : disk.Acyclic fewer path := by
  intro entry leads file reached cycle
  exact acyclic entry leads file (within.reached reached)
    (Relation.TransGen.mono (fun _ _ => within.dependsOn) _ _ cycle)

/-- A build that gives up at failures succeeds only from an intact path. -/
theorem intact_of_build (giving_up : options.policy = .abort)
    (h : (options.build disk.access path : Build).result = .ok outcome) :
    disk.Intact options path := by
  obtain ⟨entry, walk, leads, steps, _, rfl, _⟩ := exists_walk_of_build h
  have flawless : (disk.access.answers options).failures entry = [] := by
    rw [Disk.failures_answers]
    exact flawless_of_build leads h
  rw [decide_eq_true giving_up] at steps
  exact (failures_eq_nil_iff h).mp (steps.failures_eq_nil flawless)

/-- A build with fewer requests succeeds if one with more does. -/
theorem exists_build_of_within
    (within : (disk.access.answers fewer).Within (disk.access.answers options))
    (same : fewer.policy = options.policy)
    (h : (options.build disk.access path : Build).result = .ok outcome) :
    ∃ less, (fewer.build disk.access path : Build).result = .ok less := by
  cases policy : options.policy with
  | abort =>
      have intact := intact_of_within within (intact_of_build policy h)
      obtain ⟨less, built, _⟩ := exists_build_of_intact intact .abort
      rw [under_eq (same.trans policy)] at built
      exact ⟨less, built⟩
  | record =>
      cases built : (fewer.build disk.access path : Build).result with
      | ok less => exact ⟨less, rfl⟩
      | error failure =>
          rw [← under_eq (same.trans policy)] at built
          obtain ⟨failure', refuses⟩ := build_record_error_iff.mp ⟨failure, built⟩
          obtain ⟨entry, _, leads, _⟩ := exists_walk_of_build h
          cases refuses with
          | astray astray => cases leads.symm.trans astray
          | flawed leads' wrong =>
              cases leads.symm.trans leads'
              rw [← Disk.failures_answers] at wrong
              have wrong_too := (within.failures entry).subset wrong
              rw [Disk.failures_answers, flawless_of_build leads h] at wrong_too
              cases wrong_too

/-- All that a build with fewer requests finds is found with more requests. -/
theorem outcome_within
    (within : (disk.access.answers fewer).Within (disk.access.answers options)) {less : Outcome}
    (h : (options.build disk.access path : Build).result = .ok outcome)
    (h' : (fewer.build disk.access path : Build).result = .ok less) : less.Within outcome := by
  have acyclic : outcome.cycles = [] → less.cycles = [] := fun none =>
    (cycles_eq_nil_iff h').mpr (acyclic_of_within within ((cycles_eq_nil_iff h).mp none))
  obtain ⟨entry, walk, leads, steps, ended, rfl, _⟩ := exists_walk_of_build h
  obtain ⟨entry', walk', leads', steps', ended', rfl, _⟩ := exists_walk_of_build h'
  cases leads.symm.trans leads'
  have exact_walk := steps.exact ended
  have exact_walk' := steps'.exact ended'
  have files : walk'.record.graph.files ⊆ walk.record.graph.files := by
    intro file present
    exact (exact_walk.mem_iff file).mpr (within.reached ((exact_walk'.mem_iff file).mp present))
  refine ⟨files, ?_, ?_, acyclic⟩
  · intro file targets known
    have present : file ∈ walk'.record.graph.files :=
      Graph.dependencies?_isSome_iff.mp (Option.isSome_of_eq_some known)
    cases known.symm.trans (exact_walk'.dependencies file present)
    exact ⟨_, exact_walk.dependencies file (files present), within.targets file⟩
  -- The files are entered in another order, but what is on record of each does not depend on that.
  · have entered : walk'.entered ⊆ walk.entered := by
      intro file there
      rw [← Walk.Steps.mem_files_iff steps' ended'] at there
      exact (Walk.Steps.mem_files_iff steps ended file).mp (files there)
    rw [Record.outcome, Record.outcome, steps'.failures_eq, steps.failures_eq]
    exact subperm_flatMap (List.nodup_reverse.mpr steps'.entered.nodup)
      (List.reverse_subset.mpr (List.subset_reverse.mpr entered)) within.failures

/-- If fewer requests are made then a build still succeeds, and all that it finds was found
before. -/
theorem build_within (within : (disk.access.answers fewer).Within (disk.access.answers options))
    (same : fewer.policy = options.policy)
    (h : (options.build disk.access path : Build).result = .ok outcome) :
    ∃ less, (fewer.build disk.access path : Build).result = .ok less ∧ less.Within outcome := by
  obtain ⟨less, built⟩ := exists_build_of_within within same h
  exact ⟨less, built, outcome_within within h built⟩

end Options

/-! ## Calls of `import` -/

/-- If only some of the same requests are made, and they lead where they led, then every file
depends on less. -/
theorem Answers.within_of_filter {fewer more : Answers Id} (wanted : Specifier → Bool)
    (imports : ∀ file, (fewer.imports file : Except Failure (List Specifier)) =
      (more.imports file : Except Failure (List Specifier)).map (List.filter wanted))
    (target : fewer.target = more.target) : fewer.Within more := by
  have filtered {file : Location} {answer : Except Failure (List Specifier)}
      (asked : more.imports file = answer) :
      fewer.imports file = answer.map (List.filter wanted) :=
    (imports file).trans (congrArg _ asked)
  constructor
  · intro file
    cases asked : (more.imports file : Except Failure (List Specifier)) with
    | error failure =>
        rw [targets_of_error fewer (filtered asked)]
        exact List.nil_sublist _
    | ok specifiers =>
        rw [targets_of_ok fewer (filtered asked), targets_of_ok more asked, resolved, resolved,
          target]
        exact List.filter_sublist.filterMap _
  · intro file
    cases asked : (more.imports file : Except Failure (List Specifier)) with
    | error failure =>
        rw [failures_of_error fewer (filtered asked), failures_of_error more asked]
    | ok specifiers =>
        rw [failures_of_ok fewer (filtered asked), failures_of_ok more asked, unresolved,
          unresolved, target]
        exact List.filter_sublist.filterMap _

/-- What is read of a file without calls of `import` is what is read of it with them, less
these. -/
theorem Disk.requests_false [Source.Parser] (disk : Disk) (file : Location) :
    (disk.access.requests false file : Except Failure (List Specifier)) =
      (disk.access.requests true file : Except Failure (List Specifier)).map
        (List.filter Specifier.isEager) := by
  cases read : disk.readText file.text with
  | error cause =>
      rw [requests_of_unreadable false read, requests_of_unreadable true read]
      rfl
  | ok text =>
      have found' := Source.Parser.requests_false file.text text
      cases found : Source.Parser.requests true file.text text with
      | error complaint =>
          rw [found] at found'
          rw [requests_of_malformed read found', requests_of_malformed read found]
          rfl
      | ok specifiers =>
          rw [found] at found'
          rw [requests_of_wellFormed read found', requests_of_wellFormed read found]
          rfl

namespace Options

/-- The same options with calls of `import` followed or not. -/
def following (options : Options) (dynamic : Bool) : Options :=
  { options with dynamicImports := dynamic }

/-- Without calls of `import` every file depends on less. -/
theorem within_following [Source.Parser] (disk : Disk) (options : Options) :
    (disk.access.answers (options.following false)).Within
      (disk.access.answers (options.following true)) :=
  Answers.within_of_filter Specifier.isEager disk.requests_false rfl

/-- If a build that follows calls of `import` succeeds then so does one that does not. All that
this one finds is found by the other: its files, what they depend on, in the same order, and its
failures, as often as they are noted. It finds no cycle if the other finds none. -/
theorem build_following [Source.Parser] {disk : Disk} {options : Options} {path : String}
    {outcome : Outcome}
    (h : ((options.following true).build disk.access path : Build).result = .ok outcome) :
    ∃ fewer, ((options.following false).build disk.access path : Build).result = .ok fewer ∧
      fewer.Within outcome :=
  build_within (within_following disk options) rfl h

theorem build_following_shortcut :
    (((standard.under .record).following true).build Disk.shortcut.access "/e.js" :
        Build).result = .ok Disk.shortcutOutcome ∧
      (((standard.under .record).following false).build Disk.shortcut.access "/e.js" :
        Build).result = .ok Disk.detourOutcome ∧
      Disk.detourOutcome.Within Disk.shortcutOutcome := by
  have built : (((standard.under .record).following true).build Disk.shortcut.access "/e.js" :
      Build).result = .ok Disk.shortcutOutcome := by decide +kernel
  have built' : (((standard.under .record).following false).build Disk.shortcut.access "/e.js" :
      Build).result = .ok Disk.detourOutcome := by decide +kernel
  obtain ⟨fewer, found, within⟩ := build_following built
  cases found.symm.trans built'
  exact ⟨built, built', within⟩

end Options

end ModuleGraph
