import ModuleGraph.Proofs.Build.Graphs
import ModuleGraph.Proofs.Disk.Depth
import ModuleGraph.Proofs.Disk.Flaws
import ModuleGraph.Proofs.Walk.Failures
import ModuleGraph.Proofs.Walk.Preorder

/-!
# What becomes of failures

A build may give up at the first failure or note failures and go on. `Options.build_policies_agree`
says how the two are related: they come to the same if nothing is wrong with any file, both give up
if the failure is one of the entry itself, and otherwise the one gives up with the first failure
that the other notes.

`Options.build_record_complete` says that a build which notes failures loses nothing. What it notes
is what is wrong with the files that it expanded, file by file in preorder, and every request is
either a dependency in the graph or a failure on record.
-/

namespace ModuleGraph

/-- A disk with two files that cannot be expanded in full: one asks for a file that is not there,
the text of the other is not well formed. -/
def Disk.gaps : Disk where
  entries :=
    [(⟨["e.js"]⟩, .file (.text "require('./a'); require('./b');")),
      (⟨["a.js"]⟩, .file (.text "require('./gone'); require('./e');")),
      (⟨["b.js"]⟩, .file (.text "let = ;"))]
  workingDirectory := some .root

/-- What a build that notes failures finds on that disk. -/
def Disk.gapsOutcome : Outcome where
  graph := ⟨[(⟨["e.js"]⟩, [⟨["a.js"]⟩, ⟨["b.js"]⟩]), (⟨["a.js"]⟩, [⟨["e.js"]⟩]), (⟨["b.js"]⟩, [])]⟩
  cycles := [⟨[⟨["e.js"]⟩, ⟨["a.js"]⟩, ⟨["e.js"]⟩]⟩]
  failures := [.unresolved "./gone" "/a.js" [⟨["gone.js"]⟩], .malformed "/b.js" "SYNTAX"]

namespace Options

/-- The same options with failures dealt with in a given way. -/
def under (options : Options) (policy : Policy) : Options :=
  { options with policy }

/-! ## Giving up and going on -/

section

variable [Source.Parser] {disk : Disk} {options : Options} {path : String}

/-- How what becomes of a build that gives up at failures can be related to what becomes of one
that notes them. -/
inductive Agreement where
  /-- There are no failures. -/
  | full
  /-- The entry itself fails. -/
  | refused
  /-- Something else fails. -/
  | cut

/-- What each of these relations says about a path. -/
def Agreement.Holds (disk : Disk) (options : Options) (path : String)
    (aborted recorded : Except Failure Outcome) : Agreement → Prop
  | full => ∃ outcome, aborted = .ok outcome ∧ recorded = .ok outcome ∧ outcome.failures = []
  | refused => ∃ failure, aborted = .error failure ∧ recorded = .error failure ∧
      disk.Refuses options path failure
  | cut => ∃ failure outcome, aborted = .error failure ∧ recorded = .ok outcome ∧
      outcome.failures.head? = some failure

/-- Which relation it can be is seen from who succeeds. -/
def Agreement.ofResults : Except Failure Outcome → Except Failure Outcome → Option Agreement
  | .ok _, .ok _ => some .full
  | .error _, .error _ => some .refused
  | .error _, .ok _ => some .cut
  | .ok _, .error _ => none

theorem Agreement.Holds.ofResults_eq {aborted recorded : Except Failure Outcome}
    {agreement : Agreement} (h : agreement.Holds disk options path aborted recorded) :
    Agreement.ofResults aborted recorded = some agreement := by
  cases agreement with
  | full =>
      obtain ⟨outcome, rfl, rfl, _⟩ := h
      rfl
  | refused =>
      obtain ⟨failure, rfl, rfl, _⟩ := h
      rfl
  | cut =>
      obtain ⟨failure, outcome, rfl, rfl, _⟩ := h
      rfl

/-- What becomes of a build is what becomes of the walk from where its path leads. -/
theorem result_of_whole {policy : Policy} {entry : Location} {walked : Except Abandoned Walk}
    (leads : disk.canonicalize path = .ok entry)
    (h : Walk.whole (disk.access.answers options) policy disk.access.size.run entry = walked) :
    ((options.under policy).build disk.access path : Build).result =
      (Build.ofWalk walked).result := by
  rw [build_of_ok disk.access leads, ← h]
  rfl

/-- The failures of the first file of a walk are those for which its path is refused. -/
theorem refuses_of_failures {entry : Location} {failure : Failure} {others : List Failure}
    (leads : disk.canonicalize path = .ok entry)
    (listed : (disk.access.answers options).failures entry = failure :: others) :
    disk.Refuses options path failure := by
  apply Disk.Refuses.flawed leads
  rw [← Disk.failures_answers, listed]
  exact List.mem_cons_self

/-- One of the relations holds. -/
theorem exists_agreement (disk : Disk) (options : Options) (path : String) :
    ∃ agreement : Agreement, agreement.Holds disk options path
      ((options.under .abort).build disk.access path : Build).result
      ((options.under .record).build disk.access path : Build).result := by
  cases leads : disk.canonicalize path with
  | error cause =>
      rw [build_of_error disk.access leads, build_of_error disk.access leads]
      exact ⟨.refused, _, rfl, rfl, .astray leads⟩
  | ok entry =>
      have bounded (file : Location) : ∀ target ∈ (disk.access.answers options).targets file,
          target ∈ disk.entries.map (·.1) := Disk.mem_entries_of_mem_targets file
      rcases Walk.whole_policies bounded disk.length_entries_le_size entry with
        ⟨walk, aborts, records, none⟩ | ⟨failure, others, listed, aborts, records⟩ |
        ⟨abandoned, walk, others, aborts, records, noted⟩
      · exact ⟨.full, walk.record.outcome, result_of_whole leads aborts,
          result_of_whole leads records, none⟩
      · exact ⟨.refused, failure, result_of_whole leads aborts, result_of_whole leads records,
          refuses_of_failures leads listed⟩
      · exact ⟨.cut, abandoned.failure, walk.record.outcome, result_of_whole leads aborts,
          result_of_whole leads records, congrArg List.head? noted⟩

/-- A build that gives up at failures and one that notes them are related in exactly one way: they
come to the same and there are no failures, or both fail alike because of the entry, or the one
fails with the first failure that the other has on record. In particular, a build that gives up at
failures has none on record when it succeeds. -/
theorem build_policies_agree (disk : Disk) (options : Options) (path : String) :
    (∃! agreement : Agreement, agreement.Holds disk options path
      ((options.under .abort).build disk.access path : Build).result
      ((options.under .record).build disk.access path : Build).result) ∧
    ∀ outcome, ((options.under .abort).build disk.access path : Build).result = .ok outcome →
      outcome.failures = [] := by
  obtain ⟨agreement, holds⟩ := exists_agreement disk options path
  refine ⟨⟨agreement, holds, ?_⟩, ?_⟩
  · intro other holds'
    exact Option.some.inj (holds'.ofResults_eq.symm.trans holds.ofResults_eq)
  intro outcome succeeds
  cases agreement with
  | full =>
      obtain ⟨outcome', succeeds', _, none⟩ := holds
      cases succeeds.symm.trans succeeds'
      exact none
  | refused =>
      obtain ⟨_, fails, _⟩ := holds
      cases succeeds.symm.trans fails
  | cut =>
      obtain ⟨_, _, fails, _⟩ := holds
      cases succeeds.symm.trans fails

end

theorem build_gaps :
    ((standard.under .record).build Disk.gaps.access "/e.js" : Build).result =
      .ok Disk.gapsOutcome := by
  decide +kernel

theorem build_policies_agree_gaps :
    ((standard.under .record).build Disk.gaps.access "/e.js" : Build).result =
        .ok Disk.gapsOutcome ∧
      ((standard.under .abort).build Disk.gaps.access "/e.js" : Build).result =
        .error (.unresolved "./gone" "/a.js" [⟨["gone.js"]⟩]) := by
  obtain ⟨⟨agreement, holds, _⟩, _⟩ := build_policies_agree Disk.gaps standard "/e.js"
  refine ⟨build_gaps, ?_⟩
  rw [build_gaps] at holds
  cases agreement with
  | full =>
      obtain ⟨outcome, _, same, none⟩ := holds
      cases same
      cases none
  | refused =>
      obtain ⟨_, _, fails, _⟩ := holds
      cases fails
  | cut =>
      obtain ⟨failure, outcome, aborts, same, first⟩ := holds
      cases same
      cases first
      exact aborts

end Options

/-! ## What is noted -/

/-- Whether a failure is that a request is unresolved. -/
def Failure.isUnresolved (failure : Failure) : Bool :=
  failure.kind = "UnresolvedModuleError"

/-- The failures on record that are about requests in a file, as its path tells. -/
def Outcome.unresolvedIn (outcome : Outcome) (file : Location) : List Failure :=
  outcome.failures.filter fun failure => failure.isUnresolved && failure.file = file.text

/-- Nothing is lost in the outcome of a build from an entry that has come to some other files. -/
structure Outcome.Complete [Source.Parser] (disk : Disk) (options : Options) (entry : Location)
    (others : List Location) (outcome : Outcome) : Prop where
  /-- All these files were expanded depth first, each once. -/
  preorder : (disk.access.answers options).Preorder [] [entry] (entry :: others)
  nodup : (entry :: others).Nodup
  mem_iff : ∀ file, file ∈ outcome.graph.files ↔ file ∈ entry :: others
  /-- Nothing is wrong with the entry. -/
  flawless : disk.flaws options entry = []
  /-- All that is wrong with the others is on record, in their order, and nothing else. -/
  failures : outcome.failures = others.flatMap (disk.flaws options)
  /-- A file whose requests are not known depends on nothing. -/
  edgeless : ∀ file ∈ outcome.graph.files, ∀ failure,
    disk.access.requests options.dynamicImports file = .error failure →
      disk.flaws options file = [failure] ∧ outcome.graph.dependencies? file = some []
  /-- Any request is a dependency in the graph or a failure on record. Those that are unresolved
  can be told by the path of the file. -/
  accounted : ∀ file ∈ outcome.graph.files, ∀ specifiers,
    disk.access.requests options.dynamicImports file = .ok specifiers →
      ∃ targets, outcome.graph.dependencies? file = some targets ∧
        targets.length + (disk.flaws options file).length = specifiers.length ∧
        (file.Proper →
          outcome.unresolvedIn file = (disk.flaws options file).filter Failure.isUnresolved)
  proper : ∀ file ∈ others, file.Proper

/-- Of a list without repetitions, one element at most is chosen. -/
theorem flatMap_ite_eq {files : List Location} (nodup : files.Nodup) (file : Location)
    (failures : List Failure) :
    (files.flatMap fun other => if other = file then failures else []) =
      if file ∈ files then failures else [] := by
  induction files with
  | nil => rfl
  | cons first rest ih =>
      obtain ⟨absent, nodup⟩ := List.nodup_cons.mp nodup
      rw [List.flatMap_cons, ih nodup]
      by_cases same : first = file
      · subst same
        simp [absent]
      · simp [same, Ne.symm same]

namespace Disk

variable [Source.Parser] {disk : Disk} {options : Options} {file : Location}

/-- Unresolved requests of some proper files can be told apart by the file. -/
theorem unresolvedIn_eq {outcome : Outcome} {others : List Location}
    (noted : outcome.failures = others.flatMap (disk.flaws options)) (nodup : others.Nodup)
    (proper : ∀ other ∈ others, other.Proper) (file_proper : file.Proper) :
    outcome.unresolvedIn file =
      if file ∈ others then (disk.flaws options file).filter Failure.isUnresolved else [] := by
  rw [Outcome.unresolvedIn, noted, List.filter_flatMap, ← flatMap_ite_eq nodup]
  apply List.flatMap_congr
  intro other present
  have named (failure : Failure) (wrong : failure ∈ disk.flaws options other)
      (unresolved : failure.isUnresolved = true) : failure.file = other.text :=
    file_of_mem_flaws wrong (of_decide_eq_true unresolved)
  split
  · next same =>
    subst same
    apply List.filter_congr
    intro failure wrong
    cases unresolved : failure.isUnresolved with
    | false => rfl
    | true => simp [named failure wrong unresolved]
  · next different =>
    apply List.filter_eq_nil_iff.mpr
    intro failure wrong
    have apart : other.text ≠ file.text :=
      fun same => different ((proper other present).eq_of_text_eq file_proper same)
    cases unresolved : failure.isUnresolved with
    | false => simp
    | true => simp [named failure wrong unresolved, apart]

/-- What the disk says that a file depends on is a proper location. -/
theorem proper_of_dependsOn {target : Location}
    (h : (disk.access.answers options).DependsOn file target) : target.Proper := by
  obtain ⟨request, led⟩ := Answers.exists_target_of_mem_targets _ h
  exact proper_of_resolve led

/-- So is any file that can be reached from another one. -/
theorem proper_of_reached {entry : Location}
    (h : Relation.ReflTransGen (disk.access.answers options).DependsOn entry file)
    (other : file ≠ entry) : file.Proper := by
  rcases h.cases_tail with rfl | ⟨source, _, depends⟩
  · exact absurd rfl other
  · exact proper_of_dependsOn depends

end Disk

namespace Options

section

variable [Source.Parser] {disk : Disk} {options : Options} {path : String} {outcome : Outcome}

/-- A build that notes failures fails exactly if its path is refused. -/
theorem build_record_error_iff :
    (∃ failure, ((options.under .record).build disk.access path : Build).result = .error failure) ↔
      ∃ failure, disk.Refuses options path failure := by
  cases leads : disk.canonicalize path with
  | error cause =>
      rw [build_of_error disk.access leads]
      exact iff_of_true ⟨_, rfl⟩ ⟨_, .astray leads⟩
  | ok entry =>
      have bounded (file : Location) : ∀ target ∈ (disk.access.answers options).targets file,
          target ∈ disk.entries.map (·.1) := Disk.mem_entries_of_mem_targets file
      rcases Walk.whole_record bounded disk.length_entries_le_size entry with
        ⟨failure, others, listed, fails⟩ | ⟨none, walk, succeeds, _⟩
      · rw [result_of_whole leads fails]
        exact iff_of_true ⟨failure, rfl⟩ ⟨failure, refuses_of_failures leads listed⟩
      · rw [result_of_whole leads succeeds]
        refine iff_of_false ?_ ?_
        · rintro ⟨failure, fails⟩
          cases fails
        · rintro ⟨failure, refuses⟩
          cases refuses with
          | astray astray => cases leads.symm.trans astray
          | flawed leads' wrong =>
              cases leads.symm.trans leads'
              rw [← Disk.failures_answers, none] at wrong
              cases wrong

/-- Nothing is wrong with the entry of a build that succeeds. -/
theorem flawless_of_build {entry : Location} (leads : disk.canonicalize path = .ok entry)
    (h : (options.build disk.access path : Build).result = .ok outcome) :
    disk.flaws options entry = [] := by
  obtain ⟨entry', walk, leads', walked, _⟩ := exists_whole_of_build h
  cases leads.symm.trans leads'
  obtain ⟨flawless, _⟩ := Walk.whole_ok Disk.mem_entries_of_mem_targets
    disk.length_entries_le_size walked
  rwa [Disk.failures_answers] at flawless

/-- The outcome of a build that notes failures is complete with the files that were expanded after
the first. -/
theorem complete_of_build {entry : Location} (leads : disk.canonicalize path = .ok entry)
    (h : ((options.under .record).build disk.access path : Build).result = .ok outcome) :
    ∃ others, (options.under .record).expansions disk.access path = entry :: others ∧
      outcome.Complete disk options entry others := by
  have flawless : disk.flaws options entry = [] := by
    change disk.flaws (options.under .record) entry = []
    exact flawless_of_build leads h
  obtain ⟨entry', walk, leads', steps, ended, rfl, in_order⟩ := exists_walk_of_build h
  cases leads.symm.trans leads'
  change Walk.Steps (disk.access.answers options) _ _ walk at steps
  have exact_walk := steps.exact ended
  have preorder := steps.preorder ended
  have nodup := List.nodup_reverse.mpr steps.entered.nodup
  have noted := steps.failures_eq
  have mem_iff (file : Location) : file ∈ walk.record.graph.files ↔
      file ∈ walk.entered.reverse := by
    rw [List.mem_reverse]
    exact steps.mem_files_iff ended file
  obtain ⟨later, is_entered⟩ := Walk.Steps.entered_suffix steps
  have entered_eq : walk.entered.reverse = entry :: later.reverse := by
    rw [← is_entered, List.reverse_append]
    rfl
  rw [entered_eq] at preorder nodup noted in_order
  simp only [entered_eq] at mem_iff
  obtain ⟨absent, nodup_others⟩ := List.nodup_cons.mp nodup
  have noted_others : walk.record.failures = later.reverse.flatMap (disk.flaws options) := by
    rw [noted, List.flatMap_cons, Disk.failures_answers, flawless, List.nil_append]
    exact List.flatMap_congr fun file _ => Disk.failures_answers
  have others_proper : ∀ file ∈ later.reverse, file.Proper := by
    intro file present
    refine Disk.proper_of_reached ((exact_walk.mem_iff file).mp
      ((mem_iff file).mpr (List.mem_cons_of_mem entry present))) ?_
    rintro rfl
    exact absent present
  refine ⟨later.reverse, in_order, ?_⟩
  exact
    { preorder := preorder
      nodup := nodup
      mem_iff := mem_iff
      flawless := flawless
      failures := noted_others
      edgeless := by
        intro file present failure read
        refine ⟨?_, ?_⟩
        · rw [← Disk.failures_answers, Answers.failures_of_error _ read]
        · exact (exact_walk.dependencies file present).trans
            (congrArg some (Answers.targets_of_error _ read))
      accounted := by
        intro file present specifiers read
        refine ⟨_, exact_walk.dependencies file present,
          Disk.length_targets_add_length_flaws read, fun proper => ?_⟩
        rw [Disk.unresolvedIn_eq noted_others nodup_others others_proper proper]
        split
        · rfl
        · next absent =>
          have is_entry := (List.mem_cons.mp ((mem_iff file).mp present)).resolve_right absent
          rw [is_entry, flawless]
          rfl
      proper := others_proper }

/-- Nothing is lost by a build that notes failures. It fails exactly if its path is refused. If it
succeeds, its outcome is complete with the files that it has expanded. These are proper locations,
the entry too unless its path starts from a working directory that is not one. -/
theorem build_record_complete (disk : Disk) (options : Options) (path : String) :
    ((∃ failure, ((options.under .record).build disk.access path : Build).result =
        .error failure) ↔
      ∃ failure, disk.Refuses options path failure) ∧
    ∀ outcome, ((options.under .record).build disk.access path : Build).result = .ok outcome →
      ∃ entry others, disk.canonicalize path = .ok entry ∧
        ((∀ directory ∈ disk.workingDirectory, directory.Proper) → entry.Proper) ∧
        (options.under .record).expansions disk.access path = entry :: others ∧
        outcome.Complete disk options entry others := by
  refine ⟨build_record_error_iff, ?_⟩
  intro outcome succeeds
  obtain ⟨entry, _, leads, _⟩ := exists_walk_of_build succeeds
  obtain ⟨others, in_order, complete⟩ := complete_of_build leads succeeds
  exact ⟨entry, others, leads, fun proper => Disk.canonicalize_proper (Or.inr proper) leads,
    in_order, complete⟩

end

/-- What a build that notes failures finds on a disk with a file that is too deep. -/
def shaftOutcome : Outcome where
  graph := ⟨[(⟨["e.js"]⟩, [⟨["m.js"]⟩]), (⟨["m.js"]⟩, [])]⟩
  cycles := []
  failures := [.unreadable "/l/l/x.js" .nameTooLong]

theorem build_shaft : ((standard.under .record).build Disk.shaft.access "/e.js" : Build).result =
    .ok shaftOutcome := by
  have leads : Disk.shaft.canonicalize "/e.js" = .ok ⟨["e.js"]⟩ := by decide +kernel
  -- What the deep file is asked for is put in place, since looking it up takes too long.
  have target : (Disk.shaft.access.answers standard).target = fun file specifier =>
      if specifier = "/l/l/x" then .error (.unreadable "/l/l/x.js" .nameTooLong)
      else (Disk.shaft.access.answers standard).target file specifier := by
    funext file specifier
    split
    · next same =>
      subst same
      exact Disk.resolve_shaft rfl
    · rfl
  have answers : Disk.shaft.access.answers standard =
      ⟨(Disk.shaft.access.answers standard).imports, fun file specifier =>
        if specifier = "/l/l/x" then .error (.unreadable "/l/l/x.js" .nameTooLong)
        else (Disk.shaft.access.answers standard).target file specifier⟩ :=
    congrArg (Answers.mk _) target
  rw [result_of_whole leads rfl, answers]
  decide +kernel

theorem build_record_complete_gaps :
    ((standard.under .record).build Disk.gaps.access "/e.js" : Build).result =
        .ok Disk.gapsOutcome ∧
      ∃ entry others, (standard.under .record).expansions Disk.gaps.access "/e.js" =
          entry :: others ∧
        others.flatMap (Disk.gaps.flaws standard) = Disk.gapsOutcome.failures := by
  obtain ⟨_, complete⟩ := build_record_complete Disk.gaps standard "/e.js"
  obtain ⟨entry, others, _, _, in_order, nothing_lost⟩ := complete Disk.gapsOutcome build_gaps
  exact ⟨build_gaps, entry, others, in_order, nothing_lost.failures.symm⟩

/-- A request for a file that is too deep is neither a dependency nor unresolved. -/
theorem build_record_too_deep :
    ((standard.under .record).build Disk.shaft.access "/e.js" : Build).result =
        .ok shaftOutcome ∧
      shaftOutcome.failures = [.unreadable "/l/l/x.js" .nameTooLong] ∧
      Disk.shaft.access.requests false ⟨["m.js"]⟩ = .ok [⟨"/l/l/x", .require⟩] ∧
      ¬ ∃ targets, shaftOutcome.graph.dependencies? ⟨["m.js"]⟩ = some targets ∧
        targets.length + (shaftOutcome.unresolvedIn ⟨["m.js"]⟩).length =
          [Specifier.mk "/l/l/x" .require].length := by
  have read : Disk.shaft.readText "/m.js" = .ok "require('/l/l/x');" := by decide +kernel
  have found : Source.Parser.requests false "/m.js" "require('/l/l/x');" =
      .ok [⟨"/l/l/x", .require⟩] := by decide +kernel
  have written : Location.text ⟨["m.js"]⟩ = "/m.js" := by decide +kernel
  refine ⟨build_shaft, rfl, ?_, ?_⟩
  · apply Disk.requests_of_wellFormed
    · rw [written, read]
    · rw [written, found]
  · rintro ⟨targets, depends, counted⟩
    cases depends
    revert counted
    decide +kernel

end Options

end ModuleGraph
