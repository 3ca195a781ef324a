import ModuleGraph.Proofs.Build.Accounts

/-!
# Builds without failures

A path is intact (`Disk.Intact`) if it leads to a file from which no file can be reached that
cannot be expanded in full. A build succeeds without failures exactly from such paths, whatever it
does about failures (`Options.build_intact_iff`), and then it finds no cycle exactly if none can be
reached (`Options.cycles_eq_nil_iff`).
-/

namespace ModuleGraph

variable [Source.Parser]

namespace Disk

/-- A file that can be expanded in full: it can be read, its text is well formed, and each of its
requests leads to a file. -/
def Expandable (disk : Disk) (options : Options) (file : Location) : Prop :=
  ∃ text specifiers, disk.readText file.text = .ok text ∧
    Source.Parser.requests options.dynamicImports file.text text = .ok specifiers ∧
    ∀ specifier ∈ specifiers,
      disk.resolves (Extension.normalise options.extensions) file specifier.request = true

/-- A path that leads to a file from which only such files can be reached. -/
def Intact (disk : Disk) (options : Options) (path : String) : Prop :=
  ∃ entry, disk.canonicalize path = .ok entry ∧
    ∀ file, Relation.ReflTransGen (disk.access.answers options).DependsOn entry file →
      disk.Expandable options file

/-- A path from which no file can be reached that depends on itself, directly or not. -/
def Acyclic (disk : Disk) (options : Options) (path : String) : Prop :=
  ∀ entry, disk.canonicalize path = .ok entry →
    ∀ file, Relation.ReflTransGen (disk.access.answers options).DependsOn entry file →
      ¬ Relation.TransGen (disk.access.answers options).DependsOn file file

variable {disk : Disk} {options : Options} {file : Location}

/-- Files that can be expanded in full are those with which nothing is wrong. -/
theorem flaws_eq_nil_iff : disk.flaws options file = [] ↔ disk.Expandable options file := by
  rw [flaws, Expandable]
  cases read : disk.readText file.text with
  | error cause => simp
  | ok text =>
      cases found : Source.Parser.requests options.dynamicImports file.text text with
      | error complaint => simp [found]
      | ok specifiers => simp [found, resolves]

end Disk

namespace Options

variable {disk : Disk} {options : Options} {path : String} {outcome : Outcome}

/-- A build that succeeds has no failures exactly if its path is intact. -/
theorem failures_eq_nil_iff (h : (options.build disk.access path : Build).result = .ok outcome) :
    outcome.failures = [] ↔ disk.Intact options path := by
  have told := told_of_build h
  obtain ⟨entry, leads, reached⟩ := told.reached
  constructor
  · intro none
    refine ⟨entry, leads, fun file reaches => Disk.flaws_eq_nil_iff.mp ?_⟩
    apply List.eq_nil_iff_forall_not_mem.mpr
    intro failure wrong
    have noted := (told.failures failure).mpr ⟨file, (reached file).mpr reaches, wrong⟩
    rw [none] at noted
    cases noted
  · rintro ⟨entry', leads', expandable⟩
    cases leads.symm.trans leads'
    apply List.eq_nil_iff_forall_not_mem.mpr
    intro failure noted
    obtain ⟨file, present, wrong⟩ := (told.failures failure).mp noted
    rw [Disk.flaws_eq_nil_iff.mpr (expandable file ((reached file).mp present))] at wrong
    cases wrong

/-- An intact path is not refused. -/
theorem exists_build_record (intact : disk.Intact options path) :
    ∃ outcome, ((options.under .record).build disk.access path : Build).result = .ok outcome := by
  obtain ⟨entry, leads, expandable⟩ := intact
  cases built : ((options.under .record).build disk.access path : Build).result with
  | ok outcome => exact ⟨outcome, rfl⟩
  | error failure =>
      obtain ⟨failure', refuses⟩ := build_record_error_iff.mp ⟨failure, built⟩
      cases refuses with
      | astray astray => cases leads.symm.trans astray
      | flawed leads' wrong =>
          cases leads.symm.trans leads'
          rw [Disk.flaws_eq_nil_iff.mpr (expandable entry .refl)] at wrong
          cases wrong

/-- From an intact path a build succeeds without failures, whatever it does about them. -/
theorem exists_build_of_intact (intact : disk.Intact options path) (policy : Policy) :
    ∃ outcome, ((options.under policy).build disk.access path : Build).result = .ok outcome ∧
      outcome.failures = [] := by
  obtain ⟨outcome, recorded⟩ := exists_build_record intact
  have none : outcome.failures = [] := (failures_eq_nil_iff recorded).mpr intact
  cases policy with
  | record => exact ⟨outcome, recorded, none⟩
  | abort =>
      obtain ⟨agreement, holds⟩ := exists_agreement disk options path
      rw [recorded] at holds
      cases agreement with
      | full =>
          obtain ⟨outcome', aborts, _, none'⟩ := holds
          exact ⟨outcome', aborts, none'⟩
      | refused =>
          obtain ⟨_, _, fails, _⟩ := holds
          cases fails
      | cut =>
          obtain ⟨failure, outcome', _, same, first⟩ := holds
          cases same
          rw [none] at first
          cases first

/-- A build succeeds without failures exactly from an intact path. -/
theorem build_intact_iff :
    (∃ outcome, (options.build disk.access path : Build).result = .ok outcome ∧
      outcome.failures = []) ↔ disk.Intact options path := by
  constructor
  · rintro ⟨outcome, built, none⟩
    exact (failures_eq_nil_iff built).mp none
  · intro intact
    exact exists_build_of_intact intact options.policy

/-- A build that succeeds finds no cycle exactly if none can be reached. -/
theorem cycles_eq_nil_iff (h : (options.build disk.access path : Build).result = .ok outcome) :
    outcome.cycles = [] ↔ disk.Acyclic options path := by
  obtain ⟨entry, walk, leads, steps, ended, rfl, _⟩ := exists_walk_of_build h
  have exact_walk := steps.exact ended
  have reached : ∀ cycle ∈ walk.record.cycles, ∀ file ∈ cycle.chain,
      Relation.ReflTransGen (disk.access.answers options).DependsOn entry file := by
    intro cycle noted file there
    exact steps.reported.reached steps.entered steps.coherent.registered noted there
  refine (steps.grounded.cycles_eq_nil_iff exact_walk reached steps.reported.simple).trans ?_
  constructor
  · intro acyclic entry' leads'
    cases leads.symm.trans leads'
    exact acyclic
  · intro acyclic
    exact acyclic entry leads

end Options

end ModuleGraph
