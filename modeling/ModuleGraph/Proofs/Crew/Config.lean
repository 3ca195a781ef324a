import ModuleGraph.Proofs.Crew.Schedule

/-!
# Runs of a configuration

What a run comes to is settled by the options and the files that a configuration names: it is what
builds in sessions of their own come to, whether the run builds one graph after the other or
several at a time (`Config.ComesTo.eq`).
-/

namespace ModuleGraph

namespace Config

/-- Why a configuration is refused, if it is: its root directory cannot be settled, or it names no
files. -/
def refusal? (disk : Disk) (config : Config) : Option Refusal :=
  match (config.initialised disk.access : Except Refusal Unit × Config).1 with
  | .error refusal => some refusal
  | .ok () => if config.entries.isEmpty then some .noEntries else none

/-- Settling the root directory changes nothing else. -/
theorem exists_initialised_eq (disk : Disk) (config : Config) :
    ∃ root, (config.initialised disk.access : Except Refusal Unit × Config).2 =
      { config with root } := by
  simp only [initialised, bind]
  cases (chooseRoot disk.access config.root : Except Refusal String) with
  | error refusal => exact ⟨none, rfl⟩
  | ok root => exact ⟨some root, rfl⟩

end Config

variable [Source.Parser] {disk : Disk} {options : Options} {entries : List String}

/-- By whatever schedule all builds are done, the run is that of builds in sessions of their
own. -/
theorem Crew.eq_runSeparately {schedule : List Nat} {run : Run}
    (completed : ((Crew.start options entries).follow disk schedule).run? = some run) :
    run = options.runSeparately disk entries := by
  obtain ⟨rest, sound⟩ := (sound_start disk options entries).follow schedule
  exact sound.run_eq completed

/-- Any schedule goes on to one by which all builds are done. -/
theorem Crew.exists_run?_eq (disk : Disk) (options : Options) (entries : List String)
    (schedule : List Nat) : ∃ more,
      ((Crew.start options entries).follow disk (schedule ++ more)).run? =
        some (options.runSeparately disk entries) := by
  obtain ⟨more, run, completed⟩ :=
    exists_completion disk ((Crew.start options entries).follow disk schedule)
  rw [← follow_append] at completed
  exact ⟨more, completed.trans (congrArg some (eq_runSeparately completed))⟩

/-- A session that builds one graph after the other comes to the same run. -/
theorem Session.buildAll_eq_runSeparately (disk : Disk) (options : Options)
    (entries : List String) : ∃ said session,
      (Session.fresh options).buildAll disk.access entries =
        ((options.runSeparately disk entries).entries, said, session) ∧
      session.filesParsed = (options.runSeparately disk entries).filesAnalyzed := by
  obtain ⟨results, said, session, built⟩ : ∃ results said session,
      (Session.fresh options).buildAll disk.access entries = (results, said, session) :=
    ⟨_, _, _, rfl⟩
  obtain ⟨schedule, completed⟩ := Crew.exists_completion_buildAll built
  have same := Crew.eq_runSeparately completed
  exact ⟨said, session, by rw [built, ← same], congrArg Run.filesAnalyzed same⟩

namespace Config

/-- Runs what a configuration asks for, several builds at a time. There are results once all builds
are done. -/
def runBy (disk : Disk) (config : Config) (schedule : List Nat) : Except Refusal (Option Run) :=
  match (config.initialised disk.access : Except Refusal Unit × Config) with
  | (.error refusal, _) => .error refusal
  | (.ok (), config) =>
    if config.entries.isEmpty then .error .noEntries
    else .ok ((Crew.start config.options config.entries).follow disk schedule).run?

/-- A configuration comes to a run: if it builds one graph after the other, or by some schedule if
it builds several at a time. -/
inductive ComesTo (disk : Disk) (config : Config) (run : Run) : Prop
  | inTurn {said : List String} (h : config.run disk.access = .ok (run, said))
  | byTurns {schedule : List Nat} (h : config.runBy disk schedule = .ok (some run))

variable {config : Config} {run : Run}

/-- Several builds at a time are a matter of the options and the files. -/
theorem runBy_eq (disk : Disk) (config : Config) (schedule : List Nat) :
    config.runBy disk schedule = match config.refusal? disk with
      | some refusal => .error refusal
      | none => .ok ((Crew.start config.options config.entries).follow disk schedule).run? := by
  obtain ⟨root, settled⟩ := exists_initialised_eq disk config
  rw [runBy, refusal?]
  cases initialised : (config.initialised disk.access : Except Refusal Unit × Config) with
  | mk result later =>
      rw [initialised] at settled
      subst settled
      cases result with
      | error refusal => rfl
      | ok _ => cases named : config.entries.isEmpty <;> simp only [named] <;> rfl

/-- So is building one graph after the other. -/
theorem exists_run_eq (disk : Disk) (config : Config) : ∃ said,
    (config.run disk.access : Except Refusal (Run × List String)) = match config.refusal? disk with
      | some refusal => .error refusal
      | none => .ok (config.options.runSeparately disk config.entries, said) := by
  obtain ⟨root, settled⟩ := exists_initialised_eq disk config
  obtain ⟨said, session, built, counted⟩ :=
    Session.buildAll_eq_runSeparately disk config.options config.entries
  simp only [Config.run, refusal?, bind]
  cases initialised : (config.initialised disk.access : Except Refusal Unit × Config) with
  | mk result later =>
      rw [initialised] at settled
      subst settled
      cases result with
      | error refusal => exact ⟨[], rfl⟩
      | ok _ =>
          cases named : config.entries.isEmpty with
          | true => exact ⟨[], by simp only [named]; rfl⟩
          | false =>
              refine ⟨Extension.warnings config.extensions ++
                Extension.warnings config.options.extensions ++ said, ?_⟩
              have built' : (Session.fresh ({ config with root } : Config).options).buildAll
                  disk.access config.entries =
                    ((config.options.runSeparately disk config.entries).entries, said, session) :=
                built
              simp only [named, Bool.false_eq_true, if_false]
              rw [built']
              dsimp only
              rw [counted]
              rfl

/-- A configuration comes to one run at most. -/
theorem ComesTo.eq (h : config.ComesTo disk run) :
    run = config.options.runSeparately disk config.entries := by
  cases h with
  | inTurn h =>
      obtain ⟨_, same⟩ := exists_run_eq disk config
      rw [h] at same
      split at same
      · cases same
      · cases same
        rfl
  | byTurns h =>
      rw [runBy_eq] at h
      split at h
      · cases h
      · exact Crew.eq_runSeparately (Except.ok.inj h)

end Config

end ModuleGraph
