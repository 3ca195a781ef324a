import ModuleGraph.CommandLine
import ModuleGraph.Proofs.Build.Intact
import ModuleGraph.Proofs.Command.Root

/-!
# The status tells the truth

A command ends with status 0 exactly if there is nothing to complain about (`Command.Clean`): from
every file that was given, all that can be reached can be expanded in full and, where cycles are
asked for, no file can be reached that depends on itself. Otherwise it ends with status 1. That is
`Command.status_iff_clean`. Neither the order in which builds take turns matters for it, nor
whether failures end them, nor how the report is written.

The root directory is settled twice, once before the run and once by it. In a working directory
that is too deep to be asked about it can be settled only once, and then the status is 1 however
clean everything is (`Command.status_iff_clean_too_deep`).
-/

namespace ModuleGraph

/-- A result is without failures if its build succeeded and noted none. -/
theorem EntryResult.failures_eq_nil_iff {result : EntryResult} :
    result.failures = [] ↔ ∃ outcome, result.outcome = .ok outcome ∧ outcome.failures = [] := by
  rw [failures]
  cases result.outcome with
  | error failure => simp
  | ok outcome => simp

namespace Run

variable {run : Run}

theorem hasFailures_eq_false_iff :
    run.hasFailures = false ↔ ∀ result ∈ run.entries, result.failures = [] := by
  simp [hasFailures]

theorem cycleCount_eq_zero_iff :
    run.cycleCount = 0 ↔
      ∀ result ∈ run.entries, ∀ outcome, result.outcome = .ok outcome → outcome.cycles = [] := by
  have none_of_result (result : EntryResult) :
      (∀ count, result.outcome?.map (·.cycles.length) = some count → count = 0) ↔
        ∀ outcome, result.outcome = .ok outcome → outcome.cycles = [] := by
    rw [EntryResult.outcome?]
    cases result.outcome with
    | error failure => simp [Except.toOption]
    | ok outcome => simp [Except.toOption]
  rw [cycleCount, ← List.sum_eq_foldr, List.sum_eq_zero_iff_forall_eq_nat]
  simp only [List.mem_filterMap, forall_exists_index, and_imp, ← none_of_result]
  exact ⟨fun none result listed count counted => none count result listed counted,
    fun none count result listed counted => none result listed count counted⟩

end Run

/-- Around a working directory that is too deep there need not be a repository. -/
theorem Disk.not_holdsRepository_abyss {around : Location}
    (within : (Location.level 16).isWithin around = true) : ¬ abyss.HoldsRepository around := by
  have working := abyss_wellFormed.workingDirectory_directory _ rfl
  have directory := Location.directory_of_mem_outwards working
    (Location.mem_outwards_iff.mpr within)
  exact directory.not_holdsRepository (abyss_wellFormed.nulFree_of_entry? directory.entry?)
    (entry?_abyss_child around (by decide) (by decide +kernel))

namespace Config

/-- A run is not refused if its configuration initialises and names a file. -/
theorem refusal?_eq_none_iff {disk : Disk} {config : Config} :
    config.refusal? disk = none ↔ config.Initialises disk ∧ config.entries.isEmpty = false := by
  rw [refusal?, Initialises]
  cases (config.initialised disk.access : Except Refusal Unit × Config).1 with
  | error refusal => simp
  | ok _ => simp

end Config

namespace Command

variable {disk : Disk} {command : Command} {config : Config}

/-! ## Arguments that are accepted -/

/-- Behind the command there are the arguments of a configuration. -/
theorem exists_ofArguments {arguments : List String}
    (accepted : ofArguments arguments = .ok (command, config)) :
    ∃ rest, Config.ofArguments rest = .ok config := by
  cases arguments with
  | nil => cases accepted
  | cons name rest =>
      rw [ofArguments] at accepted
      split at accepted
      · cases read : Config.ofArguments rest with
        | error mistake =>
            rw [read] at accepted
            cases accepted
        | ok config' =>
            rw [read] at accepted
            cases accepted
            exact ⟨rest, read⟩
      · split at accepted
        · cases accepted
        · cases accepted

/-- Arguments that are accepted name a file. -/
theorem isEmpty_entries_of_ofArguments {arguments : List String}
    (accepted : ofArguments arguments = .ok (command, config)) :
    config.entries.isEmpty = false := by
  obtain ⟨rest, read⟩ := exists_ofArguments accepted
  rw [Config.ofArguments] at read
  cases all_read : Config.Reader.start.readAll rest with
  | error mistake =>
      rw [all_read] at read
      cases read
  | ok reader =>
      rw [all_read] at read
      simp only [bind, Except.bind] at read
      split at read
      · cases read
      · next named =>
        cases read
        exact Bool.eq_false_iff.mpr named

/-! ## How a command ends -/

section

variable [Source.Parser]

/-- There is nothing that a command has to complain about. -/
def Clean (disk : Disk) (command : Command) (config : Config) : Prop :=
  ∀ path ∈ config.entries, disk.Intact config.options path ∧
    (command = .cycles → disk.Acyclic config.options path)

/-- The status with which a command ends that builds several graphs at a time, once all are
built. -/
def statusBy (disk : Disk) (command : Command) (config : Config) (schedule : List Nat) :
    Option Nat :=
  match (config.initialised disk.access : Except Refusal Unit × Config) with
  | (.error _, _) => some 1
  | (.ok (), config) =>
    match config.runBy disk schedule with
    | .error _ => some 1
    | .ok run? => run?.map fun run => if command.fails run then 1 else 0

/-- A command ends with a status, whatever style it writes in, and whether it builds one graph
after the other or several at a time, by any schedule, and there is always one. -/
structure EndsWith (disk : Disk) (command : Command) (config : Config) (status : Nat) : Prop where
  inTurn : ∀ styled, (command.answer disk.access styled config : Answer).status = status
  byTurns : ∀ schedule status', command.statusBy disk config schedule = some status' →
    status' = status
  completes : ∀ schedule, ∃ more, command.statusBy disk config (schedule ++ more) = some status

/-- A run without failures comes from intact paths. -/
theorem hasFailures_runSeparately_iff {options : Options} {entries : List String} :
    (options.runSeparately disk entries).hasFailures = false ↔
      ∀ path ∈ entries, disk.Intact options path := by
  simp only [Run.hasFailures_eq_false_iff, Options.runSeparately, List.forall_mem_map,
    EntryResult.failures_eq_nil_iff, Options.build_intact_iff]

/-- A run without failures has no cycles if none can be reached from its paths. -/
theorem cycleCount_runSeparately_iff {options : Options} {entries : List String}
    (intact : ∀ path ∈ entries, disk.Intact options path) :
    (options.runSeparately disk entries).cycleCount = 0 ↔
      ∀ path ∈ entries, disk.Acyclic options path := by
  simp only [Run.cycleCount_eq_zero_iff, Options.runSeparately, List.forall_mem_map]
  refine forall_congr' fun path => forall_congr' fun given => ?_
  obtain ⟨outcome, built, _⟩ := Options.build_intact_iff.mpr (intact path given)
  constructor
  · intro none
    exact (Options.cycles_eq_nil_iff built).mp (none outcome built)
  · intro acyclic outcome' built'
    exact (Options.cycles_eq_nil_iff built').mpr acyclic

/-- A command has nothing to complain about exactly if its run does not make it fail. -/
theorem fails_eq_false_iff :
    command.fails (config.options.runSeparately disk config.entries) = false ↔
      command.Clean disk config := by
  cases command with
  | graph => simp [fails, Clean, hasFailures_runSeparately_iff]
  | cycles =>
      have fails_iff : Command.cycles.fails (config.options.runSeparately disk config.entries) =
          false ↔ (config.options.runSeparately disk config.entries).cycleCount = 0 ∧
            (config.options.runSeparately disk config.entries).hasFailures = false := by
        simp [fails]
      rw [fails_iff, hasFailures_runSeparately_iff]
      simp only [Clean, forall_const, forall_and]
      constructor
      · rintro ⟨none, intact⟩
        exact ⟨intact, (cycleCount_runSeparately_iff intact).mp none⟩
      · rintro ⟨intact, acyclic⟩
        exact ⟨(cycleCount_runSeparately_iff intact).mpr acyclic, intact⟩

/-- Once the root directory is settled, the status is a matter of whether the run is refused, and
of what it comes to if it is not. -/
theorem status_eq (initialises : config.Initialises disk) (styled : Bool) :
    (command.answer disk.access styled config : Answer).status =
      match (config.settled disk).refusal? disk with
      | some _ => 1
      | none =>
        if command.fails (config.options.runSeparately disk config.entries) then 1 else 0 := by
  obtain ⟨root, chosen, settled_eq⟩ := initialises.exists_settled_eq
  have first := Config.initialised_eq_ok_iff.mpr ⟨root, chosen, rfl⟩
  obtain ⟨said, ran⟩ := Config.exists_run_eq disk (config.settled disk)
  rw [settled_eq] at ran ⊢
  cases refused : Config.refusal? disk { config with root := some root } with
  | some refusal =>
      rw [refused] at ran
      simp only [answer, bind, first, ran]
      rfl
  | none =>
      rw [refused] at ran
      simp only [answer, bind, first, ran]
      rfl

theorem statusBy_eq (initialises : config.Initialises disk) (schedule : List Nat) :
    command.statusBy disk config schedule =
      match (config.settled disk).refusal? disk with
      | some _ => some 1
      | none =>
        ((Crew.start config.options config.entries).follow disk schedule).run?.map fun run =>
          if command.fails run then 1 else 0 := by
  obtain ⟨root, chosen, settled_eq⟩ := initialises.exists_settled_eq
  have first := Config.initialised_eq_ok_iff.mpr ⟨root, chosen, rfl⟩
  rw [statusBy, first, settled_eq]
  dsimp only
  rw [Config.runBy_eq]
  cases Config.refusal? disk { config with root := some root } with
  | some refusal => rfl
  | none => rfl

/-- A command whose run is refused ends with status 1. -/
theorem endsWith_of_refused {refusal : Refusal} (initialises : config.Initialises disk)
    (refused : (config.settled disk).refusal? disk = some refusal) :
    command.EndsWith disk config 1 := by
  have ends (schedule : List Nat) : command.statusBy disk config schedule = some 1 := by
    rw [statusBy_eq initialises, refused]
  refine ⟨fun styled => ?_, fun schedule status' ended => ?_, fun schedule => ⟨[], ends _⟩⟩
  · rw [status_eq initialises, refused]
  · exact Option.some.inj (ended.symm.trans (ends schedule))

/-- A command whose run is not refused ends with the status that its run calls for. -/
theorem endsWith_of_accepted (initialises : config.Initialises disk)
    (accepted : (config.settled disk).refusal? disk = none) :
    command.EndsWith disk config
      (if command.fails (config.options.runSeparately disk config.entries) then 1 else 0) := by
  refine ⟨fun styled => ?_, fun schedule status' ended => ?_, fun schedule => ?_⟩
  · rw [status_eq initialises, accepted]
  · rw [statusBy_eq initialises, accepted] at ended
    obtain ⟨run, completed, rfl⟩ := Option.map_eq_some_iff.mp ended
    rw [Crew.eq_runSeparately completed]
  · obtain ⟨more, completed⟩ :=
      Crew.exists_run?_eq disk config.options config.entries schedule
    exact ⟨more, by rw [statusBy_eq initialises, accepted, completed]; rfl⟩

/-- A command that has nothing to complain about, and whose run can settle the root directory
again, ends with status 0. -/
theorem endsWith_zero (named : config.entries.isEmpty = false)
    (initialises : config.Initialises disk) (again : (config.settled disk).Initialises disk)
    (clean : command.Clean disk config) : command.EndsWith disk config 0 := by
  obtain ⟨root, _, settled_eq⟩ := initialises.exists_settled_eq
  have accepted : (config.settled disk).refusal? disk = none :=
    Config.refusal?_eq_none_iff.mpr ⟨again, by rw [settled_eq]; exact named⟩
  have ends : command.EndsWith disk config _ := endsWith_of_accepted initialises accepted
  rwa [fails_eq_false_iff.mpr clean] at ends

/-- Any other command ends with status 1. -/
theorem endsWith_one (initialises : config.Initialises disk)
    (wrong : ¬ (command.Clean disk config ∧ (config.settled disk).Initialises disk)) :
    command.EndsWith disk config 1 := by
  cases accepted : (config.settled disk).refusal? disk with
  | some refusal => exact endsWith_of_refused initialises accepted
  | none =>
      obtain ⟨again, _⟩ := Config.refusal?_eq_none_iff.mp accepted
      have ends : command.EndsWith disk config _ := endsWith_of_accepted initialises accepted
      rwa [Bool.of_not_eq_false fun succeeds =>
        wrong ⟨fails_eq_false_iff.mp succeeds, again⟩] at ends

/-- A command whose arguments are accepted and whose configuration initialises ends with status 0
if it has nothing to complain about and its run can settle the root directory again, and with
status 1 otherwise. It does so whatever style it writes in, whether it builds one graph after the
other or several at a time, and by any schedule. The status stays the same for arguments that
differ in whether the command keeps going or writes JSON.

On a well-formed disk, the root directory can be settled again exactly if it can be asked about. It
can if the working directory can. -/
theorem status_iff_clean {arguments : List String}
    (accepted : ofArguments arguments = .ok (command, config))
    (initialises : config.Initialises disk) :
    (∃ status, command.EndsWith disk config status ∧ (status = 0 ∨ status = 1) ∧
      (status = 0 ↔ command.Clean disk config ∧ (config.settled disk).Initialises disk) ∧
      ∀ arguments' keepGoing json,
        ofArguments arguments' = .ok (command, { config with keepGoing, json }) →
          command.EndsWith disk { config with keepGoing, json } status) ∧
    (disk.WellFormed → ∃ root, Config.RootAt disk config.root root ∧
      config.settled disk = { config with root := some root.text } ∧
      ((config.settled disk).Initialises disk ↔ root.Fits) ∧
      ((∀ directory ∈ disk.workingDirectory, directory.Fits) → root.Fits)) := by
  have named := isEmpty_entries_of_ofArguments accepted
  -- Neither what there is to complain about nor the root directory is a matter of these two.
  have clean_iff (keepGoing json : Bool) :
      command.Clean disk { config with keepGoing, json } ↔ command.Clean disk config := Iff.rfl
  have same_root (keepGoing json : Bool) :
      ({ config with keepGoing, json } : Config).root = config.root := rfl
  have initialises' (keepGoing json : Bool) :
      ({ config with keepGoing, json } : Config).Initialises disk :=
    (Config.initialises_congr (same_root keepGoing json)).mpr initialises
  have again_iff (keepGoing json : Bool) :
      (({ config with keepGoing, json } : Config).settled disk).Initialises disk ↔
        (config.settled disk).Initialises disk :=
    Config.initialises_congr (Config.root_settled_congr (same_root keepGoing json))
  constructor
  · by_cases fine : command.Clean disk config ∧ (config.settled disk).Initialises disk
    · obtain ⟨clean, again⟩ := fine
      refine ⟨0, endsWith_zero named initialises again clean, .inl rfl,
        iff_of_true rfl ⟨clean, again⟩, fun _ keepGoing json _ => ?_⟩
      exact endsWith_zero named (initialises' keepGoing json)
        ((again_iff keepGoing json).mpr again) ((clean_iff keepGoing json).mpr clean)
    · refine ⟨1, endsWith_one initialises fine, .inr rfl, iff_of_false (by decide) fine,
        fun _ keepGoing json _ => ?_⟩
      refine endsWith_one (initialises' keepGoing json) ?_
      rwa [clean_iff, again_iff]
  · intro wellFormed
    obtain ⟨root, rootAt, settled_eq, again_iff⟩ :=
      Config.initialises_settled_iff wellFormed initialises
    exact ⟨root, rootAt, settled_eq, again_iff, fun short => rootAt.fits short⟩

end

/-- What arguments ask for that name one file and the root directory. -/
def ringConfig : Config where
  entries := ["/e.js"]
  root := some "/"
  extensions := Extension.default
  dynamicImports := false
  keepGoing := false
  json := false

theorem status_iff_clean_ring :
    Command.graph.Clean Disk.ring ringConfig ∧ ¬ Command.cycles.Clean Disk.ring ringConfig := by
  have once : (ringConfig.initialised Disk.ring.access).run.1 = .ok () := by decide +kernel
  constructor
  · have accepted : ofArguments ["graph", "--root", "/", "/e.js"] = .ok (.graph, ringConfig) := by
      decide +kernel
    obtain ⟨⟨status, ends, _, zero_iff, _⟩, _⟩ := status_iff_clean accepted once
    have answered :
        (Command.graph.answer Disk.ring.access false ringConfig : Answer).status = 0 := by
      decide +kernel
    rw [ends.inTurn] at answered
    exact (zero_iff.mp answered).1
  · have accepted : ofArguments ["cycles", "--root", "/", "/e.js"] =
        .ok (.cycles, ringConfig) := by
      decide +kernel
    obtain ⟨⟨status, ends, _, zero_iff, _⟩, settling⟩ := status_iff_clean accepted once
    obtain ⟨root, _, _, again_iff, fits⟩ := settling (by decide +kernel)
    have answered :
        (Command.cycles.answer Disk.ring.access false ringConfig : Answer).status = 1 := by
      decide +kernel
    intro clean
    have again := again_iff.mpr (fits (by decide +kernel))
    rw [ends.inTurn, zero_iff.mpr ⟨clean, again⟩] at answered
    cases answered

/-- What arguments ask for that name one file. -/
def abyssConfig : Config :=
  { ringConfig with root := none }

/-- In a working directory that is too deep, the root directory is settled before the run and
cannot be settled by it, so the status is 1 although nothing is wrong. -/
theorem status_iff_clean_too_deep :
    Disk.abyss.WellFormed ∧ ofArguments ["graph", "/e.js"] = .ok (.graph, abyssConfig) ∧
      abyssConfig.Initialises Disk.abyss ∧ Command.graph.Clean Disk.abyss abyssConfig ∧
      Command.graph.EndsWith Disk.abyss abyssConfig 1 := by
  have initialises : abyssConfig.Initialises Disk.abyss :=
    Config.initialises_iff.mpr ⟨_, Config.chooseRoot_of_workingDirectory rfl⟩
  have intact : Disk.abyss.Intact abyssConfig.options "/e.js" := by
    refine Options.build_intact_iff.mp ⟨⟨⟨[(⟨["e.js"]⟩, [])]⟩, [], []⟩, ?_, rfl⟩
    decide +kernel
  have clean : Command.graph.Clean Disk.abyss abyssConfig := by
    intro path given
    obtain rfl := List.mem_singleton.mp given
    exact ⟨intact, nofun⟩
  refine ⟨Disk.abyss_wellFormed, by decide +kernel, initialises, clean, ?_⟩
  refine endsWith_one initialises fun fine => ?_
  obtain ⟨root, rootAt, _, again_iff⟩ :=
    Config.initialises_settled_iff Disk.abyss_wellFormed initialises
  have fits : root.Fits := again_iff.mp fine.2
  cases rootAt with
  | repository working nearest =>
      cases working
      exact Disk.not_holdsRepository_abyss nearest.around nearest.holds
  | workingDirectory working =>
      cases working
      exact Disk.not_fits_level fits

end Command

end ModuleGraph
