import ModuleGraph.Proofs.Command.Root

/-!
# Configurations that are refused

`Config.KeptOnRefusal` says what to expect of a configuration whose root directory cannot be
settled: it is as it was, and is refused again. `Config.initialised_refused` says when that is so,
which is when no root directory was asked for or the one that was asked for is there. In all other
cases the configuration forgets what it was asked for. A second attempt then searches for a root
directory, and finds one wherever there is a working directory.
-/

namespace ModuleGraph

namespace Config

variable {disk : Disk} {config left : Config} {refusal : Refusal} {path : String}

/-- What cannot be settled is left as it was, and cannot be settled later either. -/
def KeptOnRefusal (disk : Disk) (config : Config) : Prop :=
  ∀ refusal left, (config.initialised disk.access : Except Refusal Unit × Config) =
      (.error refusal, left) →
    left = config ∧ ∃ again, (left.initialised disk.access : Except Refusal Unit × Config).1 =
      .error again

/-- A configuration is refused if no root directory can be chosen. It is left without one. -/
theorem initialised_eq_error_iff :
    (config.initialised disk.access : Except Refusal Unit × Config) = (.error refusal, left) ↔
      (chooseRoot disk.access config.root : Except Refusal String) = .error refusal ∧
        left = { config with root := none } := by
  simp only [initialised, bind]
  cases (chooseRoot disk.access config.root : Except Refusal String) with
  | ok root =>
      constructor
      · intro h
        cases h
      · rintro ⟨chosen, _⟩
        cases chosen
  | error refusal =>
      constructor
      · intro h
        cases h
        exact ⟨rfl, rfl⟩
      · rintro ⟨chosen, rfl⟩
        cases chosen
        rfl

/-- A root directory that is asked for is refused if its path does not lead anywhere, whatever the
cause, and the refusal names both. -/
theorem chooseRoot_some_eq_error_iff :
    (chooseRoot disk.access (some path) : Except Refusal String) = .error refusal ↔
      ∃ cause, disk.canonicalize path = .error cause ∧ refusal = .invalidRoot path cause := by
  have asked : (disk.access.canonicalize path : Except Cause Location) = disk.canonicalize path :=
    rfl
  simp only [chooseRoot, bind, asked]
  cases disk.canonicalize path with
  | ok location =>
      constructor
      · intro h
        cases h
      · rintro ⟨_, failed, _⟩
        cases failed
  | error cause =>
      constructor
      · intro h
        cases h
        exact ⟨cause, rfl, rfl⟩
      · rintro ⟨_, failed, rfl⟩
        cases failed
        rfl

/-- If none is asked for, there is a root directory wherever there is a working directory. -/
theorem exists_chooseRoot_none_eq_error_iff :
    (∃ refusal, (chooseRoot disk.access none : Except Refusal String) = .error refusal) ↔
      disk.workingDirectory = none := by
  constructor
  · rintro ⟨refusal, refused⟩
    cases working : disk.workingDirectory with
    | none => rfl
    | some directory =>
        rw [chooseRoot_of_workingDirectory working] at refused
        cases refused
  · intro working
    cases chosen : (chooseRoot disk.access none : Except Refusal String) with
    | error refusal => exact ⟨refusal, rfl⟩
    | ok root =>
        obtain ⟨directory, there⟩ := isSome_workingDirectory_of_chooseRoot chosen
        rw [working] at there
        cases there

/-- A configuration that asks for no root directory is refused for good if there is no working
directory. -/
theorem exists_initialised_eq_error_iff (unrooted : config.root = none) :
    (∃ again, (config.initialised disk.access : Except Refusal Unit × Config).1 = .error again) ↔
      disk.workingDirectory = none := by
  rw [← exists_chooseRoot_none_eq_error_iff, ← unrooted]
  constructor
  · rintro ⟨refusal, refused⟩
    exact ⟨refusal, (initialised_eq_error_iff.mp (Prod.ext refused rfl)).1⟩
  · rintro ⟨refusal, refused⟩
    exact ⟨refusal, congrArg Prod.fst (initialised_eq_error_iff.mpr ⟨refused, rfl⟩)⟩

/-- A configuration is kept on refusal exactly if it asks for no root directory or for one that is
there. If one is asked for and refused, be it missing, a link that leads nowhere or anything else
that cannot be followed, then only the refusal still names it. What is left asks for none. It is
refused again only without a working directory. Otherwise the root directory is searched for, as if
none had ever been asked for. -/
theorem initialised_refused (disk : Disk) (config : Config) :
    (config.KeptOnRefusal disk ↔
      ∀ path, config.root = some path → ∃ location, disk.canonicalize path = .ok location) ∧
    ∀ refusal left, (config.initialised disk.access : Except Refusal Unit × Config) =
        (.error refusal, left) →
      left = { config with root := none } ∧
      (∀ path, config.root = some path →
        ∃ cause, disk.canonicalize path = .error cause ∧ refusal = .invalidRoot path cause) ∧
      ((∃ again, (left.initialised disk.access : Except Refusal Unit × Config).1 = .error again) ↔
        disk.workingDirectory = none) ∧
      ∀ directory, disk.workingDirectory = some directory →
        (left.initialised disk.access : Except Refusal Unit × Config) =
          (.ok (), { config with
            root := some ((repositoryAround disk.access directory.text : Option String).getD
              directory.text) }) := by
  refine ⟨⟨?_, ?_⟩, ?_⟩
  · intro kept path asked
    cases led : disk.canonicalize path with
    | ok location => exact ⟨location, rfl⟩
    | error cause =>
        have refused := chooseRoot_some_eq_error_iff.mpr ⟨cause, led, rfl⟩
        rw [← asked] at refused
        obtain ⟨same, _⟩ := kept _ _ (initialised_eq_error_iff.mpr ⟨refused, rfl⟩)
        have forgotten := congrArg root same
        rw [asked] at forgotten
        cases forgotten
  · intro there refusal left refused
    obtain ⟨chosen, rfl⟩ := initialised_eq_error_iff.mp refused
    cases asked : config.root with
    | some path =>
        rw [asked] at chosen
        obtain ⟨cause, failed, _⟩ := chooseRoot_some_eq_error_iff.mp chosen
        obtain ⟨location, led⟩ := there path asked
        rw [led] at failed
        cases failed
    | none =>
        have same : { config with root := none } = config := by rw [← asked]
        rw [asked] at chosen
        exact ⟨same, (exists_initialised_eq_error_iff rfl).mpr
          (exists_chooseRoot_none_eq_error_iff.mp ⟨refusal, chosen⟩)⟩
  · intro refusal left refused
    obtain ⟨chosen, rfl⟩ := initialised_eq_error_iff.mp refused
    refine ⟨rfl, ?_, exists_initialised_eq_error_iff rfl, ?_⟩
    · intro path asked
      rw [asked] at chosen
      exact chooseRoot_some_eq_error_iff.mp chosen
    · intro directory working
      exact initialised_eq_ok_iff.mpr ⟨_, chooseRoot_of_workingDirectory working, rfl⟩

/-- What arguments ask for that name one file and a root directory that is not there. -/
def misrooted : Config :=
  { unrooted with root := some "missing" }

theorem misrooted_refused :
    (misrooted.initialised Disk.checkout.access : Except Refusal Unit × Config) =
      (.error (.invalidRoot "missing" .notFound), unrooted) := by
  have led : Disk.checkout.canonicalize "missing" = .error .notFound := by decide +kernel
  have refused := chooseRoot_some_eq_error_iff.mpr ⟨_, led, rfl⟩
  have left : unrooted = { misrooted with root := none } := rfl
  exact initialised_eq_error_iff.mpr ⟨refused, left⟩

theorem initialised_refused_checkout :
    (misrooted.initialised Disk.checkout.access : Except Refusal Unit × Config) =
        (.error (.invalidRoot "missing" .notFound), unrooted) ∧
      (unrooted.initialised Disk.checkout.access : Except Refusal Unit × Config) =
        (.ok (), { unrooted with root := some "/p" }) := by
  obtain ⟨_, _, _, again⟩ := (initialised_refused Disk.checkout misrooted).2 _ _ misrooted_refused
  have found : (repositoryAround Disk.checkout.access (Location.mk ["p", "src"]).text :
      Option String).getD (Location.mk ["p", "src"]).text = "/p" := by
    decide +kernel
  refine ⟨misrooted_refused, (again ⟨["p", "src"]⟩ rfl).trans ?_⟩
  rw [found]
  rfl

/-- A root directory that is not there is forgotten, and what is left is not refused again. -/
theorem not_keptOnRefusal_misrooted :
    ¬ misrooted.KeptOnRefusal Disk.checkout ∧
      ¬ ∃ again, (unrooted.initialised Disk.checkout.access : Except Refusal Unit × Config).1 =
        .error again := by
  constructor
  · intro kept
    obtain ⟨same, _⟩ := kept _ _ misrooted_refused
    exact absurd same (by decide)
  · intro refused
    have working := (exists_initialised_eq_error_iff rfl).mp refused
    exact absurd working (by decide)

end Config

end ModuleGraph
