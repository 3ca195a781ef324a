import Mathlib.Data.List.Infix
import ModuleGraph.CommandLine
import ModuleGraph.Proofs.Path.Cleaning
import ModuleGraph.Source.Program

/-!
# Root directories

A run settles its root directory, and whoever starts it has done so before. It is where a given
path leads, or the nearest directory around the working directory with a repository in it, or the
working directory itself (`Config.rootAt_of_chooseRoot`). What is settled once can be settled again
exactly if its text is short enough to be asked about (`Config.initialises_settled_iff`), as it is
unless the working directory is too deep.

The directories around a location are found from its text. `Location.ancestors_text` says that they
are the locations that its names give when they are taken away one after the other.
-/

namespace ModuleGraph

/-! ## The paths that contain a location's text -/

namespace Location

variable {location directory : Location}

/-- A location, and the directories around it, outwards. -/
def outwards (location : Location) : List Location :=
  location.names.inits.reverse.map mk

theorem outwards_root : root.outwards = [root] := rfl

theorem outwards_child (directory : Location) (name : String) :
    (directory.child name).outwards = directory.child name :: directory.outwards := by
  simp [outwards, child, List.inits_append]

theorem mem_outwards (location : Location) : location ∈ location.outwards :=
  List.mem_map.mpr ⟨location.names, by simp, rfl⟩

/-- The paths that contain a location's text are the texts of the directories around it. -/
theorem Proper.ancestors_text (h : location.Proper) :
    Path.ancestors location.text = location.outwards.map text := by
  have enough {n : Nat} (deep : location.names.length ≤ n) :
      Path.outwards n location.text = location.outwards.map text := by
    obtain ⟨names⟩ := location
    induction names using List.reverseRecOn generalizing n with
    | nil =>
        change Path.outwards n root.text = root.outwards.map text
        cases n with
        | zero => rfl
        | succ n => rw [Path.outwards, parent?_text_root, outwards_root]; rfl
    | append_singleton names name ih =>
        change (Location.child ⟨names⟩ name).Proper at h
        change Path.outwards n (Location.child ⟨names⟩ name).text =
          (Location.child ⟨names⟩ name).outwards.map text
        rw [outwards_child, List.map_cons]
        cases n with
        | zero => simp at deep
        | succ n =>
            rw [Path.outwards, h.parent?_text_child]
            have around : (Location.mk names).Proper := by simpa using h.parent
            exact congrArg _ (ih around (by simpa using deep))
  rw [Path.ancestors, h.components_text]
  exact enough (by simp)

/-- The directories around a directory are directories. -/
theorem directory_of_mem_outwards {disk : Disk} (h : disk.Directory location) {around : Location}
    (present : around ∈ location.outwards) : disk.Directory around := by
  induction h with
  | root =>
      rw [outwards_root] at present
      rw [List.mem_singleton.mp present]
      exact .root
  | @child directory name is_directory isName there ih =>
      rw [outwards_child] at present
      rcases List.mem_cons.mp present with rfl | further
      · exact is_directory.child isName there
      · exact ih further

/-- A file system can be asked about the directories around a location if it can be asked about
that. -/
theorem Fits.of_mem_outwards (h : location.Fits) {around : Location}
    (present : around ∈ location.outwards) : around.Fits := by
  obtain ⟨names⟩ := location
  induction names using List.reverseRecOn with
  | nil =>
      rw [List.mem_singleton.mp present]
      exact fits_root
  | append_singleton names name ih =>
      change (Location.child ⟨names⟩ name).Fits at h
      change around ∈ (Location.child ⟨names⟩ name).outwards at present
      rw [outwards_child] at present
      rcases List.mem_cons.mp present with rfl | further
      · exact h
      · exact ih (by simpa using h.parent) further

theorem mem_outwards_iff {around : Location} :
    around ∈ location.outwards ↔ location.isWithin around = true := by
  rw [outwards, List.mem_map, isWithin, List.isPrefixOf_iff_prefix, ← List.mem_inits]
  constructor
  · rintro ⟨names, listed, rfl⟩
    exact List.mem_reverse.mp listed
  · intro listed
    exact ⟨around.names, List.mem_reverse.mpr listed, rfl⟩

theorem Proper.of_isWithin (h : location.Proper) {around : Location}
    (within : location.isWithin around = true) : around.Proper :=
  fun name listed => h name ((List.isPrefixOf_iff_prefix.mp within).subset listed)

/-- Outwards, every location is within all that come after it. -/
theorem pairwise_outwards (location : Location) :
    location.outwards.Pairwise fun inner outer => inner.isWithin outer = true := by
  obtain ⟨names⟩ := location
  induction names using List.reverseRecOn with
  | nil => exact List.pairwise_singleton _ _
  | append_singleton names name ih =>
      change (Location.child ⟨names⟩ name).outwards.Pairwise _
      rw [outwards_child]
      refine List.pairwise_cons.mpr ⟨?_, ih⟩
      intro outer further
      rw [← mem_outwards_iff, outwards_child]
      exact List.mem_cons_of_mem _ further

end Location

/-! ## Repositories -/

namespace Disk

variable {disk : Disk} {directory found : Location}

/-- There is something in a directory that marks it as the root of a repository, be it through
links. -/
def HoldsRepository (disk : Disk) (directory : Location) : Prop :=
  disk.leadsSomewhere (directory.child repositoryMark).text = true

/-- A directory in which nothing has the name of the mark holds no repository. -/
theorem Directory.not_holdsRepository (h : disk.Directory directory) (nulFree : directory.NulFree)
    (unmarked : disk.entry? (directory.child repositoryMark) = none) :
    ¬ disk.HoldsRepository directory := by
  have isName : Location.IsName repositoryMark := by decide
  have nulFree' : (directory.child repositoryMark).NulFree :=
    Location.forall_names_child nulFree (by decide)
  have probed : disk.probe .stepwise directory repositoryMark = .error .notFound := by
    simp [probe, unmarked, show repositoryMark.utf8ByteSize ≤ nameLimit by decide]
  have lost : ∃ cause,
      disk.locate .stepwise (directory.child repositoryMark).text = .error cause := by
    rw [locate, start_text nulFree', linkLimit]
    dsimp only
    rw [descendThrough, descend_piecesOf_text (h.proper.child isName)]
    rcases h.descend_names _ [repositoryMark] with followed | ⟨_, fails⟩
    · refine ⟨.notFound, followed.trans ?_⟩
      rw [descend_name isName, probed]
    · exact ⟨_, fails⟩
  obtain ⟨cause, lost⟩ := lost
  rw [HoldsRepository, leadsSomewhere, find, lost]
  split
  · exact Bool.false_ne_true
  · exact Bool.false_ne_true

/-- The innermost directory around a directory, or the directory itself, that holds a
repository. -/
structure NearestRepository (disk : Disk) (directory found : Location) : Prop where
  around : directory.isWithin found = true
  holds : disk.HoldsRepository found
  innermost : ∀ other, directory.isWithin other = true → disk.HoldsRepository other →
    found.isWithin other = true

/-- The search for a repository goes through all directories around one, outwards. -/
theorem repositoryAround_text (proper : directory.Proper) :
    (repositoryAround disk.access directory.text : Option String) =
      (directory.outwards.find? fun around =>
        disk.leadsSomewhere (around.child repositoryMark).text).map Location.text := by
  have search {locations : List Location} (all_proper : ∀ around ∈ locations, around.Proper) :
      (firstRepository disk.access (locations.map Location.text) : Option String) =
        (locations.find? fun around =>
          disk.leadsSomewhere (around.child repositoryMark).text).map Location.text := by
    induction locations with
    | nil => rfl
    | cons first rest ih =>
        have asked : disk.access.leadsSomewhere (Path.join first.text repositoryMark) =
            disk.leadsSomewhere (first.child repositoryMark).text := by
          rw [(all_proper first List.mem_cons_self).join_text (by decide)]
          rfl
        simp only [List.map_cons, firstRepository, bind, asked, List.find?_cons]
        cases disk.leadsSomewhere (first.child repositoryMark).text with
        | true => rfl
        | false => exact ih fun around listed => all_proper around (List.mem_cons_of_mem _ listed)
  rw [repositoryAround, proper.ancestors_text]
  apply search
  intro around present
  exact proper.of_isWithin (Location.mem_outwards_iff.mp present)

/-- The search ends, either at the nearest repository or without any. -/
theorem repositoryAround_cases (disk : Disk) (proper : directory.Proper) :
    (∃ found, (repositoryAround disk.access directory.text : Option String) = some found.text ∧
      disk.NearestRepository directory found) ∨
    (repositoryAround disk.access directory.text : Option String) = none ∧
      ∀ around, directory.isWithin around = true → ¬ disk.HoldsRepository around := by
  rw [repositoryAround_text proper]
  cases search : directory.outwards.find? fun around =>
      disk.leadsSomewhere (around.child repositoryMark).text with
  | none =>
      right
      refine ⟨rfl, ?_⟩
      intro around within
      exact List.find?_eq_none.mp search around (Location.mem_outwards_iff.mpr within)
  | some found =>
      left
      refine ⟨found, rfl, ?_⟩
      obtain ⟨holds, inner, outer, split, passed⟩ := List.find?_eq_some_iff_append.mp search
      have ordered := directory.pairwise_outwards
      rw [split] at ordered
      obtain ⟨_, from_found, _⟩ := List.pairwise_append.mp ordered
      refine ⟨Location.mem_outwards_iff.mp (split ▸ by simp), holds, ?_⟩
      intro other within holds_other
      -- Whatever was passed holds no repository, so the other directory is this one or further out.
      have present := Location.mem_outwards_iff.mpr within
      rw [split] at present
      rcases List.mem_append.mp present with before | after
      · have empty := passed other before
        rw [HoldsRepository] at holds_other
        simp [holds_other] at empty
      · rcases List.mem_cons.mp after with rfl | further
        · exact Location.mem_outwards_iff.mp (Location.mem_outwards _)
        · exact List.rel_of_pairwise_cons from_found further

/-- A disk on which the working directory is in a repository that is marked by a link. In the
working directory itself there is only a link that leads nowhere. -/
def checkout : Disk where
  entries :=
    [(⟨["p"]⟩, .directory), (⟨["p", "src"]⟩, .directory), (⟨["store"]⟩, .directory),
      (⟨["p", ".git"]⟩, .link "../store"), (⟨["p", "src", ".git"]⟩, .link "gone")]
  workingDirectory := some ⟨["p", "src"]⟩

end Disk

/-! ## Settling a root directory -/

namespace Config

variable {disk : Disk} {config : Config} {given : Option String} {root : String}
  {directory location : Location}

/-- Where the root directory is: where the path that is given for it leads, or without one at the
nearest repository around the working directory, or if there is none at the working directory. -/
inductive RootAt (disk : Disk) : Option String → Location → Prop
  | given {path : String} {location : Location} (leads : disk.canonicalize path = .ok location) :
      RootAt disk (some path) location
  | repository {directory found : Location} (working : disk.workingDirectory = some directory)
      (nearest : disk.NearestRepository directory found) : RootAt disk none found
  | workingDirectory {directory : Location} (working : disk.workingDirectory = some directory)
      (no_repository : ∀ around, directory.isWithin around = true →
        ¬ disk.HoldsRepository around) : RootAt disk none directory

theorem chooseRoot_of_workingDirectory (working : disk.workingDirectory = some directory) :
    (chooseRoot disk.access none : Except Refusal String) =
      .ok ((repositoryAround disk.access directory.text : Option String).getD directory.text) := by
  have asked : (disk.access.workingDirectory : Except Cause Location) = .ok directory := by
    simp [Disk.access, working]
  simp only [chooseRoot, repository, bind, asked]
  cases (repositoryAround disk.access directory.text : Option String) with
  | none => rfl
  | some found => rfl

/-- Without a working directory there is a root directory only if one is given. -/
theorem isSome_workingDirectory_of_chooseRoot
    (chosen : (chooseRoot disk.access none : Except Refusal String) = .ok root) :
    ∃ directory, disk.workingDirectory = some directory := by
  cases working : disk.workingDirectory with
  | some directory => exact ⟨directory, rfl⟩
  | none =>
      have asked : (disk.access.workingDirectory : Except Cause Location) = .error .notFound := by
        simp [Disk.access, working]
      simp only [chooseRoot, repository, bind, asked] at chosen
      cases chosen

/-- The root directory that is chosen is the text of the location where it is. -/
theorem rootAt_of_chooseRoot (wellFormed : disk.WellFormed)
    (chosen : (chooseRoot disk.access given : Except Refusal String) = .ok root) :
    ∃ location, root = location.text ∧ RootAt disk given location := by
  cases given with
  | some given =>
      simp only [chooseRoot, bind] at chosen
      cases led : (disk.access.canonicalize given : Except Cause Location) with
      | error cause =>
          rw [led] at chosen
          cases chosen
      | ok location =>
          rw [led] at chosen
          cases chosen
          exact ⟨location, rfl, .given led⟩
  | none =>
      obtain ⟨directory, working⟩ := isSome_workingDirectory_of_chooseRoot chosen
      have proper := (wellFormed.workingDirectory_directory directory working).proper
      rw [chooseRoot_of_workingDirectory working] at chosen
      rcases disk.repositoryAround_cases proper with
        ⟨found, search, nearest⟩ | ⟨search, no_repository⟩
      · rw [search] at chosen
        cases chosen
        exact ⟨found, rfl, .repository working nearest⟩
      · rw [search] at chosen
        cases chosen
        exact ⟨directory, rfl, .workingDirectory working no_repository⟩

/-- The root directory stands where it is. -/
theorem RootAt.stands (wellFormed : disk.WellFormed) (h : RootAt disk given location) :
    disk.Stands location := by
  have working_directory := wellFormed.workingDirectory_directory
  cases h with
  | given leads => exact Disk.canonicalize_stands (Or.inr working_directory) leads
  | @repository directory _ working nearest =>
      exact .directory (Location.directory_of_mem_outwards (working_directory directory working)
        (Location.mem_outwards_iff.mpr nearest.around))
  | workingDirectory working => exact .directory (working_directory location working)

/-- A file system can be asked about the root directory if it can be asked about the working
directory. -/
theorem RootAt.fits (short : ∀ directory ∈ disk.workingDirectory, directory.Fits)
    (h : RootAt disk given location) : location.Fits := by
  cases h with
  | given leads => exact disk.kept_fits.locate (Or.inr short) leads
  | @repository directory _ working nearest =>
      exact (short directory working).of_mem_outwards
        (Location.mem_outwards_iff.mpr nearest.around)
  | workingDirectory working => exact short location working

/-- On a well-formed disk, the text of the root directory leads there exactly if it can be asked
about. -/
theorem RootAt.canonicalize_text (wellFormed : disk.WellFormed) (h : RootAt disk given location) :
    disk.canonicalize location.text =
      if location.Fits then .ok location else .error .nameTooLong :=
  have stands := h.stands wellFormed
  stands.canonicalize_text (wellFormed.nulFree_of_stands stands)

/-- What was settled is settled again in the same way if it can be asked about, and else
refused. -/
theorem chooseRoot_again (wellFormed : disk.WellFormed) (h : RootAt disk given location) :
    (chooseRoot disk.access (some location.text) : Except Refusal String) =
      if location.Fits then .ok location.text
      else .error (.invalidRoot location.text .nameTooLong) := by
  have asked : (disk.access.canonicalize location.text : Except Cause Location) = _ :=
    h.canonicalize_text wellFormed
  by_cases fits : location.Fits
  · rw [if_pos fits] at asked ⊢
    simp only [chooseRoot, bind, asked]
    rfl
  · rw [if_neg fits] at asked ⊢
    simp only [chooseRoot, bind, asked]
    rfl

/-- Settling the root directory of a configuration succeeds. -/
def Initialises (disk : Disk) (config : Config) : Prop :=
  (config.initialised disk.access : Except Refusal Unit × Config).1 = .ok ()

/-- What becomes of a configuration when its root directory is settled. -/
def settled (disk : Disk) (config : Config) : Config :=
  (config.initialised disk.access : Except Refusal Unit × Config).2

/-- A root directory can be settled if one can be chosen, and then it is the one that was
chosen. -/
theorem initialised_eq_ok_iff {settled : Config} :
    (config.initialised disk.access : Except Refusal Unit × Config) = (.ok (), settled) ↔
      ∃ root, (chooseRoot disk.access config.root : Except Refusal String) = .ok root ∧
        settled = { config with root := some root } := by
  simp only [initialised, bind]
  cases (chooseRoot disk.access config.root : Except Refusal String) with
  | error refusal =>
      constructor
      · intro h
        cases h
      · rintro ⟨_, chosen, _⟩
        cases chosen
  | ok root =>
      constructor
      · intro h
        cases h
        exact ⟨root, rfl, rfl⟩
      · rintro ⟨_, chosen, rfl⟩
        cases chosen
        rfl

/-- Whether a configuration initialises is a matter of the root directory that it asks for. -/
theorem initialises_iff : config.Initialises disk ↔
    ∃ root, (chooseRoot disk.access config.root : Except Refusal String) = .ok root := by
  constructor
  · intro h
    obtain ⟨root, chosen, _⟩ := initialised_eq_ok_iff.mp (Prod.ext h rfl)
    exact ⟨root, chosen⟩
  · rintro ⟨root, chosen⟩
    exact congrArg Prod.fst (initialised_eq_ok_iff.mpr ⟨root, chosen, rfl⟩)

theorem initialises_congr {other : Config} (same : other.root = config.root) :
    other.Initialises disk ↔ config.Initialises disk := by
  rw [initialises_iff, initialises_iff, same]

/-- So is the root directory that it has then. -/
theorem root_settled_congr {other : Config} (same : other.root = config.root) :
    (other.settled disk).root = (config.settled disk).root := by
  simp only [settled, initialised, bind, same]
  cases (chooseRoot disk.access config.root : Except Refusal String) with
  | error refusal => rfl
  | ok root => rfl

/-- A configuration that initialises asks for a root directory that can be chosen, and has it
then. -/
theorem Initialises.exists_settled_eq (h : config.Initialises disk) :
    ∃ root, (chooseRoot disk.access config.root : Except Refusal String) = .ok root ∧
      config.settled disk = { config with root := some root } :=
  initialised_eq_ok_iff.mp (Prod.ext h rfl)

/-- On a well-formed disk, what was initialised once initialises again exactly if its root
directory can be asked about. -/
theorem initialises_settled_iff (wellFormed : disk.WellFormed) (h : config.Initialises disk) :
    ∃ root, RootAt disk config.root root ∧
      config.settled disk = { config with root := some root.text } ∧
      ((config.settled disk).Initialises disk ↔ root.Fits) := by
  obtain ⟨text, chosen, settled_eq⟩ := h.exists_settled_eq
  obtain ⟨root, rfl, rootAt⟩ := rootAt_of_chooseRoot wellFormed chosen
  refine ⟨root, rootAt, settled_eq, ?_⟩
  have again := chooseRoot_again wellFormed rootAt
  rw [settled_eq, Initialises]
  by_cases fits : root.Fits
  · rw [if_pos fits] at again
    simp only [initialised, bind, again]
    exact iff_of_true rfl fits
  · rw [if_neg fits] at again
    simp only [initialised, bind, again]
    exact iff_of_false (fun succeeds => by cases succeeds) fits

/-- What arguments ask for that name one file only. -/
def unrooted : Config where
  entries := ["a.js"]
  root := none
  extensions := Extension.default
  dynamicImports := false
  keepGoing := false
  json := false

end Config

end ModuleGraph
