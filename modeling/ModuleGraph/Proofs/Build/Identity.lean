import ModuleGraph.Proofs.Build.Graphs
import ModuleGraph.Proofs.Disk.Depth

/-!
# Locations identify files

The locations that paths and requests are turned into (`Disk.Found`) can stand for the files that
are there. However a file is spelled, and through whatever links, it is turned into one and the
same location, whose text is an absolute path without links in it and leads to the file itself
(`Disk.locations_identify_files`). So no file is in a graph twice.

There is one exception. A text that is too long leads nowhere, not even that of a location to which
some path leads. Such a path is relative, and the working directory is too deep as well
(`Disk.locations_identify_files_too_deep`).
-/

namespace ModuleGraph

/-- A disk with many ways to one file: through a link in the directory where it is asked for,
through an absolute link, and through links to links, with dots behind them. Two links lead
nowhere. -/
def Disk.maze : Disk where
  entries :=
    [(⟨["d"]⟩, .directory), (⟨["d", "sub"]⟩, .directory),
      (⟨["e.js"]⟩, .file (.text "require('./m'); require('./c/a'); require('d/abs/a');")),
      (⟨["d", "sub", "a.js"]⟩, .file (.text "require('../../l/../../e');")),
      (⟨["l"]⟩, .link "d/sub"), (⟨["d", "abs"]⟩, .link "/d/sub"), (⟨["c"]⟩, .link "d/../l"),
      (⟨["m.js"]⟩, .link "c/../abs/a.js"), (⟨["gone.js"]⟩, .link "nowhere"),
      (⟨["loop.js"]⟩, .link "./loop.js")]
  workingDirectory := some ⟨["d", "sub"]⟩

/-- What a build finds on that disk. -/
def Disk.mazeOutcome : Outcome where
  graph := ⟨[(⟨["e.js"]⟩, [⟨["d", "sub", "a.js"]⟩, ⟨["d", "sub", "a.js"]⟩, ⟨["d", "sub", "a.js"]⟩]),
    (⟨["d", "sub", "a.js"]⟩, [⟨["e.js"]⟩])]⟩
  cycles := [⟨[⟨["e.js"]⟩, ⟨["d", "sub", "a.js"]⟩, ⟨["e.js"]⟩]⟩]
  failures := []

namespace Disk

/-- The locations that paths are turned into, and requests by a resolver that has found nothing
yet. -/
inductive Found (disk : Disk) : Location → Prop
  | path {path : String} {location : Location} (led : disk.canonicalize path = .ok location) :
      Found disk location
  | request {extensions : List String} {file found : Location} {specifier : String}
      (led : ((Resolver.fresh extensions).target disk.access file specifier :
        Except Failure Location × Resolver).1 = .ok found) : Found disk found

variable {disk : Disk} {location file found : Location} {path specifier : String}

theorem target_fresh_eq_ok_iff {extensions : List String} :
    ((Resolver.fresh extensions).target disk.access file specifier :
      Except Failure Location × Resolver).1 = .ok found ↔
    disk.access.resolve (Extension.normalise extensions) file specifier = .ok found := by
  rw [Resolver.target_of_unknown disk.access rfl]
  rfl

theorem stands_of_canonicalize (wellFormed : disk.WellFormed)
    (led : disk.canonicalize path = .ok location) : disk.Stands location :=
  canonicalize_stands (Or.inr wellFormed.workingDirectory_directory) led

theorem Found.stands (wellFormed : disk.WellFormed) (h : disk.Found location) :
    disk.Stands location := by
  cases h with
  | path led => exact stands_of_canonicalize wellFormed led
  | request led => exact stands_of_resolve (target_fresh_eq_ok_iff.mp led)

/-- A request is turned into the location of a file, which is the file of one of its candidates. -/
theorem exists_candidate_of_resolve (wellFormed : disk.WellFormed) {extensions : List String}
    (led : disk.access.resolve extensions file specifier = .ok found) :
    disk.canonicalize found.text = .ok found ∧
      ∃ candidate ∈ Resolver.candidates extensions file.parent specifier,
        disk.SameFile candidate.text found.text := by
  have stands := stands_of_resolve led
  obtain ⟨candidate, first, leads⟩ := Access.resolve_eq_ok_iff.mp led
  obtain ⟨present, _⟩ := Resolver.isFile_of_firstFile first
  exact ⟨canonicalize_canonicalize wellFormed (Or.inl candidate.isAbsolute_text) leads,
    candidate, present, sameFile_text stands (wellFormed.nulFree_of_stands stands) leads⟩

/-- The locations that are found are equal exactly if their texts name the same file. -/
theorem Found.eq_iff_sameFile (wellFormed : disk.WellFormed) {other : Location}
    (h : disk.Found location) (h' : disk.Found other) :
    location = other ↔ disk.SameFile location.text other.text := by
  have stands := h.stands wellFormed
  have stands' := h'.stands wellFormed
  exact stands.sameFile_iff (wellFormed.nulFree_of_stands stands) stands'
    (wellFormed.nulFree_of_stands stands')

/-- A dependency is what a request in a file is turned into. -/
theorem found_of_dependsOn [Source.Parser] {options : Options}
    (h : (disk.access.answers options).DependsOn file location) :
    disk.Found location ∧ ∃ content, disk.entry? location = some (.file content) := by
  obtain ⟨request, led⟩ := Answers.exists_target_of_mem_targets _ h
  have resolved : disk.access.resolve (Extension.normalise options.extensions) file request =
      .ok location := led
  exact ⟨.request (target_fresh_eq_ok_iff.mpr resolved), entry?_of_resolve resolved⟩

/-- The files of a graph are locations that are found, each there once, and all but the first are
regular files. -/
theorem found_of_build [Source.Parser] {options : Options} {outcome : Outcome}
    (h : (options.build disk.access path : Build).result = .ok outcome) :
    (∀ file ∈ outcome.graph.files, disk.Found file) ∧ outcome.graph.files.Nodup ∧
      ∃ entry, disk.canonicalize path = .ok entry ∧ ∀ file ∈ outcome.graph.files, file ≠ entry →
        ∃ content, disk.entry? file = some (.file content) := by
  obtain ⟨entry, walk, leads, steps, ended, rfl, _⟩ := Options.exists_walk_of_build h
  have exact_walk := steps.exact ended
  have of_other (file : Location) (present : file ∈ walk.record.graph.files)
      (other : file ≠ entry) :
      disk.Found file ∧ ∃ content, disk.entry? file = some (.file content) := by
    rcases ((exact_walk.mem_iff file).mp present).cases_tail with same | ⟨source, _, depends⟩
    · exact absurd same other
    · exact found_of_dependsOn depends
  refine ⟨?_, exact_walk.nodup, entry, leads,
    fun file present other => (of_other file present other).2⟩
  intro file present
  by_cases same : file = entry
  · rw [same]
    exact .path leads
  · exact (of_other file present same).1

/-- On a well-formed disk, the locations that paths and requests are turned into identify files.
They are absolute, no link is on the way to them, and their texts lead back to them unless they are
too long to be asked about. That can be so only for a relative path in a working directory that is
too deep itself. A path is turned into the location of the file that it names, a request into that
of the file that one of its candidates names, and two of these locations are equal exactly if they
name the same file. So no two files of a graph are the same, and all but perhaps the entry are
regular files. -/
theorem locations_identify_files [Source.Parser] (wellFormed : disk.WellFormed) :
    (∀ path location, disk.canonicalize path = .ok location →
      disk.Unlinked location ∧ disk.SameFile path location.text ∧
      disk.canonicalize location.text =
        (if location.Fits then .ok location else .error .nameTooLong) ∧
      ((Path.isAbsolute path = true ∨ ∀ directory ∈ disk.workingDirectory, directory.Fits) →
        location.Fits)) ∧
    (∀ extensions file specifier found,
      ((Resolver.fresh extensions).target disk.access file specifier :
        Except Failure Location × Resolver).1 = .ok found →
      disk.Unlinked found ∧ disk.canonicalize found.text = .ok found ∧
      ∃ candidate ∈ Resolver.candidates (Extension.normalise extensions) file.parent specifier,
        disk.SameFile candidate.text found.text) ∧
    (∀ one other, disk.Found one → disk.Found other →
      (one = other ↔ disk.SameFile one.text other.text)) ∧
    ∀ options path outcome, (Options.build disk.access options path : Build).result = .ok outcome →
      (∀ file ∈ outcome.graph.files, disk.Found file) ∧
      outcome.graph.files.Pairwise (fun one other => ¬ disk.SameFile one.text other.text) ∧
      ∃ entry, disk.canonicalize path = .ok entry ∧ ∀ file ∈ outcome.graph.files, file ≠ entry →
        ∃ content, disk.entry? file = some (.file content) := by
  refine ⟨?_, ?_, ?_, ?_⟩
  · intro path location leads
    have stands := stands_of_canonicalize wellFormed leads
    have nulFree := wellFormed.nulFree_of_stands stands
    exact ⟨stands.unlinked, sameFile_text stands nulFree leads, stands.canonicalize_text nulFree,
      fun short => disk.kept_fits.locate short leads⟩
  · intro extensions file specifier found led
    have resolved := target_fresh_eq_ok_iff.mp led
    exact ⟨(stands_of_resolve resolved).unlinked, exists_candidate_of_resolve wellFormed resolved⟩
  · intro one other is_found is_found'
    exact is_found.eq_iff_sameFile wellFormed is_found'
  · intro options path outcome built
    obtain ⟨all_found, nodup, others⟩ := found_of_build built
    refine ⟨all_found, ?_, others⟩
    refine nodup.imp_of_mem fun present present' apart same_file => apart ?_
    exact (Found.eq_iff_sameFile wellFormed (all_found _ present) (all_found _ present')).mpr
      same_file

theorem locations_identify_files_maze :
    maze.WellFormed ∧ maze.canonicalize "../abs/../../e.js" = .ok ⟨["e.js"]⟩ ∧
      maze.canonicalize "/m.js" = .ok ⟨["d", "sub", "a.js"]⟩ ∧
      maze.canonicalize "/loop.js" = .error .tooManyLinks ∧
      maze.canonicalize "/gone.js" = .error .notFound ∧
      maze.Unlinked ⟨["d", "sub", "a.js"]⟩ ∧ maze.SameFile "/m.js" "/d/sub/a.js" ∧
      ¬ maze.SameFile "/e.js" "/d/sub/a.js" ∧
      (Options.standard.build maze.access "../abs/../../e.js" : Build).result = .ok mazeOutcome ∧
      ∀ file ∈ mazeOutcome.graph.files, maze.Found file := by
  have wellFormed : maze.WellFormed := by decide +kernel
  have entry : maze.canonicalize "../abs/../../e.js" = .ok ⟨["e.js"]⟩ := by decide +kernel
  have spelled : maze.canonicalize "/m.js" = .ok ⟨["d", "sub", "a.js"]⟩ := by decide +kernel
  have built : (Options.standard.build maze.access "../abs/../../e.js" : Build).result =
      .ok mazeOutcome := by decide +kernel
  obtain ⟨paths, _, equal_iff, builds⟩ := locations_identify_files wellFormed
  obtain ⟨unlinked, same_file, _⟩ := paths _ _ spelled
  obtain ⟨all_found, _, _⟩ := builds _ _ _ built
  refine ⟨wellFormed, entry, spelled, by decide +kernel, by decide +kernel, unlinked, same_file, ?_,
    built, all_found⟩
  intro same
  have equal := (equal_iff ⟨["e.js"]⟩ ⟨["d", "sub", "a.js"]⟩ (.path entry) (.path spelled)).mpr same
  revert equal
  decide

/-- In a working directory that is too deep, the location that a path leads to need not be found
again by its text. -/
theorem locations_identify_files_too_deep :
    abyss.WellFormed ∧ ¬ ∀ path location, abyss.canonicalize path = .ok location →
      abyss.canonicalize location.text = .ok location := by
  refine ⟨abyss_wellFormed, fun again => ?_⟩
  obtain ⟨leads, lost⟩ := abyss_too_deep
  cases lost.symm.trans (again "." _ leads)

end Disk

end ModuleGraph
