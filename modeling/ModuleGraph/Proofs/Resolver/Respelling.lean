import ModuleGraph.Proofs.Extension.NormalForm
import ModuleGraph.Proofs.Resolver.FirstMatch

/-!
# Spellings of one request

A specifier is not read until an extension has been written behind it. Then it is a path, and only
the steps of the path matter. So a dot before a relative specifier changes nothing that is tried,
and neither does a name that is left again at once, whether there is anything of that name or not
(`Resolver.candidates_here`, `Resolver.candidates_detour`). What is tried is clean, whatever the
specifier (`Resolver.isClean_of_mem_candidates`).
-/

namespace ModuleGraph

/-! ## Extensions -/

/-- A relative specifier is relative with any normal extension behind it, also if it is empty. -/
theorem Extension.isAbsolute_append {texts : List String} {extension specifier : String}
    (relative : Path.isAbsolute specifier = false) (h : extension ∈ normalise texts) :
    Path.isAbsolute (specifier ++ extension) = false := by
  rw [Path.isAbsolute, String.toList_append]
  cases letters : specifier.toList with
  | nil =>
      rcases (isNormal_of_mem_normalise h).empty_or_dot with rfl | dotted
      · rfl
      · rw [List.nil_append, dotted]
        rfl
  | cons first rest => simpa [Path.isAbsolute, letters] using relative

/-! ## Steps of other spellings -/

namespace Location

variable {path name : String}

theorem along_of_relative (directory : Location) (relative : Path.isAbsolute path = false) :
    directory.along path = (Path.steps path).foldl follow directory := by
  rw [along_eq, relative]
  rfl

/-- A dot leads nowhere else. -/
theorem along_here (directory : Location) (relative : Path.isAbsolute path = false) :
    directory.along ("./" ++ path) = directory.along path := by
  have dotted : Path.isAbsolute ("./" ++ path) = false := by
    simp [Path.isAbsolute]
  have same_steps : Path.steps ("./" ++ path) = Path.steps path :=
    Path.steps_append_slash "." path
  rw [along_of_relative directory dotted, along_of_relative directory relative, same_steps]

/-- A name that is left again leads nowhere else. -/
theorem along_detour (directory : Location) (isName : IsName name)
    (relative : Path.isAbsolute path = false) :
    directory.along (name ++ "/../" ++ path) = directory.along path := by
  have into : Path.isAbsolute (name ++ "/../" ++ path) = false := by
    rw [String.append_assoc]
    exact isName.isAbsolute_append _
  have one_step : Path.steps name = [.name name] := by
    have whole : Path.pieces name.toList = [name.toList] := by
      apply List.splitOnP_eq_singleton
      intro letter listed
      exact beq_eq_false_iff_ne.mpr fun same => isName.no_slash (same ▸ listed)
    rw [Path.steps, whole, List.filterMap_cons, isName.componentOf?_eq]
    rfl
  have detour : Path.steps (name ++ "/../" ++ path) =
      .name name :: .parent :: Path.steps path := by
    have cut : name ++ "/../" ++ path = name ++ "/" ++ (".." ++ "/" ++ path) := by
      apply String.toList_inj.mp
      simp
    rw [cut, Path.steps_append_slash, Path.steps_append_slash, one_step]
    rfl
  rw [along_of_relative directory into, along_of_relative directory relative, detour,
    List.foldl_cons, List.foldl_cons]
  exact congrArg (List.foldl follow · (Path.steps path)) (parent_child directory name)

end Location

namespace Resolver

variable {texts : List String} {specifier name : String}

/-- With a dot before a relative specifier the same is tried. -/
theorem candidates_here (directory : Location) (relative : Path.isAbsolute specifier = false) :
    candidates (Extension.normalise texts) directory ("./" ++ specifier) =
      candidates (Extension.normalise texts) directory specifier := by
  apply List.map_congr_left
  intro extension listed
  rw [String.append_assoc]
  exact directory.along_here (Extension.isAbsolute_append relative listed)

/-- With a name before it that is left again the same is tried. -/
theorem candidates_detour (directory : Location) (isName : Location.IsName name)
    (relative : Path.isAbsolute specifier = false) :
    candidates (Extension.normalise texts) directory (name ++ "/../" ++ specifier) =
      candidates (Extension.normalise texts) directory specifier := by
  apply List.map_congr_left
  intro extension listed
  rw [String.append_assoc]
  exact directory.along_detour isName (Extension.isAbsolute_append relative listed)

/-- Whatever is tried for a specifier is clean. -/
theorem isClean_of_mem_candidates {extensions : List String} {directory candidate : Location}
    (proper : directory.Proper) (h : candidate ∈ candidates extensions directory specifier) :
    Path.IsClean candidate.text := by
  obtain ⟨extension, _, rfl⟩ := List.mem_map.mp h
  exact (proper.along (specifier ++ extension)).isClean

/-- What becomes of a specifier is settled by what is tried, other than for its own name. -/
theorem resolve_of_candidates (disk : Disk) (extensions : List String) (file : Location)
    (tried : List Location) :
    (∃ found, ∀ specifier, candidates extensions file.parent specifier = tried →
      disk.access.resolve extensions file specifier = .ok found) ∨
    (∀ specifier, candidates extensions file.parent specifier = tried →
      disk.access.resolve extensions file specifier =
        .error (.unresolved specifier file.text tried)) ∨
    ∃ candidate ∈ tried, disk.isFile candidate.text = true ∧
      ∀ specifier, candidates extensions file.parent specifier = tried →
        disk.access.resolve extensions file specifier =
          .error (.unreadable candidate.text .nameTooLong) := by
  cases first : tried.find? fun candidate => disk.isFile candidate.text with
  | none =>
      right
      left
      intro specifier same
      rw [Disk.resolve_eq, same, first]
  | some candidate =>
      have isFile : disk.isFile candidate.text = true := by
        simpa using List.find?_some first
      rcases Disk.canonicalize_of_isFile isFile with ⟨found, _, led, _⟩ | long
      · left
        refine ⟨found, ?_⟩
        intro specifier same
        simp only [Disk.resolve_eq, same, first, led, Except.mapError]
      · right
        right
        refine ⟨candidate, List.mem_of_find?_eq_some first, isFile, ?_⟩
        intro specifier same
        simp only [Disk.resolve_eq, same, first, long, Except.mapError]

/-- The spellings of a request with a dot before it, and with a name before it that is left
again. -/
def spellings (specifier name : String) : List String :=
  [specifier, "./" ++ specifier, name ++ "/../" ++ specifier]

/-- Relative specifiers that differ in a dot, or in a name that is left again, are answered alike,
whenever a resolver is asked for them: they lead to the same file, or none of them leads anywhere
and the same was tried for all, or what was found for all of them is one file that is too deep.
Whatever is tried for any specifier is a clean path. -/
theorem respelling (disk : Disk) (texts : List String) {file : Location} (proper : file.Proper) :
    (∀ specifier name, Path.isAbsolute specifier = false → Location.IsName name →
      (∃ found, ∀ spelling ∈ spellings specifier name, ∀ calls,
        answer disk texts calls file spelling = .ok found) ∨
      (∃ tried, ∀ spelling ∈ spellings specifier name, ∀ calls,
        answer disk texts calls file spelling =
          .error (.unresolved spelling file.text tried)) ∨
      ∃ candidate ∈ candidates (Extension.normalise texts) file.parent specifier,
        disk.isFile candidate.text = true ∧
        ∀ spelling ∈ spellings specifier name, ∀ calls,
          answer disk texts calls file spelling =
            .error (.unreadable candidate.text .nameTooLong)) ∧
    ∀ specifier, ∀ candidate ∈ candidates (Extension.normalise texts) file.parent specifier,
      Path.IsClean candidate.text := by
  simp only [answer_eq]
  constructor
  · intro specifier name relative isName
    have alike : ∀ spelling ∈ spellings specifier name,
        candidates (Extension.normalise texts) file.parent spelling =
          candidates (Extension.normalise texts) file.parent specifier := by
      simp only [spellings, List.forall_mem_cons]
      exact ⟨trivial, candidates_here file.parent relative,
        candidates_detour file.parent isName relative, fun _ absent => nomatch absent⟩
    rcases resolve_of_candidates disk (Extension.normalise texts) file
        (candidates (Extension.normalise texts) file.parent specifier) with
      ⟨found, leads⟩ | unresolved | ⟨candidate, tried, isFile, deep⟩
    · left
      exact ⟨found, fun spelling listed _ => leads spelling (alike spelling listed)⟩
    · right
      left
      exact ⟨_, fun spelling listed _ => unresolved spelling (alike spelling listed)⟩
    · right
      right
      exact ⟨candidate, tried, isFile,
        fun spelling listed _ => deep spelling (alike spelling listed)⟩
  · intro specifier candidate listed
    exact isClean_of_mem_candidates proper.parent listed

theorem respelling_overlap :
    (∀ calls, answer Disk.overlap [] calls ⟨["e.js"]⟩ "nowhere/../a" = .ok ⟨["d", "b.js"]⟩) ∧
      ∀ candidate ∈ candidates (Extension.normalise []) .root "..//.././a/",
        Path.IsClean candidate.text := by
  have proper : Location.Proper ⟨["e.js"]⟩ := by decide
  have isName : Location.IsName "nowhere" := by decide
  obtain ⟨alike, clean⟩ := respelling Disk.overlap [] proper
  constructor
  · intro calls
    have plain : answer Disk.overlap [] [] ⟨["e.js"]⟩ "a" = .ok ⟨["d", "b.js"]⟩ := by
      decide +kernel
    have plain_mem : "a" ∈ spellings "a" "nowhere" := by decide
    rcases alike "a" "nowhere" (by decide) isName with
      ⟨found, leads⟩ | ⟨tried, unresolved⟩ | ⟨candidate, _, _, deep⟩
    · cases (leads "a" plain_mem []).symm.trans plain
      exact leads "nowhere/../a" (by decide) calls
    · cases (unresolved "a" plain_mem []).symm.trans plain
    · cases (deep "a" plain_mem []).symm.trans plain
  · exact clean "..//.././a/"

/-- Spellings can fail alike without saying what was tried. -/
theorem respelling_too_deep :
    (spellings "l/l/x" "y").map (answer Disk.shaft [] [] ⟨["m.js"]⟩) =
      List.replicate 3 (.error (.unreadable "/l/l/x.js" .nameTooLong)) := by
  have deep : ∀ spelling ∈ spellings "l/l/x" "y",
      answer Disk.shaft [] [] ⟨["m.js"]⟩ spelling =
        .error (.unreadable "/l/l/x.js" .nameTooLong) := by
    intro spelling listed
    rw [answer_eq]
    apply Disk.resolve_shaft
    revert spelling
    decide +kernel
  exact List.map_eq_replicate_iff.mpr deep

end Resolver

end ModuleGraph
