import ModuleGraph.Proofs.Disk.Depth
import ModuleGraph.Proofs.Path.Cleaning

/-!
# The first match wins

What a resolver answers is told here from the text of the paths that it tries. For each extension
there is one of them (`Path.attempt`), and the first that leads to a file decides
(`Disk.FirstMatch`). What the resolver was asked before does not matter as long as the disk stays
as it is: one call changes no answer, so no number of calls does (`Resolver.target_after`).

The file that is first is located, and then `Resolver.first_match_wins` says where. It may be too
deep for that. There is no other way to fail than this and that there is no file at all.
-/

namespace ModuleGraph

/-- What is tried for a specifier in a file with an extension: the path behind the directory of the
file, cleaned by its text. -/
def Path.attempt (file specifier extension : String) : String :=
  clean (join ((parent? file).getD file) (specifier ++ extension))

/-- The first of some extensions with which what is tried leads to a file. -/
def Disk.FirstMatch (disk : Disk) (extensions : List String) (file specifier extension : String) :
    Prop :=
  ∃ before after, extensions = before ++ extension :: after ∧
    (∀ earlier ∈ before, disk.isFile (Path.attempt file specifier earlier) = false) ∧
    disk.isFile (Path.attempt file specifier extension) = true

/-- The failure of the same request in another file. -/
def Failure.inFile (path : String) : Failure → Failure
  | unresolved specifier _ tried => unresolved specifier path tried
  | failure => failure

/-- A disk on which a specifier can be many things: a directory and a link that leads back to
itself have the first extension, a link to a file has the second one. -/
def Disk.overlap : Disk where
  entries :=
    [(⟨["e.js"]⟩, .file (.text "")), (⟨["a.ts"]⟩, .directory), (⟨["a.js"]⟩, .link "d/b.js"),
      (⟨["c.ts"]⟩, .link "c.ts"), (⟨["d"]⟩, .directory), (⟨["d", "b.js"]⟩, .file (.text ""))]
  workingDirectory := some .root

namespace Resolver

/-! ## What was asked before -/

/-- A resolver that was asked for some specifiers in some files. -/
def after (access : Access Id) (calls : List (Location × String)) (resolver : Resolver) :
    Resolver :=
  calls.foldl (fun resolver call => (resolver.target access call.1 call.2).2) resolver

/-- What a resolver for some extensions answers after it was asked other things. -/
def answer (disk : Disk) (texts : List String) (calls : List (Location × String))
    (file : Location) (specifier : String) : Except Failure Location :=
  (((fresh texts).after disk.access calls).target disk.access file specifier :
    Except Failure Location × Resolver).1

/-- No calls change an answer. -/
theorem target_after (access : Access Id) (calls : List (Location × String)) (resolver : Resolver)
    (file : Location) (specifier : String) :
    ((resolver.after access calls).target access file specifier :
        Except Failure Location × Resolver).1 =
      (resolver.target access file specifier : Except Failure Location × Resolver).1 := by
  induction calls generalizing resolver with
  | nil => rfl
  | cons call calls ih =>
      rw [after, List.foldl_cons]
      exact (ih _).trans (target_of_target access resolver call.1 file call.2 specifier)

/-- A resolver answers what the disk says, whatever it was asked before. -/
theorem answer_eq (disk : Disk) (texts : List String) (calls : List (Location × String))
    (file : Location) (specifier : String) :
    answer disk texts calls file specifier =
      disk.access.resolve (Extension.normalise texts) file specifier := by
  rw [answer, target_after, target_of_unknown disk.access rfl]
  rfl

end Resolver

/-! ## What is tried -/

namespace Disk

variable {disk : Disk} {file : Location} {extensions : List String} {specifier : String}

theorem text_candidate (proper : file.Proper) (specifier extension : String) :
    (file.parent.along (specifier ++ extension)).text =
      Path.attempt file.text specifier extension := by
  rw [proper.parent.text_along, Path.attempt, proper.getD_parent?_text]

theorem firstMatch_iff {extension : String} :
    disk.FirstMatch extensions file.text specifier extension ↔
      (extensions.find? fun extension =>
        disk.isFile (Path.attempt file.text specifier extension)) = some extension := by
  rw [List.find?_eq_some_iff_append, FirstMatch]
  constructor
  · rintro ⟨before, after, listed, none_before, isFile⟩
    exact ⟨isFile, before, after, listed, by simpa using none_before⟩
  · rintro ⟨isFile, before, after, listed, none_before⟩
    exact ⟨before, after, listed, by simpa using none_before, isFile⟩

/-- A specifier leads where the file is of the first extension with which what is tried is one. -/
theorem resolve_eq_match (proper : file.Proper) :
    disk.access.resolve extensions file specifier =
      match extensions.find? fun extension =>
          disk.isFile (Path.attempt file.text specifier extension) with
      | none => .error (.unresolved specifier file.text
          (Resolver.candidates extensions file.parent specifier))
      | some extension =>
        (disk.canonicalize (Path.attempt file.text specifier extension)).mapError
          (.unreadable (Path.attempt file.text specifier extension)) := by
  have first : (Resolver.candidates extensions file.parent specifier).find?
        (fun candidate => disk.isFile candidate.text) =
      (extensions.find? fun extension =>
        disk.isFile (Path.attempt file.text specifier extension)).map fun extension =>
          file.parent.along (specifier ++ extension) := by
    have tried : ((fun candidate : Location => disk.isFile candidate.text) ∘
        fun extension => file.parent.along (specifier ++ extension)) =
          fun extension => disk.isFile (Path.attempt file.text specifier extension) := by
      funext extension
      exact congrArg disk.isFile (text_candidate proper specifier extension)
    rw [Resolver.candidates, List.find?_map, tried]
  rw [resolve_eq, first]
  cases extensions.find? fun extension =>
      disk.isFile (Path.attempt file.text specifier extension) with
  | none => rfl
  | some extension => simp only [Option.map_some, text_candidate proper]

/-! ## What is answered -/

theorem resolve_ok_iff_firstMatch (proper : file.Proper) {found : Location} :
    disk.access.resolve extensions file specifier = .ok found ↔
      ∃ extension, disk.FirstMatch extensions file.text specifier extension ∧
        disk.canonicalize (Path.attempt file.text specifier extension) = .ok found := by
  rw [resolve_eq_match proper]
  simp only [firstMatch_iff]
  cases first : extensions.find? fun extension =>
      disk.isFile (Path.attempt file.text specifier extension) with
  | none => simp
  | some extension =>
      cases led : disk.canonicalize (Path.attempt file.text specifier extension) with
      | error cause => simp [led, Except.mapError]
      | ok location => simp [led, Except.mapError]

theorem resolve_error_iff_firstMatch (proper : file.Proper) {failure : Failure} :
    disk.access.resolve extensions file specifier = .error failure ↔
      (∀ extension ∈ extensions,
          disk.isFile (Path.attempt file.text specifier extension) = false) ∧
        failure = .unresolved specifier file.text
          (Resolver.candidates extensions file.parent specifier) ∨
      ∃ extension, disk.FirstMatch extensions file.text specifier extension ∧
        disk.canonicalize (Path.attempt file.text specifier extension) = .error .nameTooLong ∧
        failure = .unreadable (Path.attempt file.text specifier extension) .nameTooLong := by
  rw [resolve_eq_match proper]
  simp only [firstMatch_iff]
  cases first : extensions.find? fun extension =>
      disk.isFile (Path.attempt file.text specifier extension) with
  | none =>
      have unmatched : ∀ extension ∈ extensions,
          disk.isFile (Path.attempt file.text specifier extension) = false := by
        simpa using first
      constructor
      · intro unresolved
        cases unresolved
        exact .inl ⟨unmatched, rfl⟩
      · rintro (⟨_, rfl⟩ | ⟨_, found, _⟩)
        · rfl
        · cases found
  | some extension =>
      have isFile : disk.isFile (Path.attempt file.text specifier extension) = true := by
        simpa using List.find?_some first
      have matched : ¬ ∀ extension ∈ extensions,
          disk.isFile (Path.attempt file.text specifier extension) = false := by
        intro unmatched
        cases isFile.symm.trans (unmatched extension (List.mem_of_find?_eq_some first))
      rcases canonicalize_of_isFile isFile with ⟨location, _, led, _⟩ | long
      · simp only [led, Except.mapError]
        apply iff_of_false (by simp)
        rintro (⟨unmatched, _⟩ | ⟨_, same, deep, _⟩)
        · exact matched unmatched
        · cases same
          cases led.symm.trans deep
      · simp only [long, Except.mapError]
        constructor
        · intro deep
          cases deep
          exact .inr ⟨extension, rfl, long, rfl⟩
        · rintro (⟨unmatched, _⟩ | ⟨_, same, _, rfl⟩)
          · exact absurd unmatched matched
          · cases same
            rfl

/-- In another file of the same directory a request leads to the same file, or fails as it does
here. -/
theorem resolve_inFile {other : Location} (same : other.parent = file.parent) :
    disk.access.resolve extensions other specifier =
      (disk.access.resolve extensions file specifier).mapError (Failure.inFile other.text) := by
  rw [Access.resolve, Access.resolve, same]
  cases (Resolver.firstFile disk.access
      (Resolver.candidates extensions file.parent specifier) : Option Location) with
  | none => rfl
  | some candidate =>
      cases led : (disk.access.canonicalize candidate.text : Except Cause Location) with
      | error cause => simp [led, Except.mapError, Failure.inFile]
      | ok found => simp [led, Except.mapError]

end Disk

namespace Resolver

/-- On a disk that stays as it is, a resolver answers as if it was asked for the first time. A
specifier leads to a file exactly if with some extension what is tried is one, and then the first
such extension decides, unless the file is too deep. It fails if there is no such extension, and
then everything was tried, in the order of the extensions, or if that file is too deep. The file
in which the specifier stands matters by its directory alone, other than for the words of the
failure. -/
theorem first_match_wins (disk : Disk) (texts : List String) (calls : List (Location × String))
    {file : Location} (proper : file.Proper) (specifier : String) :
    (∀ found, answer disk texts calls file specifier = .ok found ↔
      ∃ extension, disk.FirstMatch (Extension.normalise texts) file.text specifier extension ∧
        disk.canonicalize (Path.attempt file.text specifier extension) = .ok found) ∧
    (∀ failure, answer disk texts calls file specifier = .error failure ↔
      (∀ extension ∈ Extension.normalise texts,
          disk.isFile (Path.attempt file.text specifier extension) = false) ∧
        failure = .unresolved specifier file.text
          (candidates (Extension.normalise texts) file.parent specifier) ∨
      ∃ extension, disk.FirstMatch (Extension.normalise texts) file.text specifier extension ∧
        disk.canonicalize (Path.attempt file.text specifier extension) = .error .nameTooLong ∧
        failure = .unreadable (Path.attempt file.text specifier extension) .nameTooLong) ∧
    (candidates (Extension.normalise texts) file.parent specifier).map Location.text =
      (Extension.normalise texts).map (Path.attempt file.text specifier) ∧
    ∀ other calls', other.parent = file.parent →
      answer disk texts calls' other specifier =
        (answer disk texts calls file specifier).mapError (Failure.inFile other.text) := by
  simp only [answer_eq]
  refine ⟨?_, ?_, ?_, ?_⟩
  · intro found
    exact Disk.resolve_ok_iff_firstMatch proper
  · intro failure
    exact Disk.resolve_error_iff_firstMatch proper
  · rw [candidates, List.map_map]
    apply List.map_congr_left
    intro extension _
    exact Disk.text_candidate proper specifier extension
  · intro other _ same
    exact Disk.resolve_inFile same

theorem first_match_wins_overlap :
    answer Disk.overlap [".ts", "js"] [(⟨["e.js"]⟩, "./c"), (⟨["d.js"]⟩, "a")] ⟨["e.js"]⟩
        "./x/../a" = .ok ⟨["d", "b.js"]⟩ ∧
      answer Disk.overlap [".ts", "js"] [] ⟨["e.js"]⟩ "./c" =
        .error (.unresolved "./c" "/e.js" [⟨["c.ts"]⟩, ⟨["c.js"]⟩]) ∧
      answer Disk.overlap [".ts", "js"] [(⟨["e.js"]⟩, "./c")] ⟨["f.js"]⟩ "./c" =
        .error (.unresolved "./c" "/f.js" [⟨["c.ts"]⟩, ⟨["c.js"]⟩]) := by
  have proper : Location.Proper ⟨["e.js"]⟩ := by decide
  have normal : Extension.normalise [".ts", "js"] = [".ts", ".js"] := by decide +kernel
  obtain ⟨found_iff, _⟩ := first_match_wins Disk.overlap [".ts", "js"]
    [(⟨["e.js"]⟩, "./c"), (⟨["d.js"]⟩, "a")] proper "./x/../a"
  obtain ⟨_, fails_iff, _, beside⟩ :=
    first_match_wins Disk.overlap [".ts", "js"] [] proper "./c"
  have fails : answer Disk.overlap [".ts", "js"] [] ⟨["e.js"]⟩ "./c" =
      .error (.unresolved "./c" "/e.js" [⟨["c.ts"]⟩, ⟨["c.js"]⟩]) := by
    apply (fails_iff _).mpr
    rw [normal]
    exact .inl ⟨by decide +kernel, by decide +kernel⟩
  refine ⟨?_, fails, ?_⟩
  · apply (found_iff _).mpr
    rw [normal]
    exact ⟨".js", ⟨[".ts"], [], rfl, by decide +kernel, by decide +kernel⟩, by decide +kernel⟩
  · rw [beside ⟨["f.js"]⟩ _ rfl, fails]
    rfl

/-- A specifier with which a file is tried can still lead nowhere. -/
theorem first_match_too_deep :
    Disk.shaft.isFile (Path.attempt "/m.js" "./l/l/x" ".js") = true ∧
      answer Disk.shaft [] [] ⟨["m.js"]⟩ "./l/l/x" =
        .error (.unreadable "/l/l/x.js" .nameTooLong) := by
  obtain ⟨isFile, _⟩ := Disk.shaft_too_deep
  have tried : Path.attempt "/m.js" "./l/l/x" ".js" = "/l/l/x.js" := by decide +kernel
  refine ⟨by rw [tried, isFile], ?_⟩
  rw [answer_eq]
  exact Disk.resolve_shaft (by decide +kernel)

end Resolver

end ModuleGraph
