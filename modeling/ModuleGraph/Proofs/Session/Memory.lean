import Mathlib.Data.List.Perm.Subperm
import ModuleGraph.Proofs.Disk.Resolution
import ModuleGraph.Proofs.Session.Table
import ModuleGraph.Proofs.Walk.Order

/-!
# What a session remembers

A session remembers the first success and nothing else. To say so without looking into the session,
the questions that walks ask are listed, each with the disk on which it was asked. From such a list
one reads off the first reading of a file that succeeded, `Asked.reading?`, and the first
resolution of a specifier in a directory that did, `Asked.resolution?`.

`Session.Remembers` says that these are what a session knows. Every question keeps it so, whether
it is answered from memory, from the disk, or with a failure, and so does every walk
(`Session.Remembers.whole`), also one that is given up.
-/

namespace ModuleGraph

/-! ## Answers -/

namespace Session

variable [Source.Parser]

/-- A session answers a question for the requests of a file from memory or else from the disk, and
remembers the answer. -/
theorem answers_imports (access : Access Id) (session : Session) (file : Location) :
    (answers access).imports file session =
      (recalled session.extractor.known file (access.requests session.extractor.dynamic file),
        { session with
          extractor.known := memoised session.extractor.known file
            (access.requests session.extractor.dynamic file) }) := by
  simp only [answers, bind]
  cases known : session.extractor.known.lookup file with
  | some specifiers =>
      rw [Extractor.imports_of_known access known, recalled_of_some known, memoised_of_some known]
      rfl
  | none =>
      rw [Extractor.imports_of_unknown access known, recalled_of_none known,
        memoised_of_none known]
      cases access.requests session.extractor.dynamic file <;> rfl

/-- A session answers a question for where a specifier leads in the same way. -/
theorem answers_target (access : Access Id) (session : Session) (file : Location)
    (specifier : String) :
    (answers access).target file specifier session =
      (recalled session.resolver.known (file.parent, specifier)
        (access.resolve session.resolver.extensions file specifier),
        { session with
          resolver.known := memoised session.resolver.known (file.parent, specifier)
            (access.resolve session.resolver.extensions file specifier) }) := by
  simp only [answers, bind]
  cases known : session.resolver.known.lookup (file.parent, specifier) with
  | some found =>
      rw [Resolver.target_of_known access known, recalled_of_some known, memoised_of_some known]
      rfl
  | none =>
      rw [Resolver.target_of_unknown access known, recalled_of_none known, memoised_of_none known]
      cases access.resolve session.resolver.extensions file specifier <;> rfl

end Session

/-! ## Questions -/

/-- A question that a walk asks. -/
inductive Question where
  | imports (file : Location)
  | target (file : Location) (specifier : String)
  deriving DecidableEq, Repr

/-- The same answers, with a list of the questions that were asked, in order. -/
def Answers.listing {m : Type → Type} [Monad m] (answers : Answers m) :
    Answers (StateT (List Question) m) where
  imports file list := do
    let answer ← answers.imports file
    pure (answer, list ++ [.imports file])
  target file specifier list := do
    let answer ← answers.target file specifier
    pure (answer, list ++ [.target file specifier])

/-- Questions that were asked, each with the disk on which it was, in order. -/
abbrev Asked := List (Disk × Question)

namespace Asked

variable [Source.Parser]

/-- What a question gives on a disk if it is for the requests of a file and they can be had. -/
def readingOn (options : Options) (file : Location) : Disk × Question → Option (List Specifier)
  | (disk, .imports other) =>
    if other == file then (disk.access.requests options.dynamicImports other).toOption else none
  | (_, .target _ _) => none

/-- What a question gives on a disk if it is for a specifier in some file of a directory and that
leads anywhere. -/
def resolutionOn (options : Options) (directory : Location) (specifier : String) :
    Disk × Question → Option Location
  | (disk, .target file other) =>
    if (file.parent, other) == (directory, specifier) then
      (disk.access.resolve (Extension.normalise options.extensions) file other).toOption
    else none
  | (_, .imports _) => none

/-- The requests of a file, from the first time that they were asked for and could be had. -/
def reading? (options : Options) (asked : Asked) (file : Location) : Option (List Specifier) :=
  asked.findSome? (readingOn options file)

/-- Where a specifier in a directory leads, from the first time that it was asked for and led
anywhere. -/
def resolution? (options : Options) (asked : Asked) (directory : Location) (specifier : String) :
    Option Location :=
  asked.findSome? (resolutionOn options directory specifier)

/-- The answers that hold after some questions: those of the first success, or else those of the
disk as it is. -/
def answers (options : Options) (asked : Asked) (disk : Disk) : Answers Id where
  imports file :=
    match asked.reading? options file with
    | some specifiers => .ok specifiers
    | none => disk.access.requests options.dynamicImports file
  target file specifier :=
    match asked.resolution? options file.parent specifier with
    | some found => .ok found
    | none => disk.access.resolve (Extension.normalise options.extensions) file specifier

end Asked

namespace Session

variable [Source.Parser] {options : Options} {asked : Asked} {session : Session}

/-- What a session knows is what was found by the first questions that succeeded. -/
structure Remembers (options : Options) (asked : Asked) (session : Session) : Prop
    extends session.OpenedWith options where
  distinct : (session.extractor.known.map (·.1)).Nodup
  readings : ∀ file, session.extractor.known.lookup file = asked.reading? options file
  resolutions : ∀ directory specifier,
    session.resolver.known.lookup (directory, specifier) =
      asked.resolution? options directory specifier

/-- A fresh session remembers nothing. -/
theorem remembers_fresh (options : Options) : (fresh options).Remembers options [] :=
  ⟨openedWith_fresh options, List.nodup_nil, fun _ => rfl, fun _ _ => rfl⟩

/-- The answers that a session gives on a disk are those of the first success, or else those of the
disk. -/
theorem Remembers.standing_eq (h : session.Remembers options asked) (disk : Disk) :
    session.standing disk.access = asked.answers options disk := by
  rw [standing, Asked.answers]
  congr 1
  · funext file
    rw [← h.readings]
    cases known : session.extractor.known.lookup file with
    | some specifiers => rw [Extractor.imports_of_known _ known]
    | none => rw [Extractor.imports_of_unknown _ known, h.dynamic]
  · funext file specifier
    rw [← h.resolutions]
    cases known : session.resolver.known.lookup (file.parent, specifier) with
    | some found => rw [Resolver.target_of_known _ known]
    | none => rw [Resolver.target_of_unknown _ known, h.extensions]

end Session

namespace Asked

variable {options : Options} {disk : Disk}

theorem reading?_concat [Source.Parser] (asked : Asked) (file : Location)
    (question : Disk × Question) :
    reading? options (asked ++ [question]) file =
      (asked.reading? options file).or (readingOn options file question) := by
  rw [reading?, List.findSome?_append, List.findSome?_singleton]
  rfl

theorem resolution?_concat (asked : Asked) (directory : Location) (specifier : String)
    (question : Disk × Question) :
    resolution? options (asked ++ [question]) directory specifier =
      (asked.resolution? options directory specifier).or
        (resolutionOn options directory specifier question) := by
  rw [resolution?, List.findSome?_append, List.findSome?_singleton]
  rfl

end Asked

namespace Session

variable [Source.Parser] {options : Options} {asked : Asked} {session : Session}

/-- A question for the requests of a file is remembered as it should be. -/
theorem Remembers.imports (h : session.Remembers options asked) (disk : Disk) (file : Location) :
    ((answers disk.access).imports file session).2.Remembers options
      (asked ++ [(disk, .imports file)]) := by
  rw [answers_imports, h.dynamic]
  refine { h with
    distinct := nodup_memoised h.distinct
    readings := fun other => ?_
    resolutions := fun directory specifier => ?_ }
  · rw [lookup_memoised, h.readings, Asked.reading?_concat]
    rfl
  · rw [Asked.resolution?_concat, ← h.resolutions]
    exact (Option.or_none).symm

/-- A question for where a specifier leads is remembered as it should be. -/
theorem Remembers.target (h : session.Remembers options asked) (disk : Disk) (file : Location)
    (specifier : String) :
    ((answers disk.access).target file specifier session).2.Remembers options
      (asked ++ [(disk, .target file specifier)]) := by
  rw [answers_target, h.extensions]
  refine { h with readings := fun other => ?_, resolutions := fun directory specifier' => ?_ }
  · rw [Asked.reading?_concat, ← h.readings]
    exact (Option.or_none).symm
  · rw [lookup_memoised, h.resolutions, Asked.resolution?_concat]
    rfl

/-- Computations in a session that list their questions on a disk, compared with those that do not:
they come to the same, and the session remembers whatever it did before and what the list says. -/
def remembering (options : Options) (disk : Disk) :
    Correspondence (StateT (List Question) (StateT Session Id)) (StateT Session Id) where
  holds x y := ∀ list session, ((x list session).1.1, (x list session).2) = y session ∧
    ∃ new, (x list session).1.2 = list ++ new ∧
      ∀ asked, session.Remembers options asked →
        (y session).2.Remembers options (asked ++ new.map (disk, ·))
  holds_pure value list session := by
    refine ⟨rfl, [], (List.append_nil list).symm, fun asked h => ?_⟩
    rw [List.map_nil, List.append_nil]
    exact h
  holds_bind := by
    intro _ _ x y f g first next list session
    obtain ⟨same, new, listed, remembers⟩ := first list session
    obtain ⟨same', new', listed', remembers'⟩ :=
      next (x list session).1.1 (x list session).1.2 (x list session).2
    have step : (y >>= g) session = g (x list session).1.1 (x list session).2 := by
      change g (y session).1 (y session).2 = _
      rw [← same]
    refine ⟨?_, new ++ new', ?_, ?_⟩
    · rw [step]
      exact same'
    · rw [← List.append_assoc, ← listed]
      exact listed'
    · intro asked h
      rw [step, List.map_append, ← List.append_assoc]
      have before := remembers asked h
      rw [← same] at before
      exact remembers' _ before

/-! ## Walks and builds -/

/-- The questions that a build in a session asks, in order. -/
def questions (access : Access Id) (path : String) (session : Session) : List Question :=
  match (access.canonicalize path : Except Cause Location) with
  | .error _ => []
  | .ok file =>
    (Walk.whole (answers access).listing session.policy
      (access.size.run + session.resolver.known.length) file [] session).1.2

/-- What a walk asks is remembered as it should be, whatever becomes of the walk. -/
theorem Remembers.whole (h : session.Remembers options asked) (disk : Disk) (policy : Policy)
    (size : Nat) (file : Location) :
    (Walk.whole (answers disk.access) policy size file session).2.Remembers options
      (asked ++
        (Walk.whole (answers disk.access).listing policy size file [] session).1.2.map
          (disk, ·)) := by
  have listed : (remembering options disk).holds
      (Walk.whole (answers disk.access).listing policy size file)
      (Walk.whole (answers disk.access) policy size file) := by
    refine Walk.whole_corresponds _ ?_ ?_ policy size file
    · intro file list session
      exact ⟨rfl, [.imports file], rfl, fun asked h => h.imports disk file⟩
    · intro file specifier list session
      exact ⟨rfl, [.target file specifier], rfl, fun asked h => h.target disk file specifier⟩
  obtain ⟨_, new, is_new, remembers⟩ := listed [] session
  rw [is_new, List.nil_append]
  exact remembers asked h

/-- What a build asks is remembered as it should be, whatever becomes of the build. -/
theorem Remembers.build (h : session.Remembers options asked) (disk : Disk) (path : String) :
    (session.build disk.access path).2.Remembers options
      (asked ++ (session.questions disk.access path).map (disk, ·)) := by
  simp only [Session.build, questions, bind]
  cases disk.access.canonicalize path with
  | error cause =>
      rw [List.map_nil, List.append_nil]
      exact h
  | ok file => exact h.whole disk session.policy _ file

/-- What a session leads to from a file is on the disk, or was found before. -/
theorem mem_of_mem_targets {disk : Disk} {file target : Location}
    (h : target ∈ (session.standing disk.access).targets file) :
    target ∈ disk.entries.map (·.1) ++ session.resolver.known.map (·.2) := by
  obtain ⟨request, led⟩ := Answers.exists_target_of_mem_targets _ h
  change (session.resolver.target disk.access file request).1 = _ at led
  rw [List.mem_append]
  cases known : session.resolver.known.lookup (file.parent, request) with
  | some found =>
      rw [Resolver.target_of_known _ known] at led
      cases led
      obtain ⟨before, after, listed, _⟩ := List.lookup_eq_some_iff.mp known
      exact Or.inr (by simp [listed])
  | none =>
      rw [Resolver.target_of_unknown _ known] at led
      obtain ⟨content, there⟩ := Disk.entry?_of_resolve led
      exact Or.inl (Disk.mem_entries_of_entry? there Entry.noConfusion)

/-- A build in a session is a walk with the answers of the first success, or else of the disk. It
is long enough: any longer one is the same. -/
theorem Remembers.build_eq (h : session.Remembers options asked) (disk : Disk) (path : String)
    {size : Nat} (enough : disk.entries.length + session.resolver.known.length ≤ size) :
    (session.build disk.access path).1 =
      match disk.canonicalize path with
      | .error cause => ⟨.error (.unreadable path cause), []⟩
      | .ok file => .ofWalk (Walk.whole (asked.answers options disk) options.policy size file) := by
  rw [Session.build_eq disk.access session path]
  change (match disk.canonicalize path with | .error cause => _ | .ok file => _) = _
  cases disk.canonicalize path with
  | error cause => rfl
  | ok file =>
      have bounded (file : Location) : ∀ target ∈ (session.standing disk.access).targets file,
          target ∈ disk.entries.map (·.1) ++ session.resolver.known.map (·.2) :=
        fun target => mem_of_mem_targets
      have within_length : (disk.entries.map (·.1) ++ session.resolver.known.map (·.2)).length =
          disk.entries.length + session.resolver.known.length := by
        rw [List.length_append, List.length_map, List.length_map]
      have longer := Walk.whole_of_le bounded
        (show _ ≤ disk.access.size.run + session.resolver.known.length by
          rw [within_length]
          exact Nat.add_le_add_right (Nat.le_succ _) _)
        (within_length ▸ enough) session.policy file
      rw [← h.standing_eq disk, ← h.policy]
      exact congrArg Build.ofWalk longer

/-- No file is read that was read before, so the number of files that were read does not go down
when more is asked. -/
theorem Remembers.filesParsed_le {later : Session} {more : Asked}
    (h : session.Remembers options asked) (h' : later.Remembers options (asked ++ more)) :
    session.filesParsed ≤ later.filesParsed := by
  have kept : session.extractor.known.map (·.1) ⊆ later.extractor.known.map (·.1) := by
    intro file present
    rw [mem_keys_iff, h.readings] at present
    rw [mem_keys_iff, h'.readings, Asked.reading?, List.findSome?_append, Option.isSome_or,
      Bool.or_eq_true]
    exact Or.inl present
  have fewer := (List.subperm_of_subset h.distinct kept).length_le
  rwa [List.length_map, List.length_map] at fewer

end Session

end ModuleGraph
