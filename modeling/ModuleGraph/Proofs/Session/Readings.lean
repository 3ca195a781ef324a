import ModuleGraph.Proofs.Build.Graphs
import ModuleGraph.Proofs.Session.Memory

/-!
# What is read of a disk

`Access.watched` answers the questions about a disk as before and keeps a list of the paths whose
text was asked for, so it tells what a build reads (`Session.readings`).

A session asks for the text of a file that it knows nothing about, and only then. A walk enters no
file twice. So a build reads every file that it expands once, other than those that the session
knew before (`Session.readings_eq`), and in a fresh session it reads every one of them.
-/

namespace ModuleGraph

/-- The questions about a disk, with a list of the paths whose text was asked for. -/
def Access.watched (access : Access Id) : Access (StateT (List String) Id) where
  canonicalize path reads := (access.canonicalize path, reads)
  isFile path reads := (access.isFile path, reads)
  leadsSomewhere path reads := (access.leadsSomewhere path, reads)
  readText path reads := (access.readText path, reads ++ [path])
  workingDirectory reads := (access.workingDirectory, reads)
  size reads := (access.size, reads)

namespace Resolver

variable (access : Access Id)

/-- Looking for a file reads nothing. -/
theorem firstFile_watched (candidates : List Location) (reads : List String) :
    firstFile access.watched candidates reads = (firstFile access candidates, reads) := by
  induction candidates with
  | nil => rfl
  | cons candidate rest ih =>
      simp only [firstFile, bind, StateT.bind, Access.watched]
      cases access.isFile candidate.text with
      | true => rfl
      | false => exact ih

/-- Nor does finding out where a specifier leads. -/
theorem target_watched (resolver : Resolver) (file : Location) (specifier : String)
    (reads : List String) :
    resolver.target access.watched file specifier reads =
      (resolver.target access file specifier, reads) := by
  simp only [target]
  cases resolver.known.lookup (file.parent, specifier) with
  | some found => rfl
  | none =>
      simp only [bind, StateT.bind, firstFile_watched]
      cases (firstFile access (candidates resolver.extensions file.parent specifier) :
          Option Location) with
      | none => rfl
      | some candidate =>
          simp only [Access.watched]
          cases access.canonicalize candidate.text <;> rfl

end Resolver

/-- The requests of a file are read if they are not known. -/
theorem Extractor.imports_watched [Source.Parser] (access : Access Id) (extractor : Extractor)
    (file : Location) (reads : List String) :
    extractor.imports access.watched file reads =
      (extractor.imports access file,
        if (extractor.known.lookup file).isSome then reads else reads ++ [file.text]) := by
  simp only [imports]
  cases extractor.known.lookup file with
  | some specifiers => rfl
  | none =>
      simp only [bind, StateT.bind, Access.watched]
      cases access.readText file.text with
      | error cause => rfl
      | ok text =>
          dsimp only
          cases extract extractor.dynamic file.text text <;> rfl

namespace Session

/-- Those of some files of which a session does not know the requests. -/
def unread (session : Session) (files : List Location) : List Location :=
  files.filter fun file => (session.extractor.known.lookup file).isNone

/-- In a fresh session nothing was read. -/
theorem unread_fresh (options : Options) (files : List Location) :
    (fresh options).unread files = files :=
  List.filter_eq_self.mpr fun _ _ => rfl

variable [Source.Parser] (access : Access Id)

theorem imports_watched (session : Session) (file : Location) (reads : List String) :
    (answers access.watched).imports file session reads =
      ((answers access).imports file session,
        if (session.extractor.known.lookup file).isSome then reads else reads ++ [file.text]) := by
  simp only [answers, bind, StateT.bind, Extractor.imports_watched]
  rfl

theorem target_watched (session : Session) (file : Location) (specifier : String)
    (reads : List String) :
    (answers access.watched).target file specifier session reads =
      ((answers access).target file specifier session, reads) := by
  simp only [answers, bind, StateT.bind, Resolver.target_watched]
  rfl

/-- A session some time after another one: it gives the same answers, and it knows the requests of
the same files and of some that have been expanded meanwhile. -/
structure Since (before : Session) (expanded : List Location) (session : Session) : Prop where
  standing : session.standing access = before.standing access
  kept : ∀ file, (before.extractor.known.lookup file).isSome = true →
    (session.extractor.known.lookup file).isSome = true
  gained : ∀ file, (session.extractor.known.lookup file).isSome = true →
    (before.extractor.known.lookup file).isSome = true ∨ file ∈ expanded

theorem since_start (session : Session) : session.Since access [] session :=
  ⟨rfl, fun _ known => known, fun _ known => Or.inl known⟩

variable {access} {before session : Session} {expanded : List Location}

/-- A file that has not been expanded meanwhile is known if it was known before. -/
theorem Since.isSome_lookup (h : before.Since access expanded session) {file : Location}
    (absent : file ∉ expanded) :
    (session.extractor.known.lookup file).isSome = (before.extractor.known.lookup file).isSome :=
  Bool.eq_iff_iff.mpr ⟨fun known => (h.gained file known).resolve_right absent, h.kept file⟩

/-- After the requests of a file have been asked for, that file has been expanded. -/
theorem Since.imports (h : before.Since access expanded session) (file : Location) :
    before.Since access (expanded ++ [file]) ((answers access).imports file session).2 := by
  have known_after (other : Location) :
      (((answers access).imports file session).2.extractor.known.lookup other).isSome = true ↔
        (session.extractor.known.lookup other).isSome = true ∨
          (if file == other then (access.requests session.extractor.dynamic file).toOption
            else none).isSome = true := by
    rw [answers_imports, lookup_memoised, Option.isSome_or, Bool.or_eq_true]
  refine ⟨(standing_imports access session file).2.trans h.standing, fun other known => ?_,
    fun other known => ?_⟩
  · exact (known_after other).mpr (Or.inl (h.kept other known))
  · rcases (known_after other).mp known with earlier | now
    · exact (h.gained other earlier).imp_right (List.mem_append_left _)
    · split at now
      · next same =>
        cases eq_of_beq same
        exact Or.inr (List.mem_append_right _ List.mem_cons_self)
      · cases now

theorem Since.target (h : before.Since access expanded session) (file : Location)
    (specifier : String) :
    before.Since access expanded ((answers access).target file specifier session).2 :=
  ⟨(standing_target access session file specifier).2.trans h.standing, h.kept, h.gained⟩

/-- Computations in a session that is watched, compared with those that list the files that they
expand: as long as no file is expanded twice, those are read of which the session did not know the
requests from the start. -/
def watching (access : Access Id) (before : Session) :
    Correspondence (StateT Session (StateT (List String) Id)) (StateT (List Location) Id) where
  holds x y := ∀ log, ∃ new, (y log).2 = log ++ new ∧ ((log ++ new).Nodup →
    ∀ session reads, before.Since access log session →
      (x session reads).1.1 = (y log).1 ∧
      (x session reads).2 = reads ++ (before.unread new).map Location.text ∧
      before.Since access (log ++ new) (x session reads).1.2)
  holds_pure value log := by
    refine ⟨[], (List.append_nil log).symm, fun _ session reads since => ⟨rfl, ?_, ?_⟩⟩
    · exact (List.append_nil reads).symm
    · rwa [List.append_nil]
  holds_bind := by
    intro _ _ x y f g first next log
    obtain ⟨new, listed, settles⟩ := first log
    obtain ⟨new', listed', settles'⟩ := next (y log).1 (log ++ new)
    have step : (y >>= g) log = g (y log).1 (log ++ new) := by
      change g (y log).1 (y log).2 = _
      rw [listed]
    rw [step]
    refine ⟨new ++ new', listed'.trans (List.append_assoc ..), ?_⟩
    rw [← List.append_assoc]
    intro nodup session reads since
    obtain ⟨same, read, since_then⟩ := settles nodup.of_append_left session reads since
    obtain ⟨same', read', since_then'⟩ := settles' nodup _ (x session reads).2 since_then
    rw [← same] at same' read' since_then' ⊢
    refine ⟨same', read'.trans ?_, since_then'⟩
    rw [read, unread, unread, unread, List.filter_append, List.map_append, List.append_assoc]

/-- A whole walk in a session that is watched. -/
theorem whole_watched (access : Access Id) (session : Session) (policy : Policy) (size : Nat)
    (file : Location) :
    (watching access session).holds (Walk.whole (answers access.watched) policy size file)
      (Walk.whole (session.standing access).logging policy size file) := by
  refine Walk.whole_corresponds _ ?_ ?_ policy size file
  · intro file log
    refine ⟨[file], rfl, fun nodup later reads since => ?_⟩
    have absent : file ∉ log := fun there =>
      (List.nodup_append.mp nodup).2.2 file there file List.mem_cons_self rfl
    rw [imports_watched]
    refine ⟨?_, ?_, since.imports file⟩
    · rw [(standing_imports access later file).1, since.standing]
      rfl
    · dsimp only
      rw [since.isSome_lookup absent, unread, List.filter_cons]
      cases session.extractor.known.lookup file with
      | some specifiers => exact (List.append_nil reads).symm
      | none => rfl
  · intro file specifier log
    refine ⟨[], (List.append_nil log).symm, fun _ later reads since => ?_⟩
    rw [target_watched, List.append_nil]
    refine ⟨?_, (List.append_nil reads).symm, since.target file specifier⟩
    rw [(standing_target access later file specifier).1, since.standing]
    rfl

/-- The paths whose text a build in a session reads, in order. -/
def readings (access : Access Id) (path : String) (session : Session) : List String :=
  (session.build access.watched path []).2

/-- A build reads the files that it expands, in that order, but for those that the session knew
before. -/
theorem readings_eq {path : String} (nodup : (session.expansions access path).Nodup) :
    session.readings access path =
      (session.unread (session.expansions access path)).map Location.text := by
  cases leads : (access.canonicalize path : Except Cause Location) with
  | error cause =>
      simp only [readings, build, expansions, bind, StateT.bind, Access.watched, leads]
      rfl
  | ok file =>
      obtain ⟨new, listed, settles⟩ := whole_watched access session session.policy
        (access.size.run + session.resolver.known.length) file []
      rw [List.nil_append] at listed settles
      rw [expansions_of_ok leads, listed] at nodup ⊢
      obtain ⟨_, read, _⟩ := settles nodup session [] (since_start access session)
      simp only [readings, build, bind, StateT.bind, Access.watched, leads]
      exact read

end Session

end ModuleGraph
