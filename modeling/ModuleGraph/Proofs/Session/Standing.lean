import ModuleGraph.Proofs.Walk.Correspondence
import ModuleGraph.Session

/-!
# What a session answers

A session answers from memory, or else from the disk, and remembers what it finds. As long as the
disk stays as it is, none of this shows: the answers that a session would give at its beginning,
its `Session.standing`, are those that it gives to the end. So a walk in a session is a walk with
standing answers, and `Session.build_eq` states builds in this way.

A fresh session knows nothing, so its standing answers are those of the disk, `Access.answers`: the
text of the file itself is read, and the first candidate that is a file wins.
-/

namespace ModuleGraph

variable (access : Access Id)

namespace Access

variable [Source.Parser]

/-- The requests of a file, as the disk gives them. -/
def requests (dynamic : Bool) (file : Location) : Except Failure (List Specifier) :=
  match (access.readText file.text : Except Cause String) with
  | .error cause => .error (.unreadable file.text cause)
  | .ok text => Extractor.extract dynamic file.text text

/-- The file that a specifier in a file leads to, as the disk gives it. -/
def resolve (extensions : List String) (file : Location) (specifier : String) :
    Except Failure Location :=
  let tried := Resolver.candidates extensions file.parent specifier
  match (Resolver.firstFile access tried : Option Location) with
  | none => .error (.unresolved specifier file.text tried)
  | some candidate =>
    match (access.canonicalize candidate.text : Except Cause Location) with
    | .error cause => .error (.unreadable candidate.text cause)
    | .ok found => .ok found

/-- The answers of the disk. -/
def answers (options : Options) : Answers Id where
  imports := access.requests options.dynamicImports
  target := access.resolve (Extension.normalise options.extensions)

end Access

namespace Extractor

variable [Source.Parser]

theorem imports_of_known {extractor : Extractor} {file : Location} {specifiers : List Specifier}
    (h : extractor.known.lookup file = some specifiers) :
    extractor.imports access file = (.ok specifiers, extractor) := by
  rw [imports, h]
  rfl

theorem imports_of_unknown {extractor : Extractor} {file : Location}
    (h : extractor.known.lookup file = none) :
    extractor.imports access file =
      (access.requests extractor.dynamic file,
        match access.requests extractor.dynamic file with
        | .ok specifiers => { extractor with known := (file, specifiers) :: extractor.known }
        | .error _ => extractor) := by
  simp only [imports, h, bind, Access.requests]
  cases access.readText file.text with
  | error cause => rfl
  | ok text =>
      dsimp only
      cases extract extractor.dynamic file.text text <;> rfl

/-- Reading one file does not change what is read from any file. -/
theorem imports_of_imports (extractor : Extractor) (file other : Location) :
    ((extractor.imports access file).2.imports access other).1 =
      (extractor.imports access other).1 := by
  cases known : extractor.known.lookup file with
  | some specifiers => rw [imports_of_known access known]
  | none =>
      rw [imports_of_unknown access known]
      cases read : access.requests extractor.dynamic file with
      | error failure => rfl
      | ok specifiers =>
          by_cases same : other = file
          · subst same
            rw [imports_of_known access List.lookup_cons_self, imports_of_unknown access known,
              read]
          · have looked : ((file, specifiers) :: extractor.known).lookup other =
                extractor.known.lookup other := by
              rw [List.lookup_cons, beq_eq_false_iff_ne.mpr same]
            cases found : extractor.known.lookup other with
            | some specifiers =>
                rw [imports_of_known access found, imports_of_known access (looked.trans found)]
            | none =>
                rw [imports_of_unknown access found, imports_of_unknown access (looked.trans found)]

end Extractor

namespace Resolver

theorem target_of_known {resolver : Resolver} {file found : Location} {specifier : String}
    (h : resolver.known.lookup (file.parent, specifier) = some found) :
    resolver.target access file specifier = (.ok found, resolver) := by
  rw [target, h]
  rfl

theorem target_of_unknown {resolver : Resolver} {file : Location} {specifier : String}
    (h : resolver.known.lookup (file.parent, specifier) = none) :
    resolver.target access file specifier =
      (access.resolve resolver.extensions file specifier,
        match access.resolve resolver.extensions file specifier with
        | .ok found =>
          { resolver with known := ((file.parent, specifier), found) :: resolver.known }
        | .error _ => resolver) := by
  simp only [target, h, bind, Access.resolve]
  cases firstFile access (candidates resolver.extensions file.parent specifier) with
  | none => rfl
  | some candidate =>
      dsimp only
      cases access.canonicalize candidate.text <;> rfl

/-- What is found depends on the directory that a file is in, not on the file. -/
theorem resolve_ok_of_parent_eq {extensions : List String} {file other found : Location}
    {specifier : String} (same : other.parent = file.parent)
    (h : access.resolve extensions file specifier = .ok found) :
    access.resolve extensions other specifier = .ok found := by
  simp only [Access.resolve, same] at h ⊢
  cases first : (firstFile access (candidates extensions file.parent specifier) :
      Option Location) with
  | none => rw [first] at h; cases h
  | some candidate => rw [first] at h; exact h

/-- Resolving one specifier does not change where any specifier leads. -/
theorem target_of_target (resolver : Resolver) (file other : Location)
    (specifier specifier' : String) :
    ((resolver.target access file specifier).2.target access other specifier').1 =
      (resolver.target access other specifier').1 := by
  cases known : resolver.known.lookup (file.parent, specifier) with
  | some found => rw [target_of_known access known]
  | none =>
      rw [target_of_unknown access known]
      cases resolved : access.resolve resolver.extensions file specifier with
      | error failure => rfl
      | ok found =>
          by_cases same : (other.parent, specifier') = (file.parent, specifier)
          · obtain ⟨same_directory, rfl⟩ := Prod.mk.inj same
            have looked : (((file.parent, specifier'), found) :: resolver.known).lookup
                (other.parent, specifier') = some found := by
              rw [same_directory, List.lookup_cons_self]
            rw [target_of_known access looked, target_of_unknown access (same ▸ known),
              resolve_ok_of_parent_eq access same_directory resolved]
          · have looked : (((file.parent, specifier), found) :: resolver.known).lookup
                (other.parent, specifier') = resolver.known.lookup (other.parent, specifier') := by
              rw [List.lookup_cons, beq_eq_false_iff_ne.mpr same]
            cases there : resolver.known.lookup (other.parent, specifier') with
            | some found' =>
                rw [target_of_known access there, target_of_known access (looked.trans there)]
            | none =>
                rw [target_of_unknown access there, target_of_unknown access (looked.trans there)]

end Resolver

namespace Session

/-- A session that was opened with some options. -/
structure OpenedWith (options : Options) (session : Session) : Prop where
  dynamic : session.extractor.dynamic = options.dynamicImports
  extensions : session.resolver.extensions = Extension.normalise options.extensions
  policy : session.policy = options.policy

theorem openedWith_fresh (options : Options) : (fresh options).OpenedWith options :=
  ⟨rfl, rfl, rfl⟩

variable [Source.Parser]

/-- The answers that a session gives as it is. -/
def standing (session : Session) : Answers Id where
  imports file := (session.extractor.imports access file).1
  target file specifier := (session.resolver.target access file specifier).1

/-- The answers of a fresh session are those of the disk. -/
theorem standing_fresh (options : Options) :
    (fresh options).standing access = access.answers options := by
  have imports (file : Location) : (fresh options).extractor.imports access file =
      _ := Extractor.imports_of_unknown access rfl
  have target (file : Location) (specifier : String) :
      (fresh options).resolver.target access file specifier = _ :=
    Resolver.target_of_unknown access rfl
  simp only [standing, imports, target]
  rfl

/-- Computations in a session whose answers stand, compared with plain results. -/
def keeping (given : Answers Id) : Correspondence (StateT Session Id) Id where
  holds x a := ∀ session : Session, session.standing access = given →
    (x session).1 = a ∧ (x session).2.standing access = given
  holds_pure _ _ stands := ⟨rfl, stands⟩
  holds_bind first next session stands := by
    obtain ⟨value, stands'⟩ := first session stands
    obtain ⟨value', stands''⟩ := next _ _ stands'
    exact ⟨value'.trans (by rw [value]; rfl), stands''⟩

/-- A session gives its standing answers, and they stand. -/
theorem standing_imports (session : Session) (file : Location) :
    ((answers access).imports file session).1 = (session.standing access).imports file ∧
      ((answers access).imports file session).2.standing access = session.standing access := by
  refine ⟨rfl, ?_⟩
  have unchanged := Extractor.imports_of_imports access session.extractor file
  simp only [standing, answers, bind]
  congr 1
  funext other
  exact unchanged other

theorem standing_target (session : Session) (file : Location) (specifier : String) :
    ((answers access).target file specifier session).1 =
        (session.standing access).target file specifier ∧
      ((answers access).target file specifier session).2.standing access =
        session.standing access := by
  refine ⟨rfl, ?_⟩
  have unchanged := Resolver.target_of_target access session.resolver file
  simp only [standing, answers, bind]
  congr 1
  funext other specifier'
  exact unchanged other specifier specifier'

theorem keeping_imports (given : Answers Id) (file : Location) :
    (keeping access given).holds ((answers access).imports file) (given.imports file) := by
  intro session stands
  rw [← stands]
  exact standing_imports access session file

theorem keeping_target (given : Answers Id) (file : Location) (specifier : String) :
    (keeping access given).holds ((answers access).target file specifier)
      (given.target file specifier) := by
  intro session stands
  rw [← stands]
  exact standing_target access session file specifier

/-- A walk in a session is a walk with the standing answers, and they still stand after it. -/
theorem whole_eq_standing (session : Session) (policy : Policy) (size : Nat) (file : Location) :
    (Walk.whole (answers access) policy size file session).1 =
        Walk.whole (session.standing access) policy size file ∧
      (Walk.whole (answers access) policy size file session).2.standing access =
        session.standing access :=
  Walk.whole_corresponds (keeping access (session.standing access)) (keeping_imports access _)
    (keeping_target access _) policy size file session rfl

/-- A build in a session goes from where the path leads, with the standing answers. -/
theorem build_eq (session : Session) (path : String) :
    (session.build access path).1 =
      match (access.canonicalize path : Except Cause Location) with
      | .error cause => ⟨.error (.unreadable path cause), []⟩
      | .ok file => .ofWalk (Walk.whole (session.standing access) session.policy
          (access.size.run + session.resolver.known.length) file) := by
  simp only [build, bind]
  cases access.canonicalize path with
  | error cause => rfl
  | ok file =>
      have walked := (whole_eq_standing access session session.policy
        (access.size.run + session.resolver.known.length) file).1
      simp only [← walked]
      rfl

/-- A path that leads nowhere gives no graph in any session. -/
theorem build_of_error {session : Session} {path : String} {cause : Cause}
    (h : access.canonicalize path = .error cause) :
    (session.build access path).1 = (⟨.error (.unreadable path cause), []⟩ : Build) := by
  rw [build_eq, h]

/-- From a path that leads to a file, a build in a session is the walk from there. -/
theorem build_of_ok {session : Session} {path : String} {file : Location}
    (h : access.canonicalize path = .ok file) :
    (session.build access path).1 =
      Build.ofWalk (Walk.whole (session.standing access) session.policy
        (access.size.run + session.resolver.known.length) file) := by
  rw [build_eq, h]

end Session

variable [Source.Parser]

/-- A build in a fresh session goes with the answers of the disk. -/
theorem Options.build_eq (options : Options) (path : String) :
    options.build access path =
      match (access.canonicalize path : Except Cause Location) with
      | .error cause => ⟨.error (.unreadable path cause), []⟩
      | .ok file => Build.ofWalk
          (Walk.whole (access.answers options) options.policy access.size.run file) := by
  rw [← Session.standing_fresh]
  exact Session.build_eq access (Session.fresh options) path

/-- A path that leads nowhere gives no graph. -/
theorem Options.build_of_error {options : Options} {path : String} {cause : Cause}
    (h : access.canonicalize path = .error cause) :
    options.build access path = (⟨.error (.unreadable path cause), []⟩ : Build) := by
  rw [build_eq, h]

/-- From a path that leads to a file, a build is the walk from there. -/
theorem Options.build_of_ok {options : Options} {path : String} {file : Location}
    (h : access.canonicalize path = .ok file) :
    options.build access path =
      Build.ofWalk (Walk.whole (access.answers options) options.policy access.size.run file) := by
  rw [build_eq, h]

end ModuleGraph
