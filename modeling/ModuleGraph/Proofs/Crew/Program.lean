import ModuleGraph.Proofs.Session.Memory

/-!
# Builds in single steps

Several builds may share one session and go on at the same time. Then a build is no longer one
computation in the session: between looking something up and remembering it others may have done
the same. So here a build is a `Program`, a tree of single operations. Each is one look at the
disk, one look into a memory, or one entry put into a memory, and what the program does next
depends on the reply.

A program that is left alone with a session does what a session does, question by question:
`Program.alone_build` says that it comes to the same build and leaves the same session.
-/

namespace ModuleGraph

/-! ## Operations -/

/-- What is done in one step. -/
inductive Operation where
  | canonicalize (path : String)
  | isFile (path : String)
  | leadsSomewhere (path : String)
  | readText (path : String)
  | workingDirectory
  /-- Asks for a number that there are not more files than. -/
  | bound
  /-- Looks up the requests of a file. -/
  | recallImports (file : Location)
  /-- Remembers the requests of a file. -/
  | keepImports (file : Location) (specifiers : List Specifier)
  /-- Looks up where a specifier in a directory leads. -/
  | recallTarget (directory : Location) (specifier : String)
  /-- Remembers where a specifier in a directory leads. -/
  | keepTarget (directory : Location) (specifier : String) (found : Location)

namespace Operation

/-- What an operation replies. -/
def Reply : Operation → Type
  | canonicalize _ => Except Cause Location
  | isFile _ => Bool
  | leadsSomewhere _ => Bool
  | readText _ => Except Cause String
  | workingDirectory => Except Cause Location
  | bound => Nat
  | recallImports _ => Option (List Specifier)
  | keepImports _ _ => Unit
  | recallTarget _ _ => Option Location
  | keepTarget _ _ _ => Unit

/-- Carries out an operation on a disk and a session. -/
def run (disk : Disk) (session : Session) : (operation : Operation) → operation.Reply × Session
  | canonicalize path => (disk.access.canonicalize path, session)
  | isFile path => (disk.access.isFile path, session)
  | leadsSomewhere path => (disk.access.leadsSomewhere path, session)
  | readText path => (disk.access.readText path, session)
  | workingDirectory => (disk.access.workingDirectory, session)
  | bound => (disk.access.size.run + session.resolver.known.length, session)
  | recallImports file => (session.extractor.known.lookup file, session)
  | keepImports file specifiers =>
    ((), { session with extractor.known := inserted session.extractor.known file specifiers })
  | recallTarget directory specifier =>
    (session.resolver.known.lookup (directory, specifier), session)
  | keepTarget directory specifier found =>
    ((), { session with
      resolver.known := inserted session.resolver.known (directory, specifier) found })

end Operation

/-! ## Programs -/

/-- A tree of operations that comes to a value. -/
inductive Program (α : Type) where
  | done (value : α)
  | perform (operation : Operation) (next : operation.Reply → Program α)

namespace Program

/-- A program, and another one after it. -/
protected def bind {α β : Type} : Program α → (α → Program β) → Program β
  | done value, f => f value
  | perform operation next, f => perform operation fun reply => (next reply).bind f

instance : Monad Program where
  pure := done
  bind := Program.bind

/-- The program that carries out one operation. -/
def ask (operation : Operation) : Program operation.Reply :=
  perform operation done

/-- The value, if the program is done. -/
def result? {α : Type} : Program α → Option α
  | done value => some value
  | perform _ _ => none

/-- The questions about a disk, one operation each. -/
def access : Access Program where
  canonicalize path := ask (.canonicalize path)
  isFile path := ask (.isFile path)
  leadsSomewhere path := ask (.leadsSomewhere path)
  readText path := ask (.readText path)
  workingDirectory := ask .workingDirectory
  size := ask .bound

/-- Gives the requests of a file. -/
def imports [Source.Parser] (dynamic : Bool) (file : Location) :
    Program (Except Failure (List Specifier)) := do
  match ← ask (.recallImports file) with
  | some specifiers => pure (.ok specifiers)
  | none =>
    match ← access.readText file.text with
    | .error cause => pure (.error (.unreadable file.text cause))
    | .ok text =>
      match Extractor.extract dynamic file.text text with
      | .error failure => pure (.error failure)
      | .ok specifiers => do
        let () ← ask (.keepImports file specifiers)
        pure (.ok specifiers)

/-- Gives the file that a specifier in a file leads to. -/
def target (extensions : List String) (file : Location) (specifier : String) :
    Program (Except Failure Location) := do
  match ← ask (.recallTarget file.parent specifier) with
  | some found => pure (.ok found)
  | none =>
    let tried := Resolver.candidates extensions file.parent specifier
    match ← Resolver.firstFile access tried with
    | none => pure (.error (.unresolved specifier file.text tried))
    | some candidate =>
      match ← access.canonicalize candidate.text with
      | .error cause => pure (.error (.unreadable candidate.text cause))
      | .ok found => do
        let () ← ask (.keepTarget file.parent specifier found)
        pure (.ok found)

/-- The answers that a walk is given in single steps. -/
def answers [Source.Parser] (options : Options) : Answers Program where
  imports := imports options.dynamicImports
  target := target (Extension.normalise options.extensions)

/-- Builds the graph of what can be reached from a path. -/
def build [Source.Parser] (options : Options) (path : String) : Program Build := do
  match ← access.canonicalize path with
  | .error cause => pure ⟨.error (.unreadable path cause), []⟩
  | .ok file =>
    let size ← access.size
    let walk ← Walk.whole (answers options) options.policy size file
    pure (.ofWalk walk)

/-! ## A program alone -/

/-- Carries out a program alone. -/
def run {α : Type} (disk : Disk) : Program α → Session → α × Session
  | done value, session => (value, session)
  | perform operation next, session =>
    let (reply, session) := operation.run disk session
    (next reply).run disk session

variable {α β : Type} {disk : Disk} {options : Options}

theorem run_bind (x : Program α) (f : α → Program β) (session : Session) :
    (x >>= f).run disk session = (f (x.run disk session).1).run disk (x.run disk session).2 := by
  induction x generalizing session with
  | done value => rfl
  | perform operation next ih => exact ih _ _

@[simp]
theorem run_isFile (path : String) (session : Session) :
    (access.isFile path).run disk session = (disk.access.isFile path, session) := rfl

@[simp]
theorem run_canonicalize (path : String) (session : Session) :
    (access.canonicalize path).run disk session = (disk.access.canonicalize path, session) := rfl

@[simp]
theorem run_readText (path : String) (session : Session) :
    (access.readText path).run disk session = (disk.access.readText path, session) := rfl

@[simp]
theorem run_size (session : Session) :
    access.size.run disk session =
      (disk.access.size.run + session.resolver.known.length, session) := rfl

@[simp]
theorem run_recallImports (file : Location) (session : Session) :
    (ask (.recallImports file)).run disk session =
      (session.extractor.known.lookup file, session) := rfl

@[simp]
theorem run_recallTarget (directory : Location) (specifier : String) (session : Session) :
    (ask (.recallTarget directory specifier)).run disk session =
      (session.resolver.known.lookup (directory, specifier), session) := rfl

/-- Looking for the first file changes nothing in a session. -/
@[simp]
theorem run_firstFile (tried : List Location) (session : Session) :
    (Resolver.firstFile access tried).run disk session =
      (Resolver.firstFile disk.access tried, session) := by
  induction tried with
  | nil => rfl
  | cons candidate rest ih =>
      rw [Resolver.firstFile, run_bind, run_isFile, Resolver.firstFile]
      simp only [bind]
      cases disk.access.isFile candidate.text with
      | true => rfl
      | false => exact ih

/-- A program alone finds the requests of a file in memory, or else on the disk. -/
theorem run_imports [Source.Parser] (dynamic : Bool) (file : Location) (session : Session) :
    (imports dynamic file).run disk session =
      (recalled session.extractor.known file (disk.access.requests dynamic file),
        { session with
          extractor.known := memoised session.extractor.known file
            (disk.access.requests dynamic file) }) := by
  rw [imports, run_bind, run_recallImports]
  cases known : session.extractor.known.lookup file with
  | some specifiers =>
      rw [recalled_of_some known, memoised_of_some known]
      rfl
  | none =>
      dsimp only
      rw [run_bind, run_readText, recalled_of_none known, memoised_of_none known, Access.requests]
      cases disk.access.readText file.text with
      | error cause => rfl
      | ok text =>
          dsimp only
          cases Extractor.extract dynamic file.text text with
          | error failure => rfl
          | ok specifiers =>
              dsimp only
              rw [← inserted_of_none known]
              rfl

/-- A program alone finds where a specifier leads in memory, or else on the disk. -/
theorem run_target (extensions : List String) (file : Location) (specifier : String)
    (session : Session) :
    (target extensions file specifier).run disk session =
      (recalled session.resolver.known (file.parent, specifier)
        (disk.access.resolve extensions file specifier),
        { session with
          resolver.known := memoised session.resolver.known (file.parent, specifier)
            (disk.access.resolve extensions file specifier) }) := by
  rw [target, run_bind, run_recallTarget]
  cases known : session.resolver.known.lookup (file.parent, specifier) with
  | some found =>
      rw [recalled_of_some known, memoised_of_some known]
      rfl
  | none =>
      dsimp only
      rw [run_bind, run_firstFile, recalled_of_none known, memoised_of_none known, Access.resolve]
      cases (Resolver.firstFile disk.access (Resolver.candidates extensions file.parent specifier) :
          Option Location) with
      | none => rfl
      | some candidate =>
          dsimp only
          rw [run_bind, run_canonicalize]
          cases disk.access.canonicalize candidate.text with
          | error cause => rfl
          | ok found =>
              dsimp only
              rw [← inserted_of_none known]
              rfl

/-- Programs that are left alone with a session, compared with computations in a session. -/
def alone (disk : Disk) (options : Options) : Correspondence Program (StateT Session Id) where
  holds x y := ∀ session : Session, session.OpenedWith options →
    x.run disk session = y session ∧ (y session).2.OpenedWith options
  holds_pure _ _ opened := ⟨rfl, opened⟩
  holds_bind := by
    intro _ _ x y f g first next session opened
    obtain ⟨same, opened'⟩ := first session opened
    obtain ⟨same', opened''⟩ := next (y session).1 (y session).2 opened'
    refine ⟨?_, opened''⟩
    rw [run_bind, same]
    exact same'

/-- A program alone builds what a build in the session gives, and leaves what that leaves. -/
theorem alone_build [Source.Parser] (disk : Disk) (path : String) :
    (alone disk options).holds (build options path)
      (fun session => session.build disk.access path : StateT Session Id Build) := by
  have imports (file : Location) : (alone disk options).holds ((answers options).imports file)
      ((Session.answers disk.access).imports file) := by
    intro session opened
    rw [Session.answers_imports, opened.dynamic]
    exact ⟨run_imports options.dynamicImports file session, { opened with }⟩
  have targets (file : Location) (specifier : String) :
      (alone disk options).holds ((answers options).target file specifier)
        ((Session.answers disk.access).target file specifier) := by
    intro session opened
    rw [Session.answers_target, opened.extensions]
    exact ⟨run_target _ file specifier session, { opened with }⟩
  intro session opened
  rw [build, run_bind, run_canonicalize]
  cases leads : disk.access.canonicalize path with
  | error cause =>
      simp only [Session.build, bind, leads]
      exact ⟨rfl, opened⟩
  | ok file =>
      obtain ⟨same, opened'⟩ := Walk.whole_corresponds (alone disk options) imports targets
        options.policy (disk.access.size.run + session.resolver.known.length) file session opened
      dsimp only
      rw [run_bind, run_size, run_bind, same]
      simp only [Session.build, bind, leads, opened.policy]
      exact ⟨rfl, opened'⟩

end Program

end ModuleGraph
