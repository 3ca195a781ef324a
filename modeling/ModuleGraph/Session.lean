import ModuleGraph.Extractor
import ModuleGraph.Resolver
import ModuleGraph.Walk

/-!
# Sessions

A session builds the graphs of several files and remembers, from one to the next, what it has read
and what it has resolved. What was remembered holds for the rest of the session, whatever becomes
of the disk. A build in a fresh session depends on the disk alone.
-/

namespace ModuleGraph

/-- How graphs are built. -/
structure Options where
  /-- The extensions to try, as users write them. -/
  extensions : List String
  /-- Whether calls of `import` are followed. -/
  dynamicImports : Bool
  policy : Policy
  deriving DecidableEq, Repr

/-- The options that hold where nothing is said. -/
def Options.standard : Options :=
  ⟨Extension.default, false, .abort⟩

/-- What a session remembers, and what it does about failures. -/
structure Session where
  extractor : Extractor
  resolver : Resolver
  policy : Policy
  deriving DecidableEq, Repr

namespace Session

/-- A session that remembers nothing. -/
def fresh (options : Options) : Session where
  extractor := .fresh options.dynamicImports
  resolver := .fresh options.extensions
  policy := options.policy

/-- The number of files that were read in a session. -/
def filesParsed (session : Session) : Nat :=
  session.extractor.count

section Asking

variable [Source.Parser] {m : Type → Type} [Monad m] (access : Access m)

/-- The answers that a session gives: from memory, or else from the disk. -/
def answers : Answers (StateT Session m) where
  imports file session := do
    let (specifiers, extractor) ← session.extractor.imports access file
    pure (specifiers, { session with extractor })
  target file specifier session := do
    let (target, resolver) ← session.resolver.target access file specifier
    pure (target, { session with resolver })

/-- Builds the graph of what can be reached from a path. -/
def build (path : String) (session : Session) : m (Build × Session) := do
  match ← access.canonicalize path with
  | .error cause => pure (⟨.error (.unreadable path cause), []⟩, session)
  | .ok file =>
    let size := (← access.size) + session.resolver.known.length
    let (walk, session) ← (Walk.whole (answers access) session.policy size file).run session
    pure (.ofWalk walk, session)

end Asking

end Session

/-- Builds the graph of what can be reached from a path, in a fresh session. -/
def Options.build [Source.Parser] [Monad m] (access : Access m) (options : Options)
    (path : String) : m Build := do
  let (build, _) ← (Session.fresh options).build access path
  pure build

end ModuleGraph
