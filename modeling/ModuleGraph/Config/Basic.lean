import ModuleGraph.Session

/-!
# Configurations

What a user asks for on the command line, and the root directory that goes with it: the one that is
given, or else the innermost directory around the working directory that holds a repository, or
else the working directory.
-/

namespace ModuleGraph

/-- What a user asks for. -/
structure Config where
  /-- The files to start from, as written. -/
  entries : List String
  /-- The directory relative to which paths are shown. -/
  root : Option String
  /-- The extensions to try, as written. -/
  extensions : List String
  dynamicImports : Bool
  /-- Whether failures are noted instead of ending a walk. -/
  keepGoing : Bool
  json : Bool
  deriving DecidableEq, Repr

/-- Why a run cannot start. -/
inductive Refusal where
  | invalidRoot (root : String) (cause : Cause)
  | noWorkingDirectory (cause : Cause)
  | noEntries
  deriving DecidableEq, Repr

namespace Refusal

/-- What is said first about a refusal. -/
def headline : Refusal → String
  | invalidRoot root _ => "Invalid root directory " ++ root
  | noWorkingDirectory cause => cause.message
  | noEntries => "No entry files given"

/-- What is said to explain it, if anything is. -/
def explanation? : Refusal → Option String
  | invalidRoot _ cause => some cause.message
  | _ => none

/-- A refusal on one line. -/
def message (refusal : Refusal) : String :=
  match refusal.explanation? with
  | some explanation => refusal.headline ++ ": " ++ explanation
  | none => refusal.headline

/-- A refusal as it is shown when a program ends with it. -/
def report (refusal : Refusal) : String :=
  "Error: " ++ refusal.headline ++ match refusal.explanation? with
    | some explanation => "\n\nCaused by:\n    " ++ explanation ++ "\n"
    | none => "\n"

end Refusal

/-- The name that marks the root of a repository. -/
def repositoryMark : String := ".git"

/-- The first of some directories that holds a repository. -/
def firstRepository [Monad m] (access : Access m) : List String → m (Option String)
  | [] => pure none
  | directory :: rest => do
    if ← access.leadsSomewhere (Path.join directory repositoryMark) then pure (some directory)
    else firstRepository access rest

/-- The innermost directory around a path, or the path itself, that holds a repository. The
directories around a path are found from its text alone. -/
def repositoryAround [Monad m] (access : Access m) (path : String) : m (Option String) :=
  firstRepository access (Path.ancestors path)

/-- The repository around the working directory. -/
def repository [Monad m] (access : Access m) : m (Except Cause (Option String)) := do
  match ← access.workingDirectory with
  | .error cause => pure (.error cause)
  | .ok directory => do
    let found ← repositoryAround access directory.text
    pure (.ok found)

namespace Config

/-- How graphs are to be built. -/
def options (config : Config) : Options where
  extensions := Extension.normalise config.extensions
  dynamicImports := config.dynamicImports
  policy := if config.keepGoing then .record else .abort

/-- The root directory that a configuration asks for. -/
def chooseRoot [Monad m] (access : Access m) : Option String → m (Except Refusal String)
  | some given => do
    match ← access.canonicalize given with
    | .error cause => pure (.error (.invalidRoot given cause))
    | .ok root => pure (.ok root.text)
  | none => do
    match ← repository access with
    | .error cause => pure (.error (.noWorkingDirectory cause))
    | .ok (some found) => pure (.ok found)
    | .ok none => do
      match ← access.workingDirectory with
      | .error cause => pure (.error (.noWorkingDirectory cause))
      | .ok directory => pure (.ok directory.text)

/-- Settles the root directory of a configuration. A configuration for which that fails is left
without one. -/
def initialised [Monad m] (access : Access m) (config : Config) :
    m (Except Refusal Unit × Config) := do
  match ← chooseRoot access config.root with
  | .ok root => pure (.ok (), { config with root := some root })
  | .error refusal => pure (.error refusal, { config with root := none })

end Config

end ModuleGraph
