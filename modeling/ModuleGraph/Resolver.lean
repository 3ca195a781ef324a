import ModuleGraph.Disk.Access
import ModuleGraph.Extension
import ModuleGraph.Failure

/-!
# Resolvers

A resolver turns a specifier into a file by trying one extension after the other. The first
candidate that is a file wins. What was found for a specifier in a directory is remembered, what
was not found is not.
-/

namespace ModuleGraph

/-- The extensions to try, in order, and what was found so far. -/
structure Resolver where
  extensions : List String
  known : List ((Location × String) × Location)
  deriving DecidableEq, Repr

namespace Resolver

/-- A resolver that has found nothing, for extensions as users write them. -/
def fresh (extensions : List String) : Resolver :=
  ⟨Extension.normalise extensions, []⟩

/-- Where a specifier may lead from a directory, one location for each extension. -/
def candidates (extensions : List String) (directory : Location) (specifier : String) :
    List Location :=
  extensions.map fun extension => directory.along (specifier ++ extension)

/-- The first location at which there is a file. -/
def firstFile [Monad m] (access : Access m) : List Location → m (Option Location)
  | [] => pure none
  | candidate :: rest => do
    if ← access.isFile candidate.text then pure (some candidate) else firstFile access rest

/-- The file that a specifier in a file leads to. -/
def target [Monad m] (access : Access m) (file : Location) (specifier : String)
    (resolver : Resolver) : m (Except Failure Location × Resolver) :=
  match resolver.known.lookup (file.parent, specifier) with
  | some found => pure (.ok found, resolver)
  | none => do
    let tried := candidates resolver.extensions file.parent specifier
    match ← firstFile access tried with
    | none => pure (.error (.unresolved specifier file.text tried), resolver)
    | some candidate =>
      match ← access.canonicalize candidate.text with
      | .error cause => pure (.error (.unreadable candidate.text cause), resolver)
      | .ok found =>
        let known := ((file.parent, specifier), found) :: resolver.known
        pure (.ok found, { resolver with known })

end Resolver

end ModuleGraph
