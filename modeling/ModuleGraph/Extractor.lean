import ModuleGraph.Disk.Access
import ModuleGraph.Failure
import ModuleGraph.Source.Parser

/-!
# Extractors

An extractor reads the requests of files and remembers them. A file whose text was once read is not
read again by the same extractor; a file that could not be read, or whose text is not well formed,
is.
-/

namespace ModuleGraph

/-- What requests to look for, and those found so far. -/
structure Extractor where
  /-- Whether calls of `import` count. -/
  dynamic : Bool
  known : List (Location × List Specifier)
  deriving DecidableEq, Repr

namespace Extractor

/-- An extractor that has read nothing. -/
def fresh (dynamic : Bool) : Extractor :=
  ⟨dynamic, []⟩

/-- The requests in the text of a file. -/
def extract [Source.Parser] (dynamic : Bool) (path text : String) :
    Except Failure (List Specifier) :=
  (Source.Parser.requests dynamic path text).mapError (.malformed path)

/-- The number of files that were read. -/
def count (extractor : Extractor) : Nat :=
  extractor.known.length

/-- The requests of a file. -/
def imports [Source.Parser] [Monad m] (access : Access m) (file : Location)
    (extractor : Extractor) : m (Except Failure (List Specifier) × Extractor) :=
  match extractor.known.lookup file with
  | some specifiers => pure (.ok specifiers, extractor)
  | none => do
    match ← access.readText file.text with
    | .error cause => pure (.error (.unreadable file.text cause), extractor)
    | .ok text =>
      match extract extractor.dynamic file.text text with
      | .error failure => pure (.error failure, extractor)
      | .ok specifiers =>
        pure (.ok specifiers, { extractor with known := (file, specifiers) :: extractor.known })

end Extractor

end ModuleGraph
