import ModuleGraph.Path

/-!
# Dialects

Which language a file is written in follows from its name alone. Types may be written in TypeScript
files, markup in the two `x` dialects, and the `c` dialects are scripts, where `await` is an
ordinary name and the comments of a markup page are comments.
-/

namespace ModuleGraph.Source

/-- What a text may contain beyond the common language. -/
structure Dialect where
  typescript : Bool
  markup : Bool
  isModule : Bool
  deriving DecidableEq, Repr

namespace Dialect

/-- The dialect of a file. An extension counts in lower case only, and a file without one holds a
module. -/
def ofPath (path : String) : Dialect :=
  match Path.extension? path with
  | none => ⟨false, false, true⟩
  | some extension =>
      ⟨["ts", "tsx", "mts", "cts"].contains extension, ["tsx", "jsx"].contains extension,
        !(["cjs", "cts"].contains extension)⟩

end Dialect

end ModuleGraph.Source
