import ModuleGraph.Disk.Basic

/-!
# Failures

What can keep a file from being expanded: it cannot be read, its text is not well formed, or a
specifier in it leads to no file. A failure names the file by the path that was used for it.
-/

namespace ModuleGraph

/-- Why a file could not be expanded. -/
inductive Failure where
  | unreadable (path : String) (cause : Cause)
  | malformed (path : String) (complaint : String)
  | unresolved (specifier : String) (path : String) (tried : List Location)
  deriving DecidableEq, Repr

namespace Failure

/-- The name of the kind of a failure, as it is shown. -/
def kind : Failure → String
  | unreadable .. => "ReadError"
  | malformed .. => "ParseError"
  | unresolved .. => "UnresolvedModuleError"

/-- The file that a failure is about. -/
def file : Failure → String
  | unreadable path _ => path
  | malformed path _ => path
  | unresolved _ path _ => path

/-- The specifier that a failure is about, if it is about one. -/
def specifier? : Failure → Option String
  | unresolved specifier _ _ => some specifier
  | _ => none

/-- The locations at which no file was found, if the failure is about a specifier. -/
def tried? : Failure → Option (List Location)
  | unresolved _ _ tried => some tried
  | _ => none

/-- A failure in words. -/
def message : Failure → String
  | unreadable path cause => "failed to read " ++ path ++ ": " ++ cause.message
  | malformed path complaint => "failed to parse " ++ path ++ ": " ++ complaint
  | unresolved specifier path _ => "cannot resolve module '" ++ specifier ++ "' from " ++ path

end Failure

end ModuleGraph
