import ModuleGraph.Path

/-!
# Relative paths

Reports show a path by what it is below the root directory. Paths are compared component by
component, as they are written, and a path that is not below the root is shown unchanged.
-/

namespace ModuleGraph.Path

/-- Two lists without their common beginning. -/
def withoutCommon [DecidableEq α] : List α → List α → List α × List α
  | x :: xs, y :: ys => if x = y then withoutCommon xs ys else (x :: xs, y :: ys)
  | xs, ys => (xs, ys)

/-- The components that lead from a base to a target, if the two have a beginning in common. -/
def steps? (base target : List Component) : Option (List Component) :=
  let (up, down) := withoutCommon base target
  if up.isEmpty && down.isEmpty then some []
  else if up.length = base.length then none
  else some (up.map (fun _ => .parent) ++ down)

/-- A path as it is shown to a reader who knows the root directory. -/
def display (root : Option String) (path : String) : String :=
  match root with
  | none => path
  | some root =>
    match steps? (components root) (components path) with
    | none => path
    | some [] => "."
    | some (.parent :: _) => path
    | some steps => ofComponents steps

end ModuleGraph.Path
