import ModuleGraph.Source.Tree
import ModuleGraph.Specifier

/-!
# The requests of a program

One walk over a syntax tree that collects what the program asks for, in the order of the text. A
request is noted before anything below its node, so that in a call of `require` the call comes
before what its own arguments ask for. Whether calls of `import` are wanted decides what is noted
and never where the walk goes.
-/

namespace ModuleGraph.Source.Node

/-- Whether an import declaration outlives the removal of types. One that names nothing is kept for
its effects. -/
def importsValue : Option (List ImportedName) → Bool
  | none => true
  | some [] => true
  | some names => names.any fun name => name != .named true

/-- The name of the function by which a script asks for a module. -/
def requireName : String := "require"

mutual

/-- The requests of a tree in front of the requests that follow it. -/
def collect (dynamic : Bool) : Node → List Specifier → List Specifier
  | .identifier _, following => following
  | .string _, following => following
  | .call callee typeArguments arguments, following =>
      let inside := collect dynamic callee
        (collectAll dynamic typeArguments (collectAll dynamic arguments following))
      match callee, arguments with
      | .identifier name, [.string request] =>
          if name = requireName then ⟨request, .require⟩ :: inside else inside
      | _, _ => inside
  | .importCall source options, following =>
      let inside := collect dynamic source (collectOption dynamic options following)
      match source with
      | .string request => if dynamic then ⟨request, .dynamic⟩ :: inside else inside
      | _ => inside
  | .importDeclaration typeOnly names source, following =>
      if !typeOnly && importsValue names then ⟨source, .static⟩ :: following else following
  | .shorthand _ initial, following => collectOption dynamic initial following
  | .group _ parts, following => collectAll dynamic parts following

/-- The requests of several trees, one after the other. -/
def collectAll (dynamic : Bool) : List Node → List Specifier → List Specifier
  | [], following => following
  | node :: nodes, following => collect dynamic node (collectAll dynamic nodes following)

/-- The requests of a tree that may be absent. -/
def collectOption (dynamic : Bool) : Option Node → List Specifier → List Specifier
  | none, following => following
  | some node, following => collect dynamic node following

end

/-- All requests of a program, in the order of the text. -/
def requests (dynamic : Bool) (program : Node) : List Specifier :=
  collect dynamic program []

end ModuleGraph.Source.Node
