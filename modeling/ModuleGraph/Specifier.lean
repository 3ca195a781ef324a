/-!
# Specifiers

What a program writes to ask for another module. The same text can be asked for in three ways, and
a reader of the graph wants to know which, so the way is kept with the text.
-/

namespace ModuleGraph

/-- How a module is asked for: by an import declaration, by a call of `require`, or by a call of
`import`. -/
inductive RequestKind where
  | static
  | require
  | dynamic
  deriving DecidableEq, Repr

/-- A request for a module, as written in a program. -/
structure Specifier where
  request : String
  kind : RequestKind
  deriving DecidableEq, Repr

end ModuleGraph
