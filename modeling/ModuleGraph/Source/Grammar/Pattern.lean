import ModuleGraph.Source.Grammar.Ascription

/-!
# Patterns

What stands where a declaration or parameter introduces names: a name, or an object or array of
patterns, each with an optional value that stands in for a missing one.
-/

namespace ModuleGraph.Source.Pattern

open Reading

/-- An expression in brackets that computes a key. -/
def computedKey (g : Grammar) : Reading Node := do
  step
  let key ← withIn (g.assignment true)
  expect .bracketClose
  return key

/-- The key of a member, with its spelling if it is a plain word. -/
def key (g : Grammar) : Reading (Node × Option String) := do
  match ← token with
  | .string value =>
      step
      return (.string value, none)
  | .number =>
      step
      return (.group .literal [], none)
  | .mark .bracketOpen => return (← computedKey g, none)
  | _ =>
      let spelling ← anyName
      return (.group .name [], some spelling)

/-- The value that stands in for a missing one, if it is given. -/
def withDefault (g : Grammar) (target : Node) : Reading Node := do
  if ← eat (.assign none) then
    let value ← withIn (g.assignment true)
    return .group .withDefault [target, value]
  else return target

/-- A pattern with its type, if that is given. -/
def annotate (g : Grammar) (target : Node) : Reading Node := do
  match ← Ascription.type? g with
  | some ascribed => return .group .annotated [target, ascribed]
  | none => return target

/-- A pattern that may be optional and have a type and a value that stands in. -/
def element (g : Grammar) : Reading Node := do
  let target ← g.pattern
  if ← typescript then discard (eat .question)
  withDefault g (← annotate g target)

/-- The rest of a list, which must not have a value that stands in. -/
def rest (g : Grammar) : Reading Node := do
  step
  let target ← g.pattern
  if ← typescript then
    if ← eat .question then fault
  let annotated ← annotate g target
  let whole ← withDefault g annotated
  faultIf (whole.isForm .withDefault)
  return .group .rest [whole]

/-- A member of an object pattern. -/
def property (g : Grammar) : Reading Node := do
  let first ← token
  let (name, spelling) ← key g
  if first.isBindingName && !(← sees .colon) then
    let around ← scope
    faultIf ((first.isWord "await" && around.async) || (first.isWord "yield" && around.generator))
    return .group .patternProperty [← withDefault g (.identifier (spelling.getD ""))]
  else
    expect .colon
    return .group .patternProperty [name, ← element g]

/-- An array element, or the gap between two commas. -/
def elementOrHole (g : Grammar) : Reading Node := do
  if ← sees .comma then return .group .hole [] else element g

/-- A pattern without a type. -/
def target (g : Grammar) : Reading Node := do
  match ← token with
  | .mark .braceOpen =>
      step
      let (members, last) ← listWithRest .braceClose (property g) (rest g)
      match last with
      | some (.group .rest [inner]) => faultIf !(inner.isIdentifier || inner.isForm .annotated)
      | _ => pure ()
      expect .braceClose
      return .group .objectPattern (members ++ last.toList)
  | .mark .bracketOpen =>
      step
      let (elements, last) ← listWithRest .bracketClose (elementOrHole g) (rest g)
      expect .bracketClose
      return .group .arrayPattern (elements ++ last.toList)
  | _ => return .identifier (← boundName)

mutual

/-- The names that a pattern introduces. -/
def names : Node → List String
  | .identifier name => [name]
  | .group .withDefault (target :: _) => names target
  | .group .annotated (target :: _) => names target
  | .group .patternProperty parts => lastNames parts
  | .group .rest parts => allNames parts
  | .group .objectPattern parts => allNames parts
  | .group .arrayPattern parts => allNames parts
  | .group .declarator (target :: _) => names target
  | .group .bindings parts => allNames parts
  | _ => []

/-- The names of several patterns. -/
def allNames : List Node → List String
  | [] => []
  | node :: nodes => names node ++ allNames nodes

/-- The names of the last of several nodes. -/
def lastNames : List Node → List String
  | [] => []
  | [node] => names node
  | _ :: nodes => lastNames nodes

end

end ModuleGraph.Source.Pattern
