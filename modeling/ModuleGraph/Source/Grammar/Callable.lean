import ModuleGraph.Source.Grammar.Pattern

/-!
# Functions

Parameters, bodies and what goes around them: the one rule that function declarations, function
expressions, methods and accessors share.
-/

namespace ModuleGraph.Source.Callable

open Reading

/-- A decorator. -/
def decorator (g : Grammar) : Reading Node := do
  step
  return .group .decorator [← within (fun scope => { scope with decorator := true }) g.leftHand]

/-- The decorators that stand here. -/
def decorators (g : Grammar) : Reading (List Node) :=
  manyUntil (fun t => !t.isMark .atSign) (decorator g)

/-- Statements up to the closing brace of their block. -/
def statementsToBrace (g : Grammar) : Reading (List Node) := do
  let list ← manyUntil (·.isMark .braceClose) (g.statement .listed)
  expect .braceClose
  return list

/-- A block of statements. -/
def block (g : Grammar) : Reading Node := do
  expect .braceOpen
  return .group .block (← statementsToBrace g)

/-- The body of a function. -/
def body (g : Grammar) : Reading Node :=
  within (fun scope => { scope with function := true, inOperator := true }) (block g)

/-- The parameters of a function. The type that `this` has in it is no parameter. -/
structure Parameters where
  receiver : List Node
  items : List Node
  rest : Option Node

/-- The parameters as nodes, in the order of the text. -/
def Parameters.nodes (ps : Parameters) : List Node :=
  ps.receiver ++ ps.items ++ ps.rest.toList

/-- How many parameters there are, the rest included. -/
def Parameters.count (ps : Parameters) : Nat :=
  ps.items.length + ps.rest.toList.length

/-- The modifiers that make a parameter of a constructor a member of its class. -/
def parameterModifiers : List String :=
  ["public", "private", "protected", "readonly", "override"]

/-- A parameter with its decorators. -/
def parameter (g : Grammar) : Reading Node := do
  let before ← decorators g
  let words ← Ascription.modifiers false false
  Ascription.onlyAllowed (if ← typescript then parameterModifiers else []) words
  return .group .parameter (before ++ [← Pattern.element g])

/-- The type of `this`, which may stand in front of the parameters. -/
def receiver (g : Grammar) : Reading (List Node) := do
  if (← typescript) && (← seesWord "this") then
    step
    let ascribed ← Ascription.type? g
    if !(← sees .parenClose) then expect .comma
    return ascribed.toList
  else return []

/-- Parameters in parentheses. -/
def parameters (g : Grammar) : Reading Parameters := do
  expect .parenOpen
  let this ← receiver g
  let (items, rest) ← listWithRest .parenClose (parameter g) (Pattern.rest g)
  expect .parenClose
  return ⟨this, items, rest⟩

/-- The part of a function behind its name. -/
structure Rest where
  parts : List Node
  parameters : Parameters
  hasBody : Bool

/-- Reads a function from its type parameters on. In TypeScript a function may be declared without
a body. -/
def rest (g : Grammar) (async generator : Bool) : Reading Rest := do
  within (fun scope => { scope with inOperator := true, async := async, generator := generator }) do
    let types ← Ascription.parameters g
    let ps ← parameters g
    let result ← Ascription.result? g
    if ← sees .braceOpen then
      let inside ← body g
      return ⟨types ++ ps.nodes ++ result.toList ++ [inside], ps, true⟩
    else if ← typescript then
      semicolon
      return ⟨types ++ ps.nodes ++ result.toList, ps, false⟩
    else refuse

/-- The name of a function. A function expression can be called by its own name in its body only,
so its name is read as the body is. -/
def name (form : Form) (async generator : Bool) : Reading String :=
  if form = .functionExpression then
    within (fun scope => { scope with async := async, generator := generator }) boundName
  else boundName

/-- A function from the word `function` on, with its name if it has one and with whether it is a
generator. -/
def function (g : Grammar) (form : Form) (async nameRequired : Bool) :
    Reading (Node × Option String × Bool) := do
  expectWord "function"
  let generator ← eat (.operator .star)
  let called ←
    if (← token).isBindingName then some <$> name form async generator
    else if nameRequired then refuse
    else pure none
  let tail ← rest g async generator
  return (.group form ((called.map Node.identifier).toList ++ tail.parts), called, generator)

/-- A method from its parameters on. -/
def method (g : Grammar) (async generator : Bool) : Reading (Node × Rest) := do
  let tail ← rest g async generator
  return (.group .functionExpression tail.parts, tail)

/-- An accessor from its parameters on. One that reads a member has no parameters, and one that
writes it has exactly one, which is not a rest. -/
def accessor (g : Grammar) (reads : Bool) : Reading Node := do
  let (node, tail) ← method g false false
  if reads then faultIf !tail.parameters.items.isEmpty
  else faultIf (tail.parameters.rest.isSome || tail.parameters.count != 1)
  return node

end ModuleGraph.Source.Callable
