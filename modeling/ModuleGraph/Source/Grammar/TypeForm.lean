import ModuleGraph.Source.Grammar.Signature

/-!
# Types

The types of TypeScript. They matter to a reader of requests only as something to get across:
nothing in them asks for a module, though a computed key or the options of an import type may hold
an expression.
-/

namespace ModuleGraph.Source.TypeForm

open Reading

/-! ## Where a type starts -/

/-- The words that are types by themselves. -/
def keywordTypes : List String :=
  ["any", "bigint", "boolean", "intrinsic", "never", "null", "number", "object", "string", "symbol",
    "undefined", "unknown", "void"]

/-- Moves past the beginning of a parameter, if one stands here. -/
def passParameterStart (g : Grammar) : Reading Bool := do
  if (← token).isModifier then discard (Ascription.modifiers false false)
  let current ← token
  if current.isBindingName || current.isWord "this" then
    step
    return true
  if (← sees .bracketOpen) || (← sees .braceOpen) then
    let before := (← cursor).faulty
    discard g.pattern
    return (← cursor).faulty == before
  return false

/-- Whether the parenthesis that stands here opens the parameters of a function type. -/
def opensParameters (g : Grammar) : Reading Bool :=
  foresee do
    step
    if (← sees .parenClose) || (← sees .ellipsis) then return true
    if !(← passParameterStart g) then return false
    if (← sees .colon) || (← sees .comma) || (← sees .question) || (← sees (.assign none)) then
      return true
    if ← sees .parenClose then
      step
      sees .arrow
    else return false

/-- Whether a function type or constructor type stands here. -/
def startsFunction (g : Grammar) : Reading Bool := do
  match ← token with
  | .mark (.operator .less) => return true
  | .mark .parenOpen => opensParameters g
  | .word "new" _ => return true
  | .word "abstract" _ => foresee do step; seesWord "new"
  | _ => return false

/-- Whether any type starts with the current token. -/
def starts (g : Grammar) : Reading Bool := do
  let current ← token
  match current with
  | .mark .braceOpen | .mark .bracketOpen | .mark .question | .mark .bang
  | .mark .ellipsis => return true
  | .mark (.operator .less) | .mark (.operator .bitOr) | .mark (.operator .bitAnd)
  | .mark (.operator .star) => return true
  | .mark (.operator .minus) =>
      foresee do
        step
        return (← token) == .number
  | .mark .parenOpen =>
      foresee do
        if ← opensParameters g then return true
        step
        match ← token with
        | .mark .parenClose => return true
        | inner => return inner.isName || inner.isLiteral ||
            inner.isWordOf ["this", "typeof", "new", "void"] ||
            inner.isMark .parenOpen || inner.isMark .braceOpen || inner.isMark .bracketOpen
  | .string _ | .number => return true
  | .templateWhole _ | .templateHead _ => return true
  | _ => return current.isName ||
      current.isWordOf ["void", "null", "this", "typeof", "new", "true", "false", "import",
        "function"]

/-! ## Single types -/

/-- A name with further names behind dots. -/
def qualifiedName : Reading Unit := do
  discard anyName
  discard (manyOf do
    if ← eat .dot then return some (← anyName) else return none)

/-- A type called by its name. -/
def reference (g : Grammar) : Reading Node := do
  qualifiedName
  if ← afterLine then return .group .referenceType []
  else return .group .referenceType (← Ascription.arguments? g)

/-- The type of a module, from the word `import` on. -/
def moduleType (g : Grammar) : Reading Node := do
  expectWord "import"
  expect .parenOpen
  let source ← stringValue
  let options ←
    if ← eat .comma then
      if ← sees .braceOpen then some <$> withIn (g.assignment true) else pure none
    else pure none
  discard (eat .comma)
  expect .parenClose
  if ← eat .dot then qualifiedName
  let arguments ← if ← afterLine then pure [] else Ascription.arguments? g
  return .group .importType (.string source :: options.toList ++ arguments)

/-- The type that an expression has, from the word `typeof` on. -/
def query (g : Grammar) : Reading Node := do
  step
  if ← seesWord "import" then return .group .queryType [← moduleType g]
  qualifiedName
  if ← afterLine then return .group .queryType []
  else return .group .queryType (← Ascription.arguments? g)

/-- A template whose substitutions are types. -/
def template (g : Grammar) : Reading Node := do
  step
  let types ← manyOf do
    match ← token with
    | .templateTail _ =>
        step
        return none
    | .templateMiddle _ =>
        step
        return some none
    | _ =>
        let inner ← g.type
        resumeTemplate
        return some (some inner)
  return .group .templateType types.reduceOption

/-- Whether an element of a tuple is labelled. -/
def startsLabel : Reading Bool :=
  foresee do
    discard (eat .ellipsis)
    discard anyName
    if ← eat .question then sees .colon else sees .colon

/-- An element of a tuple. -/
def tupleElement (g : Grammar) : Reading Node := do
  if ← startsLabel then
    discard (eat .ellipsis)
    discard anyName
    discard (eat .question)
    expect .colon
    g.type
  else
    discard (eat .ellipsis)
    g.type

/-- Whether the brace that stands here opens a mapped type. -/
def startsMapped : Reading Bool :=
  foresee do
    step
    if (← sees (.operator .plus)) || (← sees (.operator .minus)) then
      step
      seesWord "readonly"
    else
      discard (eatWord "readonly")
      expect .bracketOpen
      discard boundName
      seesWord "in"

/-- Moves past one sign, a plus or a minus, if there is one. -/
def eatSign : Reading Bool := do
  if (← sees (.operator .plus)) || (← sees (.operator .minus)) then
    step
    return true
  else return false

/-- A type with a member for each key of another type. -/
def mapped (g : Grammar) : Reading Node := do
  expect .braceOpen
  if ← eatSign then expectWord "readonly" else discard (eatWord "readonly")
  expect .bracketOpen
  discard boundName
  expectWord "in"
  let keys ← g.type
  let renamed ← if ← eatWord "as" then some <$> g.type else pure none
  expect .bracketClose
  if ← eatSign then expect .question else discard (eat .question)
  let value ← if ← eat .colon then some <$> g.type else pure none
  discard (eat .semicolon)
  expect .braceClose
  return .group .mappedType (keys :: renamed.toList ++ value.toList)

/-- A type that is not an array, an access or anything else made with what stands behind it. -/
def atom (g : Grammar) : Reading Node := do
  let current ← token
  match current with
  | .string value =>
      step
      return .group .literalType [.string value]
  | .number | .templateWhole _ | .word "true" _ | .word "false" _ =>
      step
      return .group .literalType []
  | .templateHead _ => template g
  | .mark (.operator .minus) =>
      step
      if (← token) == .number then step else refuse
      return .group .literalType []
  | .mark .question | .mark .bang =>
      step
      return .group .optionalType [← g.type]
  | .mark .bracketOpen =>
      step
      return .group .tupleType (← closedList .bracketClose (tupleElement g))
  | .mark .braceOpen =>
      if ← startsMapped then mapped g else return .group .objectType (← Signature.members g)
  | .mark .parenOpen =>
      step
      let inner ← within (fun scope => { scope with plainType := false }) g.type
      expect .parenClose
      return .group .parenthesizedType [inner]
  | .word "import" _ => moduleType g
  | .word "typeof" _ => query g
  | .word "this" _ =>
      step
      if (← seesWord "is") && !(← afterLine) then
        step
        return .group .predicateType [← g.type]
      return .group .keywordType []
  | .word "asserts" _ =>
      let asserted ← foresee do
        step
        return ((← token).isName || (← seesWord "this")) && !(← afterLine)
      if asserted then
        step
        discard anyName
        let narrowed ← if ← eatWord "is" then some <$> g.type else pure none
        return .group .predicateType narrowed.toList
      else reference g
  | _ =>
      if current.isWordOf keywordTypes && !(← foresee do step; sees .dot) then
        step
        return .group .keywordType []
      else reference g

/-! ## Types made of types -/

/-- A type with the brackets and marks behind it. A question mark belongs to it only where no type
follows. -/
def withSuffixes (g : Grammar) : Reading Node := do
  repeatedly (fun node => do
    if ← afterLine then return none
    match ← token with
    | .mark .bang =>
        step
        return some (.group .optionalType [node])
    | .mark .question =>
        if ← foresee do step; starts g then return none
        step
        return some (.group .optionalType [node])
    | .mark .bracketOpen =>
        step
        if ← starts g then
          let index ← g.type
          expect .bracketClose
          return some (.group .indexedType [node, index])
        else
          expect .bracketClose
          return some (.group .arrayType [node])
    | _ => return none) (← atom g)

/-- The bound of an inferred type, which must not be the condition around it. -/
def inferredBound (g : Grammar) : Reading Node := do
  expectWord "extends"
  let bound ← within (fun scope => { scope with plainType := true }) g.type
  if (← scope).plainType || !(← sees .question) then return bound else refuse

/-- A type with the operators that stand before it. -/
def operand (g : Grammar) : Reading Node := do
  match ← token with
  | .word "keyof" _ | .word "unique" _ | .word "readonly" _ =>
      step
      return .group .operatorType [← g.typeOperand]
  | .word "infer" _ =>
      step
      discard boundName
      let bound ← if ← seesWord "extends" then attempt (inferredBound g) else pure none
      return .group .inferType bound.toList
  | _ => within (fun scope => { scope with plainType := false }) (withSuffixes g)

/-- Operands of a union or intersection. One alone is itself, unless an operator stands before
it. -/
def joined (op : Operator) (form : Form) (part : Reading Node) : Reading Node := do
  let leading ← eat (.operator op)
  let first ← part
  let more ← manyOf do
    if ← eat (.operator op) then return some (← part) else return none
  return if more.isEmpty && !leading then first else .group form (first :: more)

/-- A function type or constructor type. -/
def function (g : Grammar) : Reading Node := do
  discard (eatWord "abstract")
  discard (eatWord "new")
  let types ← Ascription.parameters g
  let ps ← Callable.parameters g
  expect .arrow
  let result ← Ascription.typeOrPredicate g
  return .group .functionType (types ++ ps.nodes ++ [result])

/-- A type. -/
def whole (g : Grammar) : Reading Node := do
  if ← startsFunction g then function g
  else
    let tested ← joined .bitOr .unionType (joined .bitAnd .intersectionType (operand g))
    if !(← scope).plainType && (← seesWord "extends") && !(← afterLine) then
      step
      let bound ← within (fun scope => { scope with plainType := true }) g.type
      expect .question
      let branch := within (fun scope => { scope with plainType := false }) g.type
      let yes ← branch
      expect .colon
      let no ← branch
      return .group .conditionalType [tested, bound, yes, no]
    else return tested

end ModuleGraph.Source.TypeForm
