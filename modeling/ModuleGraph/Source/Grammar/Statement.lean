import ModuleGraph.Source.Grammar.ModuleItem

/-!
# Statements
-/

namespace ModuleGraph.Source.Statement

open Reading

/-- A statement that is the body of another. -/
def body (g : Grammar) : Reading Node :=
  g.statement .single

/-- An expression as a statement. -/
def ofExpression (g : Grammar) : Reading Node := do
  let expression ← Expression.sequence g
  semicolon
  return .group .expressionStatement [expression]

/-- An expression as a statement, or a label with a statement behind it. -/
def expressionOrLabel (g : Grammar) : Reading Node := do
  let expression ← Expression.sequence g
  if expression.isIdentifier then
    if ← eat .colon then return .group .labelled [← body g]
  semicolon
  return .group .expressionStatement [expression]

/-- Variables. Only `var` may stand as the body of another statement. -/
def bindings (g : Grammar) (position : Position) : Reading Node := do
  faultIf (position = .single && !(← seesWord "var"))
  return (← Declaration.bindings g).node

/-- What starts with the word `let`, which is a name if nothing that it could declare follows. -/
def letForm (g : Grammar) (position : Position) : Reading Node := do
  let next ← fun setting before =>
    (some ((do step; token : Reading Token) setting before).1, before)
  match next with
  | some (.mark (.assign _)) | some (.mark (.operator _)) | some (.word "in" _)
  | some (.word "instanceof" _) =>
      let expression ← g.assignment true
      semicolon
      return .group .expressionStatement [expression]
  | some (.mark .dot) | some (.mark .parenOpen) =>
      return .group .expressionStatement [← Expression.sequence g]
  | some (.mark .semicolon) => ofExpression g
  | some (.mark .bracketOpen) => bindings g position
  | _ => if position = .single then ofExpression g else bindings g position

/-! ## Resources -/

/-- Whether the word `using` that stands here declares. -/
def declaresResource : Reading Bool :=
  foresee do
    step
    return ((← token).isBindingName || (← sees .braceOpen)) && !(← afterLine)

/-- Whether the words `await using` that stand here declare. -/
def declaresAwaited : Reading Bool :=
  foresee do
    step
    if (← seesWord "using") && !(← afterLine) then declaresResource else return false

/-- Resources with commas between them. They are called by plain names and need values, except in
the head of a loop. -/
def resources (g : Grammar) (inLoop : Bool) : Reading Node := do
  discard (eatWord "await")
  expectWord "using"
  let (node, incomplete) ← Declaration.declarators g true
  faultIf (incomplete && !inLoop)
  match node with
  | .group .bindings list => faultIf (list.any fun
      | .group .declarator (target :: _) =>
          target.isForm .objectPattern || target.isForm .arrayPattern
      | _ => false)
  | _ => pure ()
  return node

/-! ## Loops -/

/-- Reads with the word `in` as no operator. -/
def withoutIn {α : Type} (rule : Reading α) : Reading α :=
  within (fun scope => { scope with inOperator := false }) rule

/-- A loop with three parts, from its first semicolon on. -/
def threePart (g : Grammar) (first : List Node) (awaited : Bool) : Reading Node := do
  expect .semicolon
  let test ←
    if (← sees .semicolon) || (← sees .parenClose) then pure []
    else pure [← withIn (Expression.sequence g)]
  expect .semicolon
  let update ← if ← sees .parenClose then pure [] else pure [← withIn (Expression.sequence g)]
  expect .parenClose
  faultIf awaited
  return .group .forStatement (first ++ test ++ update ++ [← body g])

/-- A loop over the keys of an object, from the word `in` on. -/
def overKeys (g : Grammar) (left : Node) (awaited : Bool) : Reading Node := do
  step
  let right ← Expression.sequence g
  expect .parenClose
  faultIf awaited
  return .group .forInStatement [left, right, ← body g]

/-- A loop over the values of a sequence, from the word `of` on. -/
def overValues (g : Grammar) (left : Node) : Reading Node := do
  step
  let right ← g.assignment true
  expect .parenClose
  return .group .forOfStatement [left, right, ← body g]

/-- A loop behind the declaration in its head. Constants need values only where they get none from
a sequence. -/
def afterDeclaration (g : Grammar) (declared : Node) (incomplete awaited : Bool) :
    Reading Node := do
  if ← seesWord "in" then overKeys g declared awaited
  else if ← seesWord "of" then overValues g declared
  else
    faultIf (incomplete && !(← scope).ambient)
    threePart g [declared] awaited

/-- Whether the word `let` in the head of a loop declares. -/
def letDeclares : Reading Bool :=
  foresee do
    step
    match ← token with
    | .mark .braceOpen | .mark .bracketOpen => return true
    | .word spelling _ => return spelling != "in"
    | _ => return false

/-- Whether the words for a resource in the head of a loop declare. The name `of` would start the
sequence. -/
def loopDeclaresResource : Reading Bool := do
  if ← seesWord "using" then
    foresee do
      step
      return (← token).isBindingName && !(← seesWord "of") && !(← afterLine)
  else if ← seesWord "await" then declaresAwaited
  else return false

/-- A loop behind the expression in its head, which has to be a target if a sequence follows. -/
def afterExpression (g : Grammar) (expression : Node) (letOf asyncOf awaited : Bool) :
    Reading Node := do
  if ← seesWord "in" then overKeys g (← Expression.target true expression) awaited
  else if ← seesWord "of" then
    let left ← Expression.target true expression
    faultIf ((asyncOf && !awaited) || letOf)
    overValues g left
  else threePart g [expression] awaited

/-- A loop from the word `for` on. -/
def forForm (g : Grammar) : Reading Node := do
  step
  let awaited ← seesWord "await"
  if awaited then
    faultIf !(← scope).async
    step
  expect .parenOpen
  if ← sees .semicolon then return ← threePart g [] awaited
  if (← seesWord "var") || (← seesWord "const") || ((← seesWord "let") && (← letDeclares)) then
    let constant ← seesWord "const"
    step
    let (declared, incomplete) ← withoutIn (Declaration.declarators g constant)
    return ← afterDeclaration g declared incomplete awaited
  if ← loopDeclaresResource then
    let declared ← withoutIn (resources g true)
    return ← afterDeclaration g declared false awaited
  let ofFollows ← foresee do step; seesWord "of"
  let letOf := ofFollows && (← seesWord "let")
  let asyncOf := ofFollows && (← seesWord "async") && !(← isEscaped)
  let expression ← withoutIn (Expression.sequence g)
  afterExpression g expression letOf asyncOf awaited

/-! ## Branches -/

/-- A branch on a condition. -/
def ifForm (g : Grammar) : Reading Node := do
  step
  let test ← Expression.condition g
  let yes ← body g
  let no ← if ← eatWord "else" then pure [← body g] else pure []
  return .group .ifStatement (test :: yes :: no)

/-- A loop with its condition behind its body. -/
def doForm (g : Grammar) : Reading Node := do
  step
  let inside ← body g
  expectWord "while"
  let test ← Expression.condition g
  discard (eat .semicolon)
  return .group .doStatement [inside, test]

/-- A statement of a condition or object in parentheses and a body. -/
def conditioned (g : Grammar) (form : Form) : Reading Node := do
  step
  let test ← Expression.condition g
  return .group form [test, ← body g]

/-- Whether a token ends the statements of a case. -/
def endsCase (t : Token) : Bool :=
  t.isWord "case" || t.isWord "default" || t.isMark .braceClose

/-- A case of a switch. -/
def switchCase (g : Grammar) : Reading Node := do
  let test ←
    if ← eatWord "default" then pure []
    else do
      expectWord "case"
      pure [← Expression.sequence g]
  expect .colon
  return .group .switchCase (test ++ (← manyUntil endsCase (g.statement .listed)))

/-- A switch. -/
def switchForm (g : Grammar) : Reading Node := do
  step
  let subject ← Expression.condition g
  expect .braceOpen
  let cases ← manyUntil (·.isMark .braceClose) (switchCase g)
  expect .braceClose
  return .group .switchStatement (subject :: cases)

/-! ## Jumps and exceptions -/

/-- A jump out of a loop or switch, which may name a label on its line. -/
def jump : Reading Node := do
  step
  if !(← canEnd) then discard boundName
  semicolon
  return .group .jump []

/-- The end of a function, with its result. -/
def returnForm (g : Grammar) : Reading Node := do
  faultIf !(← scope).function
  step
  if ← canEnd then
    discard (eat .semicolon)
    return .group .returnStatement []
  let value ← withIn (Expression.sequence g)
  semicolon
  return .group .returnStatement [value]

/-- An exception that is raised, on the same line. -/
def throwForm (g : Grammar) : Reading Node := do
  step
  faultIf (← afterLine)
  let value ← Expression.sequence g
  semicolon
  return .group .throwStatement [value]

/-- The handler of an exception. -/
def catchClause (g : Grammar) : Reading Node := do
  step
  let caught ←
    if ← eat .parenOpen then do
      let target ← Pattern.annotate g (← Pattern.target g)
      expect .parenClose
      pure [target]
    else pure []
  return .group .catchClause (caught ++ [← Callable.block g])

/-- A block with a handler for its exceptions, a block that runs in any case, or both. -/
def tryForm (g : Grammar) : Reading Node := do
  step
  let inside ← Callable.block g
  let handler ← if ← seesWord "catch" then pure [← catchClause g] else pure []
  let final ← if ← eatWord "finally" then pure [← Callable.block g] else pure []
  faultIf (handler.isEmpty && final.isEmpty)
  return .group .tryStatement (inside :: handler ++ final)

/-! ## Declarations as statements -/

/-- A function. Where a statement stands alone it must be neither asynchronous nor a generator. -/
def functionForm (g : Grammar) (position : Position) : Reading Node := do
  let (declared, special) ← Declaration.function g
  faultIf (position = .single && special)
  return declared.node

/-- A class, which cannot stand alone. -/
def classForm (g : Grammar) (position : Position) (before : List Node) : Reading Node := do
  let declared ← Declaration.classForm g before
  faultIf (position = .single)
  return declared.node

/-- A class with its decorators, exported or not. -/
def decorated (g : Grammar) (position : Position) : Reading Node := do
  let before ← Callable.decorators g
  if ← seesWord "export" then ModuleItem.exportDeclaration g before
  else
    Ascription.onlyAllowed ["abstract", "declare"] (← Ascription.modifiers false false)
    classForm g position before

/-- What starts with the word `import`: a call, or a declaration. -/
def importForm (g : Grammar) : Reading Node := do
  if ← foresee do step; return (← sees .dot) || (← sees .parenOpen) then expressionOrLabel g
  else
    step
    ModuleItem.importDeclaration

/-- A statement that starts with a word that has a meaning only in TypeScript. -/
def typescriptForm (g : Grammar) : Reading Node := do
  if (← typescript) && (← Declaration.starts) then return (← Declaration.whole g []).node
  else expressionOrLabel g

/-! ## Choosing -/

/-- A statement. -/
def whole (g : Grammar) (position : Position) : Reading Node := do
  match ← token with
  | .mark .braceOpen => Callable.block g
  | .mark .semicolon =>
      step
      return .group .emptyStatement []
  | .mark .atSign => decorated g position
  | .word spelling hasEscape =>
      match spelling with
      | "if" => ifForm g
      | "do" => doForm g
      | "while" => conditioned g .whileStatement
      | "for" => forForm g
      | "continue" | "break" => jump
      | "with" => conditioned g .withStatement
      | "switch" => switchForm g
      | "throw" => throwForm g
      | "try" => tryForm g
      | "debugger" =>
          step
          semicolon
          return .group .jump []
      | "class" => classForm g position []
      | "export" => ModuleItem.exportDeclaration g []
      | "return" => returnForm g
      | "var" => bindings g position
      | "function" => functionForm g position
      | "let" => if hasEscape then expressionOrLabel g else letForm g position
      | "async" =>
          if ← Expression.startsAsyncFunction then functionForm g position else typescriptForm g
      | "import" => importForm g
      | "const" =>
          if (← typescript) && (← foresee do step; seesWord "enum") then
            return (← Declaration.whole g []).node
          else bindings g position
      | "using" =>
          if ← declaresResource then
            let node ← resources g false
            semicolon
            return node
          else expressionOrLabel g
      | "await" =>
          if ← declaresAwaited then
            let node ← resources g false
            semicolon
            return node
          else expressionOrLabel g
      | "interface" | "type" | "module" | "namespace" | "declare" | "enum" | "private" | "protected"
      | "public" | "abstract" | "accessor" | "static" | "readonly" | "global" => typescriptForm g
      | _ => expressionOrLabel g
  | _ => expressionOrLabel g

end ModuleGraph.Source.Statement
