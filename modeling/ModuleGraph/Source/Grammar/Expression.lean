import ModuleGraph.Source.Grammar.ClassForm
import ModuleGraph.Source.Grammar.Markup
import ModuleGraph.Source.Target

/-!
# Expressions

Expressions from the loosest form, a sequence with commas, to the tightest, a literal or name.
Binary operators are read by their precedence: an operand goes on with every operator that binds
more tightly than the one it is an operand of.

Two questions can be answered only by trying. A parenthesis may open the parameters of an arrow
function, and in TypeScript an angle bracket may open type arguments. In both cases the longer
reading is tried first.
-/

namespace ModuleGraph.Source.Expression

open Reading

/-! ## Sequences, lists and templates -/

/-- An expression with commas. -/
def sequence (g : Grammar) : Reading Node :=
  within (fun scope => { scope with decorator := false }) do
    let first ← g.assignment true
    let more ← manyOf do
      if ← eat .comma then return some (← g.assignment true) else return none
    return if more.isEmpty then first else .group .sequence (first :: more)

/-- An expression in parentheses that belong to a statement. -/
def condition (g : Grammar) : Reading Node := do
  expect .parenOpen
  let inner ← sequence g
  expect .parenClose
  return inner

/-- The elements of a list taken from an expression. -/
def spread (g : Grammar) : Reading Node := do
  step
  return .group .spread [← g.assignment true]

/-- An argument of a call. -/
def argument (g : Grammar) : Reading Node := do
  if ← sees .ellipsis then spread g else g.assignment true

/-- The arguments of a call in their parentheses. -/
def arguments (g : Grammar) : Reading (List Node) := do
  expect .parenOpen
  within (fun scope => { scope with inOperator := true, decorator := false })
    (closedList .parenClose (argument g))

/-- A mark behind the last item of a list, if a comma stands there. -/
def trailing (comma : Bool) : List Node :=
  if comma then [.group .trailingComma []] else []

/-- An element of an array, or the gap between two commas. -/
def elementOrHole (g : Grammar) : Reading Node := do
  if ← sees .comma then return .group .hole [] else argument g

/-- An array. -/
def array (g : Grammar) : Reading Node := do
  step
  let (elements, comma) ← withIn (commaList .bracketClose (elementOrHole g))
  expect .bracketClose
  return .group .array (elements ++ trailing comma)

/-- The pieces of a template and the expressions between them. A template without a function in
front of it must not hold invalid escapes. -/
def template (g : Grammar) (tagged : Bool) : Reading Node := do
  match ← token with
  | .templateWhole valid =>
      faultIf (!tagged && !valid)
      step
      return .group .template []
  | .templateHead valid =>
      faultIf (!tagged && !valid)
      step
      let pieces ← repeatedly (fun ((unfinished, inner) : Bool × List Node) => do
        if !unfinished then return none
        match ← token with
        | .templateTail valid =>
            faultIf (!tagged && !valid)
            step
            return some (false, inner)
        | .templateMiddle valid =>
            faultIf (!tagged && !valid)
            step
            return some (true, inner)
        | _ =>
            let expression ← withIn (sequence g)
            resumeTemplate
            return some (true, expression :: inner)) (true, [])
      return .group .template pieces.2.reverse
  | _ => refuse

/-! ## Objects -/

/-- A member of an object behind its modifiers. -/
def methodOrProperty (g : Grammar) (words : List String) : Reading Node := do
  let generator ← eat (.operator .star)
  let first ← token
  let around ← scope
  let isReference := first.isName || (first.isWord "yield" && !around.generator) ||
    (first.isWord "await" && !around.async)
  let (key, spelling) ← Pattern.key g
  if generator || (← sees .parenOpen) || (← sees (.operator .less)) then
    Ascription.onlyAllowed ["async"] words
    let (value, _) ← Callable.method g (words.contains "async") generator
    return .group .method [key, value]
  faultIf !words.isEmpty
  if isReference && !(← sees .colon) then
    if ← eat (.assign none) then
      let initial ← withIn (g.assignment true)
      move fun cursor => { cursor with pending := cursor.pending + 1 }
      return .shorthand (spelling.getD "") (some initial)
    else return .shorthand (spelling.getD "") none
  expect .colon
  return .group .property [key, ← g.assignment true]

/-- A member of an object. -/
def member (g : Grammar) : Reading Node := do
  if ← sees .ellipsis then return ← spread g
  let words ← Ascription.modifiers false false
  if ← Signature.accessorWord "get" then
    faultIf !words.isEmpty
    let (key, _) ← Pattern.key g
    return .group .method [key, ← Callable.accessor g true]
  else if ← Signature.accessorWord "set" then
    faultIf !words.isEmpty
    let (key, _) ← Pattern.key g
    return .group .method [key, ← Callable.accessor g false]
  else methodOrProperty g words

/-- An object. -/
def object (g : Grammar) : Reading Node := do
  step
  let (members, comma) ← withIn (commaList .braceClose (member g))
  expect .braceClose
  return .group .object (members ++ trailing comma)

/-! ## Type arguments in expressions -/

/-- Whether an expression can start with the current token. -/
def starts : Reading Bool := do
  let current ← token
  if current.isLiteral || current.isTemplateStart || current.isUnaryOperator || current.isUpdate ||
      current.isBindingName then return true
  match current with
  | .mark .parenOpen | .mark .bracketOpen | .mark .braceOpen | .mark .atSign => return true
  | .mark (.operator .slash) | .mark (.assign (some .slash)) | .mark (.operator .less)
  | .privateName _ => return true
  | .word "import" _ =>
      foresee do
        step
        return (← sees .parenOpen) || (← sees (.operator .less)) || (← sees .dot)
  | _ => return current.isWordOf ["this", "super", "function", "class", "new"]

/-- The precedence of the operator that the current token is. -/
def precedence? : Token → Option Nat
  | .mark (.operator op) =>
      some <| match op with
        | .coalesce => 1
        | .logicalOr => 2
        | .logicalAnd => 3
        | .bitOr => 4
        | .bitXor => 5
        | .bitAnd => 6
        | .equal | .notEqual | .identical | .notIdentical => 7
        | .less | .lessEqual | .greater | .greaterEqual => 8
        | .shiftLeft | .shiftRight | .shiftRightZero => 9
        | .plus | .minus => 10
        | .star | .slash | .percent => 11
        | .power => 12
  | .word "in" _ | .word "instanceof" _ | .word "as" _ | .word "satisfies" _ => some 8
  | _ => none

/-- Whether a list in angle brackets that ends before the current token can be one of type
arguments. If the expression could go on behind a closing bracket, the brackets compare. -/
def canFollowTypeArguments : Reading Bool := do
  let current ← token
  match current with
  | .mark .parenOpen | .templateWhole _ | .templateHead _ => return true
  | .mark (.operator .less) | .mark (.operator .greater) | .mark (.operator .plus)
  | .mark (.operator .minus) => return false
  | _ =>
      let isBinary :=
        (precedence? current).isSome && !(current.isWord "in" && !(← scope).inOperator)
      return (← afterLine) || isBinary || !(← starts)

/-- Type arguments inside an expression. -/
def typeArguments (g : Grammar) : Reading (List Node) := do
  splitLess
  expect (.operator .less)
  let (list, _) ← commaList (.operator .greater) g.type
  if (← cursor).lexeme.rest.head? == some '=' then refuse
  expect (.operator .greater)
  if !(← canFollowTypeArguments) then refuse
  faultIf list.isEmpty
  return list

/-! ## Primary expressions -/

/-- An expression in parentheses, which must hold something and no comma at its end. -/
def parenthesized (g : Grammar) : Reading Node := do
  step
  let (items, comma) ← within (fun scope => { scope with inOperator := true, decorator := false })
    (commaList .parenClose (g.assignment true))
  if comma then refuse
  expect .parenClose
  match items with
  | [] => refuse
  | [item] => return .group .parenthesized [item]
  | _ => return .group .parenthesized [.group .sequence items]

/-- A regular expression. -/
def regex : Reading Node := do
  match (← cursor).lexeme.asRegex? with
  | some lexeme =>
      load lexeme
      pass
      return .group .literal []
  | none => refuse

/-- The call of `import` behind that word. It takes a module and options for it. -/
def importCall (g : Grammar) : Reading Node := do
  expect .parenOpen
  withIn do
    let source ← g.assignment true
    let options ←
      if (← eat .comma) && !(← sees .parenClose) then some <$> g.assignment true else pure none
    discard (eat .comma)
    expect .parenClose
    return .importCall source options

/-- What starts with the word `import` inside an expression. -/
def importForm (g : Grammar) : Reading Node := do
  step
  if ← eat .dot then
    if ← eatWord "meta" then return .group .keyword []
    if (← seesWord "source") || (← seesWord "defer") then
      step
      return ← importCall g
    refuse
  else importCall g

/-- Splits the type arguments from an expression that has taken them for itself. -/
def splitTypeArguments : Node → Node × List Node
  | .group .instantiation (inner :: types) => (inner, types)
  | node => (node, [])

/-- The name or private name behind a dot. -/
def memberName : Reading Unit := do
  match ← token with
  | .privateName _ => step
  | _ => discard anyName

/-- What belongs to an operand without being a call: members, types and templates. The flag says
whether the operand holds an optional access. -/
def memberStep (g : Grammar) (optional : Bool) : Node × Bool → Reading (Option (Node × Bool))
  | (node, chained) => do
      match ← token with
      | .mark .dot =>
          step
          memberName
          return some (.group .member [node], chained)
      | .mark .optionalDot =>
          if !optional then return none
          if ← foresee do step; return (← token).isAnyWord || (← token) matches .privateName _ then
            step
            memberName
            return some (.group .member [node], true)
          else if ← foresee do step; sees .bracketOpen then
            step
            step
            let key ← withIn (sequence g)
            expect .bracketClose
            return some (.group .member [node, key], true)
          else return none
      | .mark .bracketOpen =>
          if (← scope).decorator then return none
          step
          let key ← withIn (sequence g)
          expect .bracketClose
          return some (.group .member [node, key], chained)
      | .mark .bang =>
          if !(← typescript) || (← afterLine) then return none
          step
          return some (.group .nonNull [node], chained)
      | .templateWhole _ | .templateHead _ =>
          let (tag, types) := splitTypeArguments node
          let text ← template g true
          faultIf chained
          return some (.group .taggedTemplate (tag :: types ++ [text]), chained)
      | .mark (.operator .less) | .mark (.operator .shiftLeft) =>
          if !(← typescript) then return none
          match ← attempt (typeArguments g) with
          | some types => return some (.group .instantiation (node :: types), chained)
          | none => return none
      | _ => return none

/-- A new object from the word `new` on, or the target of a construction. -/
def newForm (g : Grammar) : Reading Node := do
  step
  if ← eat .dot then
    expectWord "target"
    return .group .keyword []
  let (whole, _) ← repeatedly (memberStep g false) (← g.primary, false)
  let (callee, types) := splitTypeArguments whole
  if ← sees .optionalDot then refuse
  let given ← if ← sees .parenOpen then arguments g else pure []
  match callee with
  | .importCall .. => fault
  | _ => pure ()
  return .group .newExpression (callee :: types ++ given)

/-- Whether the word `async` that stands here belongs to a function expression. -/
def startsAsyncFunction : Reading Bool := do
  if !(← seesWord "async") then return false
  foresee do
    step
    return (← seesWord "function") && !(← afterLine)

/-- A class with its decorators. -/
def decoratedClass (g : Grammar) : Reading Node := do
  let before ← Callable.decorators g
  Ascription.onlyAllowed ["abstract"] (← Ascription.modifiers false false)
  return (← ClassForm.whole g .classExpression before).1

/-- The tightest expressions. -/
def primary (g : Grammar) : Reading Node := do
  match ← token with
  | .mark .bracketOpen => array g
  | .mark .braceOpen => object g
  | .mark .parenOpen => parenthesized g
  | .mark .atSign => decoratedClass g
  | .mark (.operator .slash) | .mark (.assign (some .slash)) => regex
  | .mark (.operator .less) =>
      if (← dialect).markup then
        step
        g.markup false
      else refuse
  | .templateWhole _ | .templateHead _ => template g false
  | .string value =>
      step
      return .string value
  | .number =>
      step
      return .group .literal []
  | .word "null" _ | .word "true" _ | .word "false" _ =>
      step
      return .group .literal []
  | .word "this" _ =>
      step
      return .group .keyword []
  | .word "super" _ =>
      step
      faultIf !((← sees .dot) || (← sees .parenOpen) || (← sees .bracketOpen))
      return .group .keyword []
  | .word "class" _ => return (← ClassForm.whole g .classExpression []).1
  | .word "function" _ => return (← Callable.function g .functionExpression false false).1
  | .word "new" _ => newForm g
  | .word "import" _ => importForm g
  | _ =>
      if ← startsAsyncFunction then
        step
        return (← Callable.function g .functionExpression true false).1
      else return .identifier (← boundName)

/-! ## Calls -/

/-- A call of an operand, with the members behind it. -/
def callStep (g : Grammar) : Node × Bool → Reading (Option (Node × Bool))
  | (node, chained) => do
      let optional ← eat .optionalDot
      let explicit ← if optional && (← typescript) &&
          ((← sees (.operator .less)) || (← sees (.operator .shiftLeft)))
        then attempt (typeArguments g) else pure none
      if explicit.isSome || (← sees .parenOpen) then
        let (callee, types) := splitTypeArguments node
        let given ← arguments g
        some <$> repeatedly (memberStep g true)
          (.call callee (explicit.getD types) given, chained || optional)
      else if optional then refuse
      else return none

/-- An operand with its members and calls. One with an optional access is wrapped as a whole, so
that it cannot be assigned to. -/
def leftHand (g : Grammar) : Reading Node := do
  let operand ← repeatedly (memberStep g true) (← g.primary, false)
  let (node, chained) ← repeatedly (callStep g) operand
  if !chained then return node
  match node with
  | .group .instantiation (inner :: types) =>
      return .group .instantiation (.group .chain [inner] :: types)
  | _ => return .group .chain [node]

/-! ## Operators -/

/-- Whether `await` that stands here is an operator. Where it is a name, an operand behind it on
the same line shows that it was meant as one. -/
def startsAwait : Reading Bool := do
  if !(← seesWord "await") then return false
  if (← scope).async then return true
  foresee do
    step
    return ((← token).isAnyWord || (← token).isLiteral) && !(← afterLine)

/-- Whether markup starts with the angle bracket that stands here. -/
def startsMarkup : Reading Bool := do
  if !((← dialect).markup && (← sees (.operator .less))) then return false
  foresee do
    step
    return (← token).isAnyWord || (← sees (.operator .greater))

/-- Marks a fault unless the expression can be assigned to, and refuses it if it is of no such
form. -/
def requireSimple (node : Node) : Reading Unit :=
  if Target.isSimple node then pure () else refuse

/-- An operand with the operators of one operand around it. -/
def unary (g : Grammar) : Reading Node := do
  let current ← token
  if current.isUnaryOperator then
    step
    return .group .unary [← g.unary]
  if current.isUpdate then
    step
    let operand ← g.unary
    requireSimple operand
    return .group .update [operand]
  if current.isMark (.operator .less) then
    if (← dialect).markup then
      if ← startsMarkup then
        step
        return ← g.markup false
      else refuse
    if !(← typescript) then refuse
    step
    let type ← g.type
    expect (.operator .greater)
    return .group .assertion [type, ← g.unary]
  if ← startsAwait then
    faultIf !(← scope).async
    step
    let operand ← within (fun scope => { scope with async := true }) g.unary
    return .group .awaitExpression [operand]
  let operand ← leftHand g
  if (← token).isUpdate && !(← afterLine) then
    step
    requireSimple operand
    return .group .update [operand]
  else return operand

/-- The form of two operands with an operator between them. Mixing the operator for missing values
with another logical one needs parentheses, and so does a power whose base has an operator of its
own. -/
def combine (operator : Token) (left right : Node) : Reading Node := do
  match operator with
  | .mark (.operator .coalesce) =>
      faultIf (left.isForm .logical || right.isForm .logical)
      return .group .coalesce [left, right]
  | .mark (.operator .logicalAnd) | .mark (.operator .logicalOr) =>
      return .group .logical [left, right]
  | .mark (.operator .power) =>
      faultIf (left.isForm .unary || left.isForm .awaitExpression)
      return .group .binary [left, right]
  | _ => return .group .binary [left, right]

/-- Goes on from a left operand with the next operator that binds more tightly than `minimum`.
Powers group to the right. -/
def binaryStep (g : Grammar) (minimum : Nat) (left : Node) : Reading (Option Node) := do
  joinGreater
  let operator ← token
  match precedence? operator with
  | none => return none
  | some level =>
      let stops := if operator.isMark (.operator .power) then level < minimum else level ≤ minimum
      if stops || (operator.isWord "in" && !(← scope).inOperator) then return none
      if operator.isWordOf ["as", "satisfies"] then
        if ← afterLine then return none
        step
        let type ← g.type
        faultIf !(← typescript)
        return some (.group .cast [left, type])
      step
      let right ← g.binary level
      return some (← combine operator left right)

/-- Operands with operators between them that bind more tightly than `minimum`. -/
def binary (g : Grammar) (minimum : Nat) : Reading Node := do
  let first ← match ← token with
    | .privateName _ => do
        if !(← scope).inOperator then refuse
        step
        expectWord "in"
        let object ← unary g
        pure (.group .privateIn [object])
    | _ => unary g
  repeatedly (binaryStep g minimum) first

/-! ## Arrow functions -/

/-- What a look at a few tokens says about an arrow function. -/
inductive Likelihood where
  | no
  | maybe
  | yes
  deriving DecidableEq

/-- Judges by the tokens behind a parenthesis. -/
def judgeParenthesis : Reading Likelihood := do
  let second ← token
  match second with
  | .mark .parenClose =>
      step
      return if (← sees .arrow) || (← sees .colon) || (← sees .braceOpen) then .yes else .no
  | .mark .bracketOpen | .mark .braceOpen => return .maybe
  | .mark .ellipsis => return .yes
  | _ =>
      step
      let third ← token
      if second.isModifier && !second.isWord "async" && third.isBindingName then
        return if third.isWord "as" then .no else .yes
      if !second.isBindingName && !second.isWord "this" then return .no
      match third with
      | .mark .colon => return .yes
      | .mark .question =>
          step
          return if (← sees .colon) || (← sees .comma) || (← sees (.assign none)) ||
              (← sees .parenClose)
            then .yes else .no
      | .mark .comma | .mark (.assign none) | .mark .parenClose => return .maybe
      | _ => return .no

/-- Judges by the tokens behind an angle bracket. Where markup is possible, only a comma, a default
or a bound makes it a type parameter. -/
def judgeAngle : Reading Likelihood := do
  let second ← token
  if !second.isBindingName && !second.isWord "const" then return .no
  if !(← dialect).markup then return .maybe
  discard (eatWord "const")
  step
  if ← eatWord "extends" then
    return if (← sees (.assign none)) || (← sees (.operator .greater)) ||
        (← sees (.operator .slash))
      then .no else .yes
  else return if (← sees .comma) || (← sees (.assign none)) then .yes else .no

/-- Whether an arrow function with parameters in parentheses stands here. -/
def judgeArrow : Reading Likelihood := fun setting before =>
  let judge : Reading Likelihood := do
    if ← eatWord "async" then
      if ← afterLine then return .no
    if ← sees .parenOpen then
      step
      judgeParenthesis
    else if ← sees (.operator .less) then
      step
      judgeAngle
    else return .no
  (some ((judge setting before).1.getD .no), before)

/-- What stands before the body of an arrow function. -/
structure ArrowHead where
  async : Bool
  parts : List Node
  hasResult : Bool

/-- The parameters of an arrow function and the arrow, which must stand on the line where they
end. -/
def arrowHead (g : Grammar) : Reading ArrowHead := do
  let async ← eatWord "async"
  let (parts, hasResult) ← within (fun scope => { scope with async := scope.async || async }) do
    let types ← Ascription.parameters g
    let ps ← Callable.parameters g
    faultIf !ps.receiver.isEmpty
    let result ← Ascription.result? g
    return (types ++ ps.nodes ++ result.toList, result.isSome)
  if ← afterLine then fault
  expect .arrow
  return ⟨async, parts, hasResult⟩

/-- The body of an arrow function: a block, or an expression, which is its result. -/
def arrowBody (g : Grammar) (async allowResult : Bool) : Reading Node :=
  within (fun scope => { scope with async := async, generator := false }) do
    if ← sees .braceOpen then Callable.body g else g.assignment allowResult

/-- An arrow function of one parameter without parentheses, from its arrow on. -/
def simpleArrow (g : Grammar) (parameter : Node) (async allowResult : Bool) : Reading Node := do
  if ← afterLine then fault
  expect .arrow
  return .group .arrow [parameter, ← arrowBody g async allowResult]

/-- An arrow function where one may stand. Between the signs of a condition, one that names its
result type counts only if a colon follows, since otherwise its own colon is the condition's. -/
def possibleArrow (g : Grammar) (allowResult : Bool) : Reading (Option Node) := do
  let before ← cursor
  let place := before.lexeme.source.length
  if before.refusedArrows.contains place then return none
  match ← attempt (arrowHead g) with
  | none =>
      move fun after => { after with refusedArrows := place :: after.refusedArrows }
      return none
  | some head =>
      let body ← arrowBody g head.async allowResult
      if !allowResult && head.hasResult && !(← sees .colon) then
        move fun after => { before with refusedArrows := place :: after.refusedArrows }
        return none
      return some (.group .arrow (head.parts ++ [body]))

/-- An arrow function with parameters in parentheses, if one stands here. -/
def parenthesizedArrow? (g : Grammar) (allowResult : Bool) : Reading (Option Node) := do
  match ← judgeArrow with
  | .no => return none
  | .maybe => possibleArrow g allowResult
  | .yes =>
      let head ← arrowHead g
      return some (.group .arrow (head.parts ++ [← arrowBody g head.async true]))

/-- Whether an asynchronous arrow function of one parameter stands here. -/
def startsAsyncArrow : Reading Bool := do
  if !(← seesWord "async") then return false
  foresee do
    step
    if (← afterLine) || !(← token).isBindingName then return false
    pass
    return (← sees .arrow) && !(← afterLine)

/-! ## Assignments -/

/-- A `yield` with its operand. -/
def yieldForm (g : Grammar) : Reading Node := do
  step
  if ← afterLine then return .group .yieldExpression []
  let delegates ← eat (.operator .star)
  let ends ← match ← token with
    | .finish | .mark .semicolon | .mark .braceClose | .mark .parenClose | .mark .bracketClose
    | .mark .colon | .mark .comma | .word "in" _ => pure true
    | _ => pure false
  if ends && !delegates then return .group .yieldExpression []
  return .group .yieldExpression [← g.assignment true]

/-- What stands before an assignment sign, read again as a target. -/
def target (plain : Bool) (node : Node) : Reading Node := do
  if plain then
    match Target.ofExpression? node with
    | some r =>
        faultIf r.faulty
        move fun cursor => { cursor with pending := cursor.pending - r.settled }
        return r.value
    | none => refuse
  else
    requireSimple node
    return node

/-- An expression without commas. -/
def assignment (g : Grammar) (allowResult : Bool) : Reading Node := do
  if (← seesWord "yield") && (← scope).generator then return ← yieldForm g
  if let some arrow ← parenthesizedArrow? g allowResult then return arrow
  if ← startsAsyncArrow then
    step
    let parameter ← boundName
    return ← simpleArrow g (.identifier parameter) true allowResult
  let left ← g.binary 0
  match ← token with
  | .mark .arrow =>
      if left.isIdentifier then simpleArrow g left false allowResult else return left
  | .mark (.assign op) =>
      let place ← target op.isNone left
      step
      let value ← g.assignment allowResult
      return .group (if op.isNone then .assignment else .compoundAssignment) [place, value]
  | .mark .question =>
      step
      let yes ← withIn (g.assignment false)
      expect .colon
      return .group .conditional [left, yes, ← g.assignment allowResult]
  | _ => return left

end ModuleGraph.Source.Expression
