import ModuleGraph.Source.Lexeme
import ModuleGraph.Source.Dialect
import ModuleGraph.Source.Tree

/-!
# Reading

What every rule of the grammar is made of. A `Reading` looks at the current token, moves on, and
either yields a value or refuses the text.

There are two ways for a text to be wrong. A rule that cannot go on `refuse`s, and then only an
`attempt` around it can try something else. A rule that sees something forbidden but could go on
marks a `fault`, and the text is refused in the end even though it has a tree; a fault inside an
attempt that is given up is forgotten with it.

Rules call one another in circles, and they do so through a `Grammar`: a record of the rules that
can occur inside themselves. A rule is an ordinary function of that record, and the record for
nesting depth `n + 1` is made of the rules over the record for depth `n`.
-/

namespace ModuleGraph.Source

/-- What the surroundings of a phrase forbid or allow in it. -/
structure Scope where
  /-- Whether the word `in` is an operator, which it is not in the head of a loop. -/
  inOperator : Bool
  /-- Whether `yield` is an operator. -/
  generator : Bool
  /-- Whether `await` is an operator. -/
  async : Bool
  /-- Whether `return` is allowed. -/
  function : Bool
  /-- Whether the phrase is a decorator, which takes no brackets. -/
  decorator : Bool
  /-- Whether a type must not go on with a condition. -/
  plainType : Bool
  /-- Whether everything is only declared, so that constants need no value. -/
  ambient : Bool

/-- What stays the same while a phrase is read. `room` bounds the number of tokens of the text. -/
structure Setting where
  dialect : Dialect
  scope : Scope
  room : Nat

/-- How far the reading has come. `pending` counts the shorthand members with an initial value
whose object has not turned out to be a pattern, `exported` holds the names exported so far, and
`refusedArrows` the places, counted from the end, where no arrow function starts. -/
structure Cursor where
  lexeme : Lexeme
  faulty : Bool
  pending : Nat
  exported : List String
  refusedArrows : List Nat

/-- A rule that reads a phrase, with nothing as its value where it refuses. The cursor outlives a
refusal, so that an attempt can tell the next one what it has found out. -/
def Reading (α : Type) : Type :=
  Setting → Cursor → Option α × Cursor

namespace Reading

/-! ## Outcomes -/

instance : Monad Reading where
  pure a := fun _ cursor => (some a, cursor)
  bind rule next := fun setting cursor =>
    match rule setting cursor with
    | (some a, cursor') => next a setting cursor'
    | (none, cursor') => (none, cursor')

/-- Refuses the text. -/
def refuse {α : Type} : Reading α :=
  fun _ cursor => (none, cursor)

/-- How far the reading has come. -/
def cursor : Reading Cursor :=
  fun _ cursor => (some cursor, cursor)

/-- Changes how far the reading has come. -/
def move (change : Cursor → Cursor) : Reading Unit :=
  fun _ cursor => (some (), change cursor)

/-- What stays the same while this phrase is read. -/
def setting : Reading Setting :=
  fun setting cursor => (some setting, cursor)

/-- Marks the text as wrong and goes on. -/
def fault : Reading Unit :=
  move fun cursor => { cursor with faulty := true }

/-- Marks the text as wrong if the condition holds. -/
def faultIf (condition : Bool) : Reading Unit :=
  if condition then fault else pure ()

/-- Reads with a changed scope. -/
def within {α : Type} (change : Scope → Scope) (rule : Reading α) : Reading α :=
  fun setting => rule { setting with scope := change setting.scope }

/-- Reads with the word `in` as an operator. -/
def withIn {α : Type} (rule : Reading α) : Reading α :=
  within (fun scope => { scope with inOperator := true }) rule

/-- Tries a rule. If it refuses, everything is as before, except that the places where no arrow
function starts stay known. -/
def attempt {α : Type} (rule : Reading α) : Reading (Option α) := fun setting before =>
  match rule setting before with
  | (some a, after) => (some (some a), after)
  | (none, after) => (some none, { before with refusedArrows := after.refusedArrows })

/-- Looks ahead: answers with a rule's value, false if it refuses, and stays where it is. -/
def foresee (rule : Reading Bool) : Reading Bool := fun setting before =>
  (some ((rule setting before).1.getD false), before)

/-! ## The current token -/

/-- The current token. -/
def token : Reading Token := do
  return (← cursor).lexeme.token

/-- Whether the current token is the mark. -/
def sees (m : Mark) : Reading Bool := do
  return (← token).isMark m

/-- Whether the current token is the word. -/
def seesWord (spelling : String) : Reading Bool := do
  return (← token).isWord spelling

/-- Whether a line ended before the current token. -/
def afterLine : Reading Bool := do
  return (← cursor).lexeme.afterLine

/-- Whether the current token is a word spelled with an escape. -/
def isEscaped : Reading Bool := do
  match ← token with
  | .word _ hasEscape => return hasEscape
  | _ => return false

/-- Makes a lexeme the current one. -/
def load (lexeme : Lexeme) : Reading Unit :=
  move fun cursor => { cursor with lexeme := lexeme, faulty := cursor.faulty || !lexeme.sound }

/-- Moves to the next token, whatever the current one is used as. -/
def pass : Reading Unit := do
  let setting ← setting
  load (Lexeme.next (!setting.dialect.isModule) setting.room false (← cursor).lexeme.rest)

/-- Moves to the next token. A word that has been used for its meaning must not hold escapes. -/
def step : Reading Unit := do
  match ← token with
  | .word spelling hasEscape => faultIf (hasEscape && Token.isKeyword spelling)
  | _ => pure ()
  pass

/-- Moves past the mark if it is there. -/
def eat (m : Mark) : Reading Bool := do
  if ← sees m then
    step
    return true
  else return false

/-- Moves past the word if it is there. -/
def eatWord (spelling : String) : Reading Bool := do
  if ← seesWord spelling then
    step
    return true
  else return false

/-- Moves past the mark, which must be there. -/
def expect (m : Mark) : Reading Unit := do
  if ← sees m then step else refuse

/-- Moves past the word, which must be there. -/
def expectWord (spelling : String) : Reading Unit := do
  if ← seesWord spelling then step else refuse

/-- Reads the marks that a closing angle bracket starts as one. -/
def joinGreater : Reading Unit := do
  if ← sees (.operator .greater) then
    move fun cursor => { cursor with lexeme := cursor.lexeme.asGreater }

/-- Splits a mark that starts with an opening angle bracket. -/
def splitLess : Reading Unit := do
  match ← token with
  | .mark (.operator .shiftLeft) | .mark (.assign (some .shiftLeft))
  | .mark (.operator .lessEqual) =>
      move fun cursor => { cursor with lexeme := cursor.lexeme.asSingleLess }
  | _ => pure ()

/-- Reads the closing brace of a substitution as the next piece of its template. -/
def resumeTemplate : Reading Unit := do
  if ← sees .braceClose then
    let room := (← setting).room
    load ((← cursor).lexeme.asTemplatePiece room)

/-- The dialect of the text. -/
def dialect : Reading Dialect := do
  return (← setting).dialect

/-- Whether types may be written. -/
def typescript : Reading Bool := do
  return (← setting).dialect.typescript

/-- The scope of the phrase. -/
def scope : Reading Scope := do
  return (← setting).scope

/-! ## Names -/

/-- A name that is bound or refers to a binding. The words `yield` and `await` are such names where
they are no operators. -/
def boundName : Reading String := do
  let current ← token
  match current with
  | .word spelling _ =>
      if current.isBindingName then
        let around ← scope
        faultIf ((spelling == "await" && around.async) || (spelling == "yield" && around.generator))
        pass
        return spelling
      else refuse
  | _ => refuse

/-- A name that may be any word. -/
def anyName : Reading String := do
  match ← token with
  | .word spelling _ =>
      pass
      return spelling
  | _ => refuse

/-- A string. -/
def stringValue : Reading String := do
  match ← token with
  | .string value =>
      step
      return value
  | _ => refuse

/-! ## Ends of statements -/

/-- Whether a statement may end before the current token without a semicolon. -/
def canEnd : Reading Bool := do
  match ← token with
  | .mark .semicolon | .mark .braceClose | .finish => return true
  | _ => afterLine

/-- The end of a statement. -/
def semicolon : Reading Unit := do
  if ← canEnd then discard (eat .semicolon) else refuse

/-! ## Repetitions -/

/-- Goes on from a value for as long as the rule has a next one, at most `room` times. -/
def iterate {α : Type} (rule : α → Reading (Option α)) : Nat → α → Reading α
  | 0, _ => refuse
  | room + 1, a => do
      match ← rule a with
      | some b => iterate rule room b
      | none => return a

/-- As `iterate`, with the room of the text. -/
def repeatedly {α : Type} (rule : α → Reading (Option α)) (a : α) : Reading α := do
  iterate rule (← setting).room a

/-- The values of a rule until the current token is one that stops the repetition. -/
def manyUntil {α : Type} (stop : Token → Bool) (rule : Reading α) : Reading (List α) := do
  let items ← repeatedly (fun (items : List α) => do
    if stop (← token) then return none
    else return some ((← rule) :: items)) []
  return items.reverse

/-- The values of a rule for as long as it has one. -/
def manyOf {α : Type} (rule : Reading (Option α)) : Reading (List α) := do
  let items ← repeatedly (fun (items : List α) => do
    match ← rule with
    | some item => return some (item :: items)
    | none => return none) []
  return items.reverse

/-- A list with commas between its items, up to but without the mark that closes it, and whether a
comma stands behind the last item. -/
def commaList {α : Type} (close : Mark) (item : Reading α) : Reading (List α × Bool) := do
  if ← sees close then return ([], false)
  let first ← item
  let (items, trailing) ← repeatedly (fun (items, (_ : Bool)) => do
    if ← sees close then return none
    expect .comma
    if ← sees close then return some (items, true)
    return some ((← item) :: items, false)) ([first], false)
  return (items.reverse, trailing)

/-- A comma list whose closing mark is read too. -/
def closedList {α : Type} (close : Mark) (item : Reading α) : Reading (List α) := do
  let (items, _) ← commaList close item
  expect close
  return items

/-- A comma list in which one item may be a rest, which must be the last and have no comma behind
it. -/
def listWithRest (close : Mark) (item rest : Reading Node) : Reading (List Node × Option Node) := do
  let (items, found, _) ← repeatedly
    (fun ((items, found, first) : List Node × Option Node × Bool) => do
    if ← sees close then return none
    if !first then
      expect .comma
      if ← sees close then
        faultIf (found.isSome && !(← scope).ambient)
        return some (items, found, true)
    if found.isSome then fault
    if ← sees .ellipsis then return some (items, some (← rest), false)
    else return some ((← item) :: items, found, false)) ([], none, true)
  return (items.reverse, found)

end Reading

/-- Where a statement stands: in a list of statements, or alone behind a label or as the body of
another. -/
inductive Position where
  | listed
  | single
  deriving DecidableEq

/-- The rules that can occur inside themselves. An assignment is told whether an arrow function in
it may name its result type, a binary expression how tightly its operators must bind, and a markup
element whether it stands between the tags of another. -/
structure Grammar where
  statement : Position → Reading Node
  assignment : Bool → Reading Node
  binary : Nat → Reading Node
  unary : Reading Node
  leftHand : Reading Node
  primary : Reading Node
  pattern : Reading Node
  type : Reading Node
  typeOperand : Reading Node
  markup : Bool → Reading Node

/-- The grammar that refuses everything, for the depth at which the text is longer than it can
be. -/
def Grammar.refusing : Grammar where
  statement _ := Reading.refuse
  assignment _ := Reading.refuse
  binary _ := Reading.refuse
  unary := Reading.refuse
  leftHand := Reading.refuse
  primary := Reading.refuse
  pattern := Reading.refuse
  type := Reading.refuse
  typeOperand := Reading.refuse
  markup _ := Reading.refuse

end ModuleGraph.Source
