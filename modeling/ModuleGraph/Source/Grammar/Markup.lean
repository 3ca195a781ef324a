import ModuleGraph.Source.Grammar.Ascription

/-!
# Markup

Elements and fragments inside a program. What stands between tags is read by rules of its own, so
the last mark of every tag says how the text behind it is to be read.
-/

namespace ModuleGraph.Source.Markup

open Reading

/-- Reads on between tags. -/
def passInside : Reading Unit := do
  load (Lexeme.nextMarkup (← cursor).lexeme.rest)

/-- Moves past the mark, which must be there, with text between tags behind it if `inside` is
set. -/
def close (m : Mark) (inside : Bool) : Reading Unit := do
  if !(← sees m) then refuse
  if inside then passInside else step

/-- A name, which may hold hyphens. -/
def simpleName : Reading String := do
  move fun cursor => { cursor with lexeme := cursor.lexeme.asMarkupName }
  match ← token with
  | .word spelling _ =>
      step
      return spelling
  | _ => refuse

/-- The name of an element: simple, in a namespace, or a member of a name. The members of a name
have no hyphens. -/
def elementName : Reading (List String) := do
  let first ← simpleName
  if ← eat .colon then return [first, ":", ← simpleName]
  let members ← manyOf do
    if ← eat .dot then
      let name ← simpleName
      if name.contains '-' then refuse else return some name
    else return none
  return first :: members

/-- An expression in braces, from behind its opening brace on. -/
def expression (g : Grammar) : Reading Node :=
  within (fun scope => ⟨true, false, scope.async, false, false, false, false⟩) (g.assignment true)

/-- Braces with an expression or nothing in them, from behind the opening brace on. -/
def container (g : Grammar) (inside : Bool) : Reading Node := do
  if ← sees .braceClose then
    close .braceClose inside
    return .group .container []
  else
    let inner ← expression g
    close .braceClose inside
    return .group .container [inner]

/-- The value of an attribute. -/
def attributeValue (g : Grammar) : Reading Node := do
  match ← token with
  | .string value =>
      step
      return .string value
  | .mark .braceOpen =>
      step
      container g false
  | .mark (.operator .less) =>
      step
      g.markup false
  | _ => refuse

/-- An attribute, or attributes taken from an expression. -/
def attributeOrSpread (g : Grammar) : Reading Node := do
  if ← eat .braceOpen then
    expect .ellipsis
    let inner ← expression g
    expect .braceClose
    return .group .spread [inner]
  else
    discard simpleName
    if ← eat .colon then discard simpleName
    if ← sees (.assign none) then
      let around ← setting
      load (Lexeme.nextAttribute (!around.dialect.isModule) around.room (← cursor).lexeme.rest)
      return .group .markupAttribute [← attributeValue g]
    else return .group .markupAttribute []

/-- Whether the token ends the attributes of a tag. -/
def endsAttributes (t : Token) : Bool :=
  t.isMark (.operator .less) || t.isMark (.operator .greater) || t.isMark (.operator .slash)

/-- What stands between two tags, up to the tag that closes the element. -/
def children (g : Grammar) : Reading (List Node) :=
  manyOf do
    match ← token with
    | .mark (.operator .less) =>
        if ← foresee do step; sees (.operator .slash) then return none
        step
        return some (← g.markup true)
    | .mark .braceOpen =>
        step
        if ← eat .ellipsis then
          let inner ← expression g
          close .braceClose true
          return some (.group .spread [inner])
        else return some (← container g true)
    | .markupText =>
        passInside
        return some (.group .markupText [])
    | _ => refuse

/-- An element or fragment from behind its first bracket on. `inside` says whether it stands
between the tags of another. -/
def whole (g : Grammar) (inside : Bool) : Reading Node := do
  if ← sees (.operator .greater) then
    passInside
    let inner ← children g
    expect (.operator .less)
    expect (.operator .slash)
    close (.operator .greater) inside
    return .group .fragment inner
  let name ← elementName
  let types ← Ascription.arguments? g
  let attributes ← manyUntil endsAttributes (attributeOrSpread g)
  if ← eat (.operator .slash) then
    close (.operator .greater) inside
    return .group .element (types ++ attributes)
  close (.operator .greater) true
  let inner ← children g
  expect (.operator .less)
  expect (.operator .slash)
  faultIf ((← elementName) != name)
  close (.operator .greater) inside
  return .group .element (types ++ attributes ++ inner)

end ModuleGraph.Source.Markup
