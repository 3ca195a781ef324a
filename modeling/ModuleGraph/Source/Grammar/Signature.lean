import ModuleGraph.Source.Grammar.Callable

/-!
# Signatures

The members of an interface or object type. A signature ends with a comma as well as with a
semicolon.
-/

namespace ModuleGraph.Source.Signature

open Reading

/-- The end of a signature. -/
def separator : Reading Unit := do
  if ← eat .comma then pure () else semicolon

/-- Whether the bracket that stands here opens an index signature rather than a computed key. -/
def startsIndex : Reading Bool := do
  if !(← sees .bracketOpen) then return false
  foresee do
    step
    if (← sees .ellipsis) || (← sees .bracketClose) then return true
    if (← token).isModifier then
      step
      if (← token).isName then return true
    else if !(← token).isName then return false
    else step
    if (← sees .colon) || (← sees .comma) then return true
    if !(← sees .question) then return false
    step
    return (← sees .colon) || (← sees .comma) || (← sees .bracketClose)

/-- An index signature from its bracket on. It has one index, and the index and the value have
types. -/
def index (g : Grammar) : Reading Node := do
  expect .bracketOpen
  discard boundName
  let key ← Ascription.type? g
  expect .bracketClose
  let value ← Ascription.type? g
  faultIf (key.isNone || value.isNone)
  separator
  return .group .signature (key.toList ++ value.toList)

/-- What a function type or signature says of a call. -/
def call (g : Grammar) : Reading (List Node) := do
  let types ← Ascription.parameters g
  let ps ← Callable.parameters g
  let result ← Ascription.result? g
  return types ++ ps.nodes ++ result.toList

/-- Whether the word that stands here is followed by the parameters of a call. -/
def callFollows : Reading Bool :=
  foresee do
    step
    return (← sees .parenOpen) || (← sees (.operator .less))

/-- A member with a key: a method if parameters follow, otherwise a property with its type. -/
def keyed (g : Grammar) : Reading Node := do
  let (key, _) ← Pattern.key g
  discard (eat .question)
  if (← sees .parenOpen) || (← sees (.operator .less)) then
    let parts ← call g
    separator
    return .group .signature (key :: parts)
  else
    let ascribed ← Ascription.type? g
    separator
    return .group .signature (key :: ascribed.toList)

/-- Moves past `get` or `set` if it makes the member behind it an accessor. -/
def accessorWord (spelling : String) : Reading Bool := do
  if ← seesWord spelling then return (← attempt Ascription.passModifier).isSome else return false

/-- An accessor of a type from its key on. -/
def accessor (g : Grammar) (reads : Bool) : Reading Node := do
  let (key, _) ← Pattern.key g
  let types ← Ascription.parameters g
  let ps ← Callable.parameters g
  let result ← Ascription.result? g
  faultIf (if reads then !ps.items.isEmpty else ps.count != 1)
  separator
  return .group .signature (key :: types ++ ps.nodes ++ result.toList)

/-- A member of an interface or object type. -/
def member (g : Grammar) : Reading Node := do
  if (← sees .parenOpen) || (← sees (.operator .less)) then
    let parts ← call g
    separator
    return .group .signature parts
  if (← seesWord "new") && (← callFollows) then
    step
    let parts ← call g
    separator
    return .group .signature parts
  Ascription.onlyAllowed ["readonly"] (← Ascription.modifiers false false)
  if ← accessorWord "get" then accessor g true
  else if ← accessorWord "set" then accessor g false
  else if ← startsIndex then index g
  else keyed g

/-- Members in braces. -/
def members (g : Grammar) : Reading (List Node) := do
  expect .braceOpen
  let list ← manyUntil (·.isMark .braceClose) (member g)
  expect .braceClose
  return list

end ModuleGraph.Source.Signature
