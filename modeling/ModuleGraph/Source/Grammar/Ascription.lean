import ModuleGraph.Source.Reading

/-!
# Types around other phrases

The places where a type hangs on something else: behind a colon, behind the parameters of a
function, and in angle brackets. None of them is there in a text that is not TypeScript, so each
rule reads nothing then.
-/

namespace ModuleGraph.Source.Ascription

open Reading

/-- A type behind a colon, if there is one. -/
def type? (g : Grammar) : Reading (Option Node) := do
  if (← typescript) && (← sees .colon) then
    step
    return some (← g.type)
  else return none

/-- A name and the word `is` on the same line. -/
def predicateHead : Reading Unit := do
  if !(← token).isName then refuse
  pass
  if (← seesWord "is") && !(← afterLine) then step else refuse

/-- A type that may say of a name what it is. -/
def typeOrPredicate (g : Grammar) : Reading Node := do
  let head ← attempt predicateHead
  let subject ← g.type
  return if head.isSome then .group .predicateType [subject] else subject

/-- The type that a function yields, if it is given. -/
def result? (g : Grammar) : Reading (Option Node) := do
  if (← typescript) && (← sees .colon) then
    step
    return some (← typeOrPredicate g)
  else return none

/-! ## Type parameters -/

/-- Whether a declaration or member can go on here behind a modifier. -/
def canFollowModifier : Reading Bool := do
  match ← token with
  | .mark .bracketOpen | .mark .braceOpen | .mark (.operator .star) | .mark .ellipsis
  | .privateName _ => return true
  | other => return other.isLiteralKey

/-- Whether a default export can go on here behind `default`. -/
def canFollowDefault : Reading Bool := do
  match ← token with
  | .mark .atSign => return true
  | .word "class" _ | .word "function" _ | .word "interface" _ => return true
  | .word "abstract" _ => foresee do step; return (← seesWord "class") && !(← afterLine)
  | .word "async" _ => foresee do step; return (← seesWord "function") && !(← afterLine)
  | _ => return false

/-- Moves past a modifier, which must have something to modify behind it. The accessor words and
`static` may stand on a line of their own. -/
def passModifier : Reading Unit := do
  let follows ← match ← token with
    | .word "const" _ => do step; seesWord "enum"
    | .word "export" _ => do
        step
        match ← token with
        | .word "default" _ => foresee do step; canFollowDefault
        | .mark (.operator .star) | .mark .braceOpen | .word "as" _ => pure false
        | _ => canFollowModifier
    | .word "default" _ => do step; canFollowDefault
    | .word "static" _ | .word "get" _ | .word "set" _ => do step; canFollowModifier
    | _ => do step; pure (!(← afterLine) && (← canFollowModifier))
  if follows then pure () else refuse

/-- Moves past `const` as a modifier, which must have something to modify on the same line. -/
def passConst : Reading Unit := do
  step
  if !(← afterLine) && (← canFollowModifier) then pure () else refuse

/-- The next modifier, if there is one. `static` counts once, and not in front of a block if such
blocks are possible here. -/
def modifier? (permitConst stopAtBlock seenStatic : Bool) : Reading (Option String) := do
  let current ← token
  match current with
  | .word spelling _ =>
      if !current.isModifier then return none
      else if spelling == "const" then
        if permitConst then return (← attempt passConst).map fun _ => spelling else return none
      else if spelling == "static" &&
          (seenStatic || (stopAtBlock && (← foresee do step; sees .braceOpen))) then return none
      else return (← attempt passModifier).map fun _ => spelling
  | _ => return none

/-- The words for who may see a member. -/
def visibilityWords : List String :=
  ["public", "private", "protected"]

/-- The modifiers that stand here, last one first. One that is repeated is a fault, and so is a
second word for who may see a member. -/
def modifiers (permitConst stopAtBlock : Bool) : Reading (List String) :=
  repeatedly (fun seen => do
    match ← modifier? permitConst stopAtBlock (seen.contains "static") with
    | some word =>
        faultIf (seen.contains word ||
          (visibilityWords.contains word && seen.any visibilityWords.contains))
        return some (word :: seen)
    | none => return none) []

/-- Marks a fault unless all modifiers are among those allowed. -/
def onlyAllowed (allowed seen : List String) : Reading Unit :=
  faultIf (!seen.all allowed.contains)

/-- A type parameter. -/
def parameter (g : Grammar) : Reading Node := do
  onlyAllowed ["in", "out", "const"] (← modifiers true false)
  discard boundName
  let bound ← if ← eatWord "extends" then pure [← g.type] else pure []
  let standIn ← if ← eat (.assign none) then pure [← g.type] else pure []
  return .group .typeParameter (bound ++ standIn)

/-- The type parameters of a declaration, of which there must be one if there are brackets. -/
def parameters (g : Grammar) : Reading (List Node) := do
  if (← typescript) && (← sees (.operator .less)) then
    step
    let list ← closedList (.operator .greater) (parameter g)
    faultIf list.isEmpty
    return list
  else return []

/-! ## Type arguments -/

/-- Type arguments from their opening bracket on. -/
def arguments (g : Grammar) : Reading (List Node) := do
  expect (.operator .less)
  let list ← closedList (.operator .greater) g.type
  faultIf list.isEmpty
  return list

/-- Type arguments, if an opening bracket stands here. -/
def arguments? (g : Grammar) : Reading (List Node) := do
  splitLess
  if (← typescript) && (← sees (.operator .less)) then arguments g else return []

end ModuleGraph.Source.Ascription
