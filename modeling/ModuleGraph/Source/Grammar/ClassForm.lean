import ModuleGraph.Source.Grammar.Signature

/-!
# Classes

Class declarations and class expressions, and the heritage that they share with interfaces.
-/

namespace ModuleGraph.Source.ClassForm

open Reading

/-- An expression to inherit from and its type arguments. Arguments that the expression has taken
for itself belong to the heritage. -/
def ancestor (g : Grammar) : Reading (List Node) := do
  match ← g.leftHand with
  | .group .instantiation parts => return parts
  | expression => return expression :: (← Ascription.arguments? g)

/-- The ancestors behind `extends` and how many there are. -/
def ancestors (g : Grammar) : Reading (List Node × Nat) := do
  let first ← ancestor g
  let (groups, count) ← repeatedly (fun ((groups, count) : List (List Node) × Nat) => do
    if ← eat .comma then return some ((← ancestor g) :: groups, count + 1)
    else return none) ([first], 1)
  return (groups.reverse.flatten, count)

/-- The types behind `implements`. -/
def promises (g : Grammar) : Reading (List Node) := do
  let first ← g.type
  let more ← manyOf do
    if ← eat .comma then return some (← g.type) else return none
  return first :: more

/-- What a class or interface inherits: the ancestors, how many there are, and the types that it
promises to implement. Each clause may stand once, and the ancestors come first. -/
structure Heritage where
  ancestors : List Node
  ancestorCount : Nat
  promises : List Node
  hasAncestors : Bool
  hasPromises : Bool

/-- The clauses of inheritance that stand here. -/
def heritage (g : Grammar) : Reading Heritage :=
  repeatedly (fun (h : Heritage) => do
    if ← eatWord "extends" then
      faultIf (h.hasAncestors || h.hasPromises)
      let (list, count) ← ancestors g
      return some
        { h with ancestors := h.ancestors ++ list, ancestorCount := count, hasAncestors := true }
    else if ← eatWord "implements" then
      faultIf h.hasPromises
      return some { h with promises := h.promises ++ (← promises g), hasPromises := true }
    else return none) ⟨[], 0, [], false, false⟩

/-- A block that runs when the class is made. -/
def staticBlock (g : Grammar) : Reading Node := do
  step
  let inside ← within
    (fun scope => { scope with async := true, generator := false, function := false })
    (Callable.block g)
  return .group .staticBlock [inside]

/-- The key of a class member with its spelling: a private name, or as in an object. -/
def key (g : Grammar) : Reading (Node × Option String) := do
  match ← token with
  | .privateName spelling =>
      faultIf (spelling == "constructor")
      step
      return (.group .name [], none)
  | .string value =>
      step
      return (.string value, some value)
  | _ => Pattern.key g

/-- An accessor from its key on. -/
def accessor (g : Grammar) (before : List Node) (isStatic reads : Bool) : Reading Node := do
  let (name, spelling) ← key g
  faultIf (spelling == some (if isStatic then "prototype" else "constructor"))
  return .group .method (before ++ [name, ← Callable.accessor g reads])

/-- A field from behind its key on. -/
def field (g : Grammar) (before : List Node) (name : Node) (spelling : Option String)
    (isStatic : Bool) : Reading Node := do
  faultIf (spelling == some "constructor" || (isStatic && spelling == some "prototype"))
  let ascribed ← Ascription.type? g
  let value ←
    if ← eat (.assign none) then
      some <$> within
        (fun scope => { scope with inOperator := true, async := false, generator := false })
        (g.assignment true)
    else pure none
  semicolon
  return .group .field (before ++ [name] ++ ascribed.toList ++ value.toList)

/-- A method or field. A method that is called `constructor` makes the objects of the class, so it
can be neither asynchronous nor a generator. -/
def methodOrField (g : Grammar) (before : List Node) (words : List String) : Reading Node := do
  let isStatic := words.contains "static"
  let async := words.contains "async"
  let generator ← eat (.operator .star)
  let (name, spelling) ← key g
  if ← typescript then
    if !(← eat .question) then
      if (← sees .bang) && !(← afterLine) then step
  if generator || (← sees .parenOpen) || (← sees (.operator .less)) then
    faultIf (!isStatic && spelling == some "constructor" && (async || generator))
    faultIf (isStatic && spelling == some "prototype")
    let (value, _) ← Callable.method g async generator
    return .group .method (before ++ [name, value])
  else field g before name spelling isStatic

/-- A member of a class. -/
def member (g : Grammar) : Reading Node := do
  let before ← Callable.decorators g
  let words ← Ascription.modifiers true true
  if (← seesWord "static") && (← foresee do step; sees .braceOpen) then
    faultIf !before.isEmpty
    staticBlock g
  else if ← Signature.accessorWord "get" then accessor g before (words.contains "static") true
  else if ← Signature.accessorWord "set" then accessor g before (words.contains "static") false
  else if ← Signature.startsIndex then
    if ← typescript then
      Ascription.onlyAllowed ["readonly", "static"] words
      Signature.index g
    else methodOrField g before words
  else
    let ambient := words.contains "declare"
    within (fun scope => { scope with ambient := scope.ambient || ambient })
      (methodOrField g before words)

/-- The members of a class, with the semicolons between them. -/
def members (g : Grammar) : Reading (List Node) := do
  expect .braceOpen
  let list ← manyOf do
    discard (manyOf do if ← eat .semicolon then return some () else return none)
    if ← sees .braceClose then return none else return some (← member g)
  expect .braceClose
  return list

/-- A class from the word `class` on, with its name if it has one. -/
def whole (g : Grammar) (form : Form) (decorators : List Node) :
    Reading (Node × Option String) := do
  expectWord "class"
  let called ←
    if (← token).isBindingName && !(← seesWord "implements") then some <$> boundName else pure none
  let types ← Ascription.parameters g
  let inherited ← heritage g
  faultIf (1 < inherited.ancestorCount)
  let inside ← members g
  return (.group form (decorators ++ (called.map Node.identifier).toList ++ types ++
    inherited.ancestors ++ inherited.promises ++ inside), called)

end ModuleGraph.Source.ClassForm
