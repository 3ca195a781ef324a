import ModuleGraph.Source.Grammar.TypeForm
import ModuleGraph.Source.Grammar.Expression

/-!
# Declarations

What can be exported by itself: variables, functions and classes, and in TypeScript types,
enumerations and namespaces. A declaration yields the names that it introduces along with its node.
-/

namespace ModuleGraph.Source.Declaration

open Reading

/-- A node with the names that it introduces. -/
structure Named where
  node : Node
  names : List String

/-! ## Variables -/

/-- A variable with its value. The flag says whether a value is missing that the variable needs: a
constant needs one, and so does a pattern. -/
def declarator (g : Grammar) (constant : Bool) : Reading (Node × Bool) := do
  let target ← Pattern.target g
  let annotated ←
    if ← typescript then do
      if target.isIdentifier && (← sees .bang) && !(← afterLine) then step
      discard (eat .question)
      Pattern.annotate g target
    else pure target
  if ← eat (.assign none) then
    let value ← g.assignment true
    return (.group .declarator [annotated, value], false)
  else return (.group .declarator [annotated], constant || !target.isIdentifier)

/-- Variables with commas between them, from behind the word that introduces them, and whether one
of them lacks its value. -/
def declarators (g : Grammar) (constant : Bool) : Reading (Node × Bool) := do
  let first ← declarator g constant
  let more ← manyOf do
    if ← eat .comma then return some (← declarator g constant) else return none
  let all := first :: more
  return (.group .bindings (all.map Prod.fst), all.any Prod.snd)

/-- Variables as a statement. -/
def bindings (g : Grammar) : Reading Named := do
  let constant ← seesWord "const"
  step
  let (node, incomplete) ← declarators g constant
  faultIf (incomplete && !(← scope).ambient)
  semicolon
  return ⟨node, Pattern.names node⟩

/-! ## Functions and classes -/

/-- A function as a statement, and whether it is asynchronous or a generator. -/
def function (g : Grammar) : Reading (Named × Bool) := do
  let async ← eatWord "async"
  let (node, called, generator) ← Callable.function g .functionDeclaration async true
  return (⟨node, called.toList⟩, async || generator)

/-- A class as a statement. -/
def classForm (g : Grammar) (before : List Node) : Reading Named := do
  let (node, called) ← ClassForm.whole g .classDeclaration before
  return ⟨node, called.toList⟩

/-! ## Types -/

/-- A name for a type. -/
def typeAlias (g : Grammar) : Reading Named := do
  step
  let name ← boundName
  let types ← Ascription.parameters g
  expect (.assign none)
  let value ← g.type
  semicolon
  return ⟨.group .typeAlias (types ++ [value]), [name]⟩

/-- An interface. It can inherit but not promise to implement. -/
def interfaceForm (g : Grammar) : Reading Named := do
  step
  let name ← boundName
  let types ← Ascription.parameters g
  let inherited ← ClassForm.heritage g
  faultIf inherited.hasPromises
  let members ← Signature.members g
  return ⟨.group .interfaceDeclaration (types ++ inherited.ancestors ++ members), [name]⟩

/-- A member of an enumeration. It is called by a word or string, which may stand in brackets. -/
def enumMember (g : Grammar) : Reading Node := do
  match ← token with
  | .string _ => step
  | .mark .bracketOpen =>
      match ← Pattern.computedKey g with
      | .string _ | .group .template [] => pure ()
      | _ => fault
  | .templateWhole _ | .templateHead _ | .number => refuse
  | _ => discard anyName
  if ← eat (.assign none) then return .group .enumMember [← withIn (g.assignment true)]
  else return .group .enumMember []

/-- An enumeration. -/
def enumForm (g : Grammar) : Reading Named := do
  step
  let name ← boundName
  expect .braceOpen
  return ⟨.group .enumDeclaration (← closedList .braceClose (enumMember g)), [name]⟩

/-- A namespace, or a module that is declared by its name in quotes, which may be without a
body. -/
def namespaceForm (g : Grammar) : Reading Named := do
  step
  match ← token with
  | .string _ =>
      step
      if ← sees .braceOpen then return ⟨.group .namespaceDeclaration [← Callable.block g], []⟩
      semicolon
      return ⟨.group .namespaceDeclaration [], []⟩
  | _ =>
      let name ← boundName
      discard (manyOf do
        if ← eat .dot then return some (← anyName) else return none)
      return ⟨.group .namespaceDeclaration [← Callable.block g], [name]⟩

/-- What is declared for all modules. -/
def globalForm (g : Grammar) : Reading Named := do
  step
  return ⟨.group .namespaceDeclaration [← Callable.block g], []⟩

/-- Another name for a part of a namespace, or for a module that is asked for at run time by other
means, from its assignment sign on. -/
def importAlias : Reading Node := do
  expect (.assign none)
  if (← seesWord "require") && (← foresee do step; sees .parenOpen) then
    step
    expect .parenOpen
    discard stringValue
    expect .parenClose
  else TypeForm.qualifiedName
  semicolon
  faultIf !(← typescript)
  return .group .importAlias []

/-! ## Choosing -/

/-- Whether a declaration of TypeScript stands here, with modifiers in front of it or not. -/
def starts : Reading Bool :=
  foresee do
    discard (manyOf do
      if (← token).isWordOf ["abstract", "accessor", "async", "declare", "private", "protected",
          "public", "readonly"] then
        step
        if ← afterLine then refuse
        return some ()
      else if ← eatWord "static" then return some ()
      else return none)
    match ← token with
    | .word "var" _ | .word "let" _ | .word "const" _ | .word "function" _ | .word "class" _
    | .word "enum" _ => return true
    | .word "interface" _ | .word "type" _ =>
        step
        return (← token).isBindingName && !(← afterLine)
    | .word "module" _ | .word "namespace" _ =>
        step
        match ← token with
        | .string _ => return !(← afterLine)
        | other => return other.isBindingName && !(← afterLine)
    | .word "global" _ =>
        step
        match ← token with
        | .mark .braceOpen => return true
        | .word spelling _ => return spelling == "export" || !Token.isKeyword spelling
        | _ => return false
    | .word "import" _ =>
        step
        match ← token with
        | .string _ | .mark (.operator .star) | .mark .braceOpen => return true
        | other => return other.isAnyWord
    | .word "export" _ =>
        step
        match ← token with
        | .mark (.assign none) | .mark (.operator .star) | .mark .braceOpen | .mark .atSign
        | .word "default" _ | .word "as" _ => return true
        | _ => return false
    | _ => return false

/-- The modifiers that a declaration takes, by the word that introduces it. -/
def allowedModifiers (introduced : Token) : List String :=
  if introduced.isWord "class" then ["declare", "abstract"]
  else if introduced.isWordOf ["function", "async"] then ["declare", "async"]
  else if introduced.isWord "enum" then ["declare", "const"]
  else ["declare"]

/-- A declaration behind its modifiers and decorators. -/
def afterModifiers (g : Grammar) (before : List Node) (words : List String) : Reading Named := do
  let introduced ← token
  Ascription.onlyAllowed (allowedModifiers introduced) words
  match introduced with
  | .word "class" _ => classForm g before
  | .word "function" _ =>
      let async := words.contains "async"
      let (node, called, _) ← Callable.function g .functionDeclaration async true
      return ⟨node, called.toList⟩
  | .word "async" _ => return (← function g).1
  | .word "var" _ | .word "let" _ => bindings g
  | .word "const" _ =>
      if (← typescript) && (← foresee do step; seesWord "enum") then
        step
        enumForm g
      else bindings g
  | _ =>
      if !(← typescript) then refuse
      match introduced with
      | .word "type" _ => typeAlias g
      | .word "interface" _ => interfaceForm g
      | .word "enum" _ => enumForm g
      | .word "namespace" _ | .word "module" _ => namespaceForm g
      | .word "global" _ => globalForm g
      | .word "import" _ =>
          step
          let name ← boundName
          return ⟨← importAlias, [name]⟩
      | _ => refuse

/-- A declaration with its modifiers. One that is only declared needs no values. -/
def whole (g : Grammar) (before : List Node) : Reading Named := do
  let words ← if ← typescript then Ascription.modifiers false false else pure []
  within (fun scope => { scope with ambient := scope.ambient || words.contains "declare" })
    (afterModifiers g before words)

end ModuleGraph.Source.Declaration
