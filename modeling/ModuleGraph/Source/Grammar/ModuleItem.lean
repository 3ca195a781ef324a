import ModuleGraph.Source.Grammar.Declaration

/-!
# Imports and exports

The declarations by which a module takes from other modules and gives to them. They are read
wherever a statement may stand; whether that place is sensible is not asked. A name that a
JavaScript module exports twice is a fault.
-/

namespace ModuleGraph.Source.ModuleItem

open Reading

/-! ## Names of exports -/

/-- The name of an export: a word, or any text in quotes. -/
structure ExportName where
  text : String
  quoted : Bool

/-- Whether the name of an export can stand here. -/
def startsExportName : Reading Bool := do
  match ← token with
  | .word .. | .string _ => return true
  | _ => return false

/-- The name of an export. -/
def exportName : Reading ExportName := do
  match ← token with
  | .word spelling _ =>
      pass
      return ⟨spelling, false⟩
  | .string value =>
      step
      return ⟨value, true⟩
  | _ => refuse

/-- One entry between the braces of an import or export: `first as last`, or one name alone, which
then is both. -/
structure Entry where
  typeOnly : Bool
  first : ExportName
  last : ExportName

/-- An entry. A first word `type` is the marker of a type, or the name itself, or renamed,
depending on how many words `as` follow it. -/
def entry : Reading Entry := do
  let marked ← seesWord "type"
  let first ← exportName
  if !marked then
    if ← eatWord "as" then return ⟨false, first, ← exportName⟩ else return ⟨false, first, first⟩
  if ← seesWord "as" then
    let firstAs ← exportName
    if ← seesWord "as" then
      let secondAs ← exportName
      if ← startsExportName then return ⟨true, firstAs, ← exportName⟩
      else return ⟨false, first, secondAs⟩
    else if ← startsExportName then return ⟨false, first, ← exportName⟩
    else return ⟨true, firstAs, firstAs⟩
  else if ← startsExportName then
    let name ← exportName
    if ← eatWord "as" then return ⟨true, name, ← exportName⟩ else return ⟨true, name, name⟩
  else return ⟨false, first, first⟩

/-- Marks a fault if an entry is for a type although it must not be: in a text without types, or in
a list that is for types as a whole. -/
def checkTypeOnly (item : Entry) (listTypeOnly : Bool) : Reading Unit := do
  faultIf (item.typeOnly && (listTypeOnly || !(← typescript)))

/-! ## Attributes -/

/-- An attribute of an import: a key and a value in quotes. -/
def attributeOfImport : Reading String := do
  let key ← exportName
  expect .colon
  discard stringValue
  return key.text

/-- Whether no text stands in the list twice. -/
def allDistinct : List String → Bool
  | [] => true
  | x :: xs => !xs.contains x && allDistinct xs

/-- The attributes behind the name of a module. No key stands there twice. -/
def attributes : Reading Unit := do
  if (← seesWord "with") || ((← seesWord "assert") && !(← afterLine)) then
    step
    expect .braceOpen
    faultIf !allDistinct (← closedList .braceClose attributeOfImport)

/-- A module in quotes with its attributes, and the end of the statement. -/
def moduleName : Reading String := do
  let name ← stringValue
  attributes
  semicolon
  return name

/-! ## Imports -/

/-- An entry between the braces of an import. What it is called here must be a name that can be
bound. -/
def importedEntry (listTypeOnly : Bool) : Reading ImportedName := do
  let item ← entry
  checkTypeOnly item listTypeOnly
  faultIf (item.last.quoted || Token.reservedWords.contains item.last.text)
  return .named item.typeOnly

/-- The part of an import clause that is not the default import: everything under one name, or
entries in braces. -/
def importedList (listTypeOnly : Bool) : Reading (List ImportedName) := do
  if ← eat (.operator .star) then
    expectWord "as"
    discard boundName
    return [.all]
  else
    expect .braceOpen
    closedList .braceClose (importedEntry listTypeOnly)

/-- The default import, which has been read before, and what stands behind a comma after it. -/
def defaultAndList (listTypeOnly : Bool) : Reading (List ImportedName) := do
  if ← eat .comma then
    let others ← importedList listTypeOnly
    return .default :: others
  else return [.default]

/-- The names that an import declaration takes, and the word `from`. The flag says whether a
default import has been read before; without one no comma may stand here. -/
def importedNames (default listTypeOnly : Bool) : Reading (List ImportedName) := do
  let names ← if default then defaultAndList listTypeOnly else importedList listTypeOnly
  expectWord "from"
  return names

/-- Whether the word `type` that has just been read marks the whole import as one of types rather
than being the name of its default import. -/
def marksTypes : Reading Bool := do
  let current ← token
  if current.isWord "from" then
    foresee do
      step
      return (← seesWord "from") || (← sees (.assign none))
  else return current.isBindingName || current.isMark (.operator .star) || current.isMark .braceOpen

/-- Whether the word that has just been read names the phase of an import whose name follows. -/
def marksPhase : Reading Bool := do
  if ← seesWord "from" then foresee do step; seesWord "from" else return (← token).isBindingName

/-- An import declaration from behind the word `import`. -/
def importDeclaration : Reading Node := do
  match ← token with
  | .string _ => return .importDeclaration false none (← moduleName)
  | _ =>
      let first ← if (← token).isBindingName then some <$> boundName else pure none
      let typeOnly ← if first == some "type" then marksTypes else pure false
      let deferred ← if first == some "defer" then sees (.operator .star) else pure false
      let phased ← if first == some "source" then marksPhase else pure false
      let name ←
        if typeOnly || phased then
          if (← token).isBindingName then some <$> boundName else pure none
        else if deferred then pure none
        else pure first
      faultIf (typeOnly && !(← typescript))
      if name.isSome && !(← sees .comma) && !(← seesWord "from") then
        return ← Declaration.importAlias
      let names ← importedNames name.isSome typeOnly
      return .importDeclaration typeOnly (some names) (← moduleName)

/-! ## Exports -/

/-- Notes names as exported. -/
def note (names : List String) : Reading Unit := do
  let before := (← cursor).exported
  faultIf (!(← typescript) && !allDistinct (names ++ before))
  move fun cursor => { cursor with exported := names ++ cursor.exported }

/-- The end of an export list: a module that the names come from, or the end of the statement.
Names that come from the text itself must be names that can be bound in a module. -/
def exportListEnd (items : List Entry) : Reading Unit := do
  if ← eatWord "from" then discard moduleName
  else
    faultIf (items.any fun item =>
      item.first.quoted || Token.reservedWords.contains item.first.text ||
      Token.futureReservedWords.contains item.first.text)
    semicolon

/-- Names in braces that are exported. -/
def exportList (listTypeOnly : Bool) : Reading Node := do
  expect .braceOpen
  let items ← closedList .braceClose do
    let item ← entry
    checkTypeOnly item listTypeOnly
    return item
  exportListEnd items
  note (items.map fun item => item.last.text)
  return .group .exportNames []

/-- The export of all that another module exports. -/
def exportAll : Reading Node := do
  expect (.operator .star)
  let name ← if ← eatWord "as" then some <$> exportName else pure none
  expectWord "from"
  discard moduleName
  note (name.map ExportName.text).toList
  return .group .exportAll []

/-- The default export: a declaration, or an expression. -/
def exportDefault (g : Grammar) (before : List Node) : Reading Node := do
  step
  note ["default"]
  let decorators := before ++ (← Callable.decorators g)
  let ts ← typescript
  let whole : Node → Node := fun node => .group .exportDefault [node]
  if ← seesWord "class" then return whole (← Declaration.classForm g decorators).node
  if ts && (← seesWord "abstract") &&
      (← foresee do step; return (← seesWord "class") && !(← afterLine)) then
    step
    return whole (← Declaration.classForm g decorators).node
  if ts && (← seesWord "interface") &&
      (← foresee do step; return (← token).isBindingName && !(← afterLine)) then
    return whole (← Declaration.interfaceForm g).node
  if (← seesWord "function") || (← Expression.startsAsyncFunction) then
    let async ← eatWord "async"
    return whole (← Callable.function g .functionDeclaration async false).1
  let value ← g.assignment true
  semicolon
  return whole value

/-- Whether the word `type` that stands here is in front of a list or a star rather than declaring
a type. -/
def exportsTypes : Reading Bool := do
  if !((← typescript) && (← seesWord "type")) then return false
  foresee do
    step
    return (← sees .braceOpen) || (← sees (.operator .star))

/-- An export declaration, with the decorators of the class that it exports. -/
def exportDeclaration (g : Grammar) (before : List Node) : Reading Node := do
  step
  let ts ← typescript
  match ← token with
  | .word "default" _ => exportDefault g before
  | .mark (.operator .star) => exportAll
  | .mark .braceOpen => exportList false
  | .word "import" _ =>
      step
      if (← seesWord "type") && (← foresee do step; return (← token).isBindingName) then step
      let name ← boundName
      let node ← Declaration.importAlias
      note [name]
      return .group .exportDeclaration [node]
  | .mark (.assign none) =>
      if !ts then refuse
      step
      let value ← g.assignment true
      semicolon
      return .group .exportDefault [value]
  | .word "as" _ =>
      if !ts then refuse
      step
      expectWord "namespace"
      discard anyName
      semicolon
      return .group .exportNames []
  | _ =>
      if ← exportsTypes then
        step
        if ← sees .braceOpen then exportList true else exportAll
      else
        let decorators := before ++ (← Callable.decorators g)
        let declared ← Declaration.whole g decorators
        note declared.names
        return .group .exportDeclaration [declared.node]

end ModuleGraph.Source.ModuleItem
