import ModuleGraph.Config.Basic

/-!
# Command line arguments

Arguments are read from left to right. An option that takes a value takes it from behind an equals
sign or from the next argument, unless that looks like an option itself. Behind two hyphens all
arguments are files.

What an argument means is settled only when the next one is known not to belong to it, so of two
mistakes the later can be the one that is complained about: `Reader.pending` holds what is not
settled yet.
-/

namespace ModuleGraph.Config

/-- Why arguments are not accepted. Asking for help is one of the reasons. -/
inductive UsageError where
  | missingRequiredArgument
  | unknownArgument
  | invalidValue
  | argumentConflict
  | tooManyValues
  | displayHelp
  deriving DecidableEq, Repr

/-- The options without a value. -/
inductive Switch where
  | dynamicImports
  | keepGoing
  | json
  | help
  deriving DecidableEq, Repr

/-- The options with a value. -/
inductive Setting where
  | root
  | extensions
  deriving DecidableEq, Repr

/-- An argument by what it looks like. -/
inductive Argument where
  | switch (option : Switch) (attached : Option String)
  | setting (option : Setting) (attached : Option String)
  | unknown
  | separator
  | plain (text : String)
  deriving DecidableEq, Repr

/-- An option with two hyphens, by its name. -/
def optionNamed (name : String) (attached : Option String) : Argument :=
  match name with
  | "dynamic-imports" => .switch .dynamicImports attached
  | "keep-going" => .switch .keepGoing attached
  | "json" => .switch .json attached
  | "help" => .switch .help attached
  | "root" => .setting .root attached
  | "extensions" => .setting .extensions attached
  | _ => .unknown

/-- An argument by what it looks like. A single hyphen is a plain one. -/
def Argument.ofText (text : String) : Argument :=
  match text.toList with
  | ['-', '-'] => .separator
  | '-' :: '-' :: rest =>
    let name := rest.takeWhile (· ≠ '=')
    match rest.dropWhile (· ≠ '=') with
    | [] => optionNamed (String.ofList name) none
    | _ :: value => optionNamed (String.ofList name) (some (String.ofList value))
  | '-' :: 'h' :: _ => .switch .help none
  | '-' :: _ :: _ => .unknown
  | _ => .plain text

/-- What was read but not settled yet. -/
inductive Pending where
  | nothing
  | setting (option : Setting) (value : Option String)
  | files (texts : List String)
  deriving DecidableEq, Repr

/-- What has been read of a command line. Switches are listed as they were given. -/
structure Reader where
  files : List String
  root : Option String
  extensions : Option (List String)
  switches : List Switch
  pending : Pending
  deriving DecidableEq, Repr

namespace Reader

/-- Nothing has been read. -/
def start : Reader :=
  ⟨[], none, none, [], .nothing⟩

/-- The parts of a text between commas. -/
def commaSeparated (text : String) : List String :=
  (text.toList.splitOn ',').map String.ofList

/-- Takes the value of an option. Only extensions may be given more than once. -/
def take (reader : Reader) (option : Setting) (value : String) : Except UsageError Reader :=
  match option with
  | .root =>
    if reader.root.isSome then .error .argumentConflict
    else if value.isEmpty then .error .invalidValue
    else .ok { reader with root := some value }
  | .extensions =>
    .ok { reader with extensions := some (reader.extensions.getD [] ++ commaSeparated value) }

/-- Settles what is pending. -/
def settle (reader : Reader) : Except UsageError Reader :=
  let settled := { reader with pending := .nothing }
  match reader.pending with
  | .nothing => .ok settled
  | .setting _ none => .error .invalidValue
  | .setting option (some value) => settled.take option value
  | .files texts =>
    if texts.any (·.isEmpty) then .error .invalidValue
    else .ok { settled with files := settled.files ++ texts }

/-- Reads a file. -/
def readPlain (reader : Reader) (text : String) : Except UsageError Reader :=
  match reader.pending with
  | .files texts => .ok { reader with pending := .files (texts ++ [text]) }
  | _ => do return { ← reader.settle with pending := .files [text] }

/-- Reads an argument before any separator. -/
def read (reader : Reader) : Argument → Except UsageError Reader
  | .separator => .ok reader
  | .unknown => .error .unknownArgument
  | .switch _ (some _) => .error .tooManyValues
  | .switch .help none => do
    let _ ← reader.settle
    .error .displayHelp
  | .switch option none => do
    let settled ← reader.settle
    if settled.switches.contains option then .error .argumentConflict
    else .ok { settled with switches := option :: settled.switches }
  | .setting option (some value) => do (← reader.settle).take option value
  | .setting option none => do return { ← reader.settle with pending := .setting option none }
  | .plain text =>
    match reader.pending with
    | .setting option none => .ok { reader with pending := .setting option (some text) }
    | _ => reader.readPlain text

/-- Reads arguments up to the end. -/
def readAll (reader : Reader) : List String → Except UsageError Reader
  | [] => reader.settle
  | text :: rest =>
    match Argument.ofText text with
    | .separator => do (← rest.foldlM readPlain reader).settle
    | argument => do (← reader.read argument).readAll rest

end Reader

/-- The configuration that arguments ask for. There has to be a file to start from. -/
def ofArguments (arguments : List String) : Except UsageError Config := do
  let reader ← Reader.start.readAll arguments
  if reader.files.isEmpty then .error .missingRequiredArgument
  else .ok {
    entries := reader.files
    root := reader.root
    extensions := reader.extensions.getD Extension.default
    dynamicImports := reader.switches.contains .dynamicImports
    keepGoing := reader.switches.contains .keepGoing
    json := reader.switches.contains .json }

end ModuleGraph.Config
