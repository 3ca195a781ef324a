import ModuleGraph.CommandLine
import ModuleGraph.Source.Program

/-!
# The program

The disk of the machine answers the questions of a run; what is asked and what follows from it is
not decided here.
-/

open ModuleGraph

/-- The cause that stands for a code of the operating system, which is given as it is or
negated. -/
def causeOfCode (code : UInt32) (message : String) : Cause :=
  match code.toInt32.toInt.natAbs with
  | 2 => .notFound
  | 17 => .alreadyExists
  | 20 => .notDirectory
  | 21 => .isDirectory
  | 36 => .nameTooLong
  | 40 => .tooManyLinks
  | _ => .other message

/-- The cause that an error of the operating system stands for. -/
def causeOf (error : IO.Error) : Cause :=
  match error with
  | .noFileOrDirectory _ code message => causeOfCode code message
  | .inappropriateType _ code message => causeOfCode code message
  | .invalidArgument _ code message => causeOfCode code message
  | .resourceExhausted _ code message => causeOfCode code message
  | .permissionDenied _ code message => causeOfCode code message
  | .noSuchThing _ code message => causeOfCode code message
  | .otherError code message => causeOfCode code message
  | other => .other (toString other)

/-- The result of an action, or the cause for which it failed. -/
def attempt (action : IO α) : IO (Except Cause α) := do
  match ← action.toBaseIO with
  | .ok value => return .ok value
  | .error error => return .error (causeOf error)

/-- The location that a path leads to. Where there is none, an attempt to open the path tells
why. -/
def locate (path : String) : IO (Except Cause Location) := do
  if path.toList.contains '\x00' then return .error .nulInPath
  if path.isEmpty then return .error .notFound
  match ← attempt do return Location.root.along (← IO.FS.realPath path).toString with
  | .ok location => return .ok location
  | .error cause =>
    match ← attempt (IO.FS.readBinFile path) with
    | .ok _ => return .error cause
    | .error cause => return .error cause

/-- The kind of what a path leads to. -/
def kindOf (path : String) : IO (Except Cause IO.FS.FileType) := do
  if path.toList.contains '\x00' then return .error .nulInPath
  attempt do return (← ((← IO.currentDir) / path).metadata).type

/-- The text of a file. -/
def textOf (path : String) : IO (Except Cause String) := do
  match ← attempt (IO.FS.readBinFile path) with
  | .error cause => return .error cause
  | .ok bytes =>
    match Content.ofBytes bytes with
    | .text words => return .ok words
    | .undecodable => return .error .notText

/-- The questions put to the disk of the machine. It has fewer files than there are numbers of 64
bits. -/
def machine : Access IO where
  canonicalize := locate
  isFile path := do
    match ← kindOf path with
    | .ok .file => return true
    | _ => return false
  leadsSomewhere path := do return (← kindOf path).isOk
  readText := textOf
  workingDirectory := attempt do return Location.root.along (← IO.currentDir).toString
  size := return Nat.pow 2 64

/-- Whether the output is to show styles: if that is demanded, or on a terminal unless it is
declined. -/
def showsStyles : IO Bool := do
  match ← IO.getEnv "CLICOLOR_FORCE" with
  | some value => if value ≠ "0" then return true
  | none => pure ()
  if (← IO.getEnv "NO_COLOR").isSome then return false
  if (← IO.getEnv "CLICOLOR") = some "0" then return false
  (← IO.getStdout).isTty

/-- What is shown where the arguments are not accepted. -/
def usage : String :=
  "Usage: (graph | cycles) [--root DIRECTORY] [--extensions LIST] [--dynamic-imports] " ++
    "[--keep-going] [--json] FILE..."

def main (arguments : List String) : IO UInt32 := do
  match Command.ofArguments arguments with
  | .error .displayHelp =>
    IO.println usage
    return 0
  | .error _ =>
    IO.eprintln usage
    return 2
  | .ok (command, config) =>
    let start ← IO.monoMsNow
    let answer ← command.answer machine (← showsStyles) config
    let elapsed := (← IO.monoMsNow) - start
    IO.print (answer.output (toString elapsed))
    IO.eprint answer.error
    return UInt32.ofNat answer.status
