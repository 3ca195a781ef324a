import ModuleGraph.Failure
import ModuleGraph.Graph
import ModuleGraph.Specifier

/-!
# Walks

A walk finds the graph of all files that can be reached from one file. It goes depth first and
keeps its path in a stack of frames, so that a chain of files may be as long as it likes. Every
file is entered once: its requests are read and followed, what they lead to is registered, and a
frame for it is put on the stack. Then the targets of the topmost frame are looked at one by one.
One that was never seen is entered; one that is on the stack closes a cycle, which is noted; one
that is finished is passed by.

How requests are read and where they lead is not a walk's business. It asks, by `Answers`, in
whatever monad the answers are given.

Between two entrances nothing is asked, and a walk makes a number of moves that the stack bounds.
The number of entrances is bounded by the number of files. `Walk.explore` is a recursion on that
number.
-/

namespace ModuleGraph

/-- What a walk asks: the requests in a file, and the file to which a request in a file leads. -/
structure Answers (m : Type → Type) where
  imports : Location → m (Except Failure (List Specifier))
  target : Location → String → m (Except Failure Location)

/-- What to do where a file other than the first cannot be expanded: give up, or note it and go
on. -/
inductive Policy where
  | abort
  | record
  deriving DecidableEq, Repr

/-- A chain of files, each depending on the next, whose first is its last. -/
structure Cycle where
  chain : List Location
  deriving DecidableEq, Repr

/-- A cycle in words, every file shown in a given way. -/
def Cycle.text (shown : Location → String) (cycle : Cycle) : String :=
  String.intercalate " -> " (cycle.chain.map shown)

/-- What is noted on a walk. -/
inductive Finding where
  | cycle (found : Cycle)
  | failure (met : Failure)
  deriving DecidableEq, Repr

namespace Finding

/-- What is said about a finding when it is made. -/
def warning : Finding → String
  | .cycle found => "Cyclic dependency detected: " ++ found.text Location.text
  | .failure met => met.message ++ " (continuing)"

/-- The cycle that was found, if it was one. -/
def cycle? : Finding → Option Cycle
  | .cycle found => some found
  | .failure _ => none

/-- The failure that was found, if it was one. -/
def failure? : Finding → Option Failure
  | .cycle _ => none
  | .failure met => some met

end Finding

/-- What a walk has found so far: the graph, and findings in the order in which they were made. -/
structure Record where
  graph : Graph
  findings : List Finding
  deriving DecidableEq, Repr

namespace Record

/-- The cycles, in the order in which they were found. -/
def cycles (record : Record) : List Cycle :=
  record.findings.filterMap Finding.cycle?

/-- The failures, in the order in which they were met. -/
def failures (record : Record) : List Failure :=
  record.findings.filterMap Finding.failure?

/-- The record with one more dependency. -/
def link (record : Record) (source target : Location) : Record :=
  { record with graph := record.graph.link source target }

/-- The record with one more finding. -/
def note (record : Record) (finding : Finding) : Record :=
  { record with findings := record.findings ++ [finding] }

/-- The record with a cycle, which is noted only the first time. -/
def noteCycle (record : Record) (cycle : Cycle) : Record :=
  if record.cycles.contains cycle then record else record.note (.cycle cycle)

end Record

/-- A walk that was given up: why, and what had been found by then. -/
structure Abandoned where
  failure : Failure
  findings : List Finding
  deriving DecidableEq, Repr

/-- A file on the path, what it depends on, and how many of those have been looked at. -/
structure Frame where
  file : Location
  targets : List Location
  next : Nat
  deriving DecidableEq, Repr

/-- How far a walk has come with a file. -/
inductive Mark where
  | onPath
  | finished
  deriving DecidableEq, Repr

/-- The state of a walk. The frame of the file that was entered last is first in the stack, and the
mark that was set last is first among the marks. -/
structure Walk where
  record : Record
  marks : List (Location × Mark)
  stack : List Frame
  deriving DecidableEq, Repr

namespace Walk

/-- A walk that has entered nothing, with its first file registered. -/
def start (file : Location) : Walk where
  record := ⟨Graph.empty.register file, []⟩
  marks := []
  stack := []

/-- How far the walk has come with a file, if it has seen it. -/
def mark? (walk : Walk) (file : Location) : Option Mark :=
  walk.marks.lookup file

/-- The walk with a mark set. -/
def setMark (walk : Walk) (file : Location) (mark : Mark) : Walk :=
  { walk with marks := (file, mark) :: walk.marks }

/-- The cycle that a dependency of the topmost file on a file of the stack closes. -/
def closing? (walk : Walk) (file : Location) : Option Cycle :=
  let files := walk.stack.map (·.file)
  if files.contains file then some ⟨file :: (files.takeWhile (· ≠ file)).reverse ++ [file]⟩
  else none

section Asking

variable {m : Type → Type} [Monad m] (answers : Answers m)

/-- Follows the requests of a file: registers what they lead to, in their order, and gives it back.
Strictly, a request that leads nowhere ends the walk; otherwise it is noted. -/
def follow (strict : Bool) (file : Location) :
    List Specifier → Record → m (Except Abandoned (List Location × Record))
  | [], record => pure (.ok ([], record))
  | specifier :: rest, record => do
    match ← answers.target file specifier.request with
    | .ok target =>
      match ← follow strict file rest (record.link file target) with
      | .ok (targets, record) => pure (.ok (target :: targets, record))
      | .error abandoned => pure (.error abandoned)
    | .error failure =>
      if strict then pure (.error ⟨failure, record.findings⟩)
      else follow strict file rest (record.note (.failure failure))

/-- Reads the requests of a file and follows them. A file that cannot be read depends on nothing,
unless that ends the walk. -/
def expand (strict : Bool) (file : Location) (record : Record) :
    m (Except Abandoned (List Location × Record)) := do
  match ← answers.imports file with
  | .ok specifiers => follow answers strict file specifiers record
  | .error failure =>
    if strict then pure (.error ⟨failure, record.findings⟩)
    else pure (.ok ([], record.note (.failure failure)))

/-- Enters a file: expands it and puts it on the stack. -/
def enter (strict : Bool) (file : Location) (walk : Walk) : m (Except Abandoned Walk) := do
  match ← expand answers strict file walk.record with
  | .error abandoned => pure (.error abandoned)
  | .ok (targets, record) =>
    pure (.ok { walk.setMark file .onPath with record, stack := ⟨file, targets, 0⟩ :: walk.stack })

end Asking

/-- What comes next on a walk: nothing, a move after which the walk is as given, or a file to be
entered. -/
inductive Turn where
  | ended
  | moved (walk : Walk)
  | unseen (file : Location) (walk : Walk)

/-- Looks at the next target of the topmost file, or takes the file from the stack if there is
none. -/
def turn (walk : Walk) : Turn :=
  match walk.stack with
  | [] => .ended
  | frame :: below =>
    match frame.targets[frame.next]? with
    | none => .moved { walk.setMark frame.file .finished with stack := below }
    | some target =>
      let looked := { walk with stack := { frame with next := frame.next + 1 } :: below }
      match walk.mark? target with
      | some .finished => .moved looked
      | some .onPath =>
        match looked.closing? target with
        | some cycle => .moved { looked with record := looked.record.noteCycle cycle }
        | none => .moved looked
      | none => .unseen target looked

/-- The number of moves that the files of the stack leave at most. -/
def remaining (walk : Walk) : Nat :=
  (walk.stack.map fun frame => frame.targets.length - frame.next + 1).foldr (· + ·) 0

/-- Moves at most so many times, as long as there is no file to be entered. Gives back the file if
there is. -/
def settle : Nat → Walk → Walk × Option Location
  | 0, walk => (walk, none)
  | moves + 1, walk =>
    match walk.turn with
    | .ended => (walk, none)
    | .moved walk => settle moves walk
    | .unseen file walk => (walk, some file)

/-- Moves up to the next file to be entered, or to the end of the walk. -/
def settled (walk : Walk) : Walk × Option Location :=
  settle (walk.remaining + 1) walk

section Asking

variable {m : Type → Type} [Monad m] (answers : Answers m)

/-- Goes on with a walk and enters at most so many more files. -/
def explore (strict : Bool) : Nat → Walk → m (Except Abandoned Walk)
  | 0, walk => pure (.ok walk.settled.1)
  | entrances + 1, walk =>
    match walk.settled with
    | (walk, none) => pure (.ok walk)
    | (walk, some file) => do
      match ← walk.enter answers strict file with
      | .error abandoned => pure (.error abandoned)
      | .ok walk => explore strict entrances walk

/-- The whole walk from a file. The file itself is always entered strictly. -/
def whole (policy : Policy) (size : Nat) (file : Location) : m (Except Abandoned Walk) := do
  match ← (start file).enter answers true file with
  | .error abandoned => pure (.error abandoned)
  | .ok walk => explore answers (policy = .abort) size walk

end Asking

end Walk

/-- What a walk that was not given up has found. -/
structure Outcome where
  graph : Graph
  cycles : List Cycle
  failures : List Failure
  deriving DecidableEq, Repr

/-- The outcome that a record shows. -/
def Record.outcome (record : Record) : Outcome :=
  ⟨record.graph, record.cycles, record.failures⟩

/-- What became of a walk, and all findings on it, in order. -/
structure Build where
  result : Except Failure Outcome
  findings : List Finding
  deriving Repr

/-- What became of a walk. -/
def Build.ofWalk : Except Abandoned Walk → Build
  | .error abandoned => ⟨.error abandoned.failure, abandoned.findings⟩
  | .ok walk => ⟨.ok walk.record.outcome, walk.record.findings⟩

end ModuleGraph
