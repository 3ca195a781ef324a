import ModuleGraph.Disk.Basic

/-!
# Access to a disk

What a run asks of a disk, as a record of questions, so that it can be put to a disk that is a
value and to the disk of the machine alike. The questions are asked in a monad: the identity for a
value, since a value answers the same question always in the same way.
-/

namespace ModuleGraph

/-- The questions about a disk. -/
structure Access (m : Type → Type) where
  /-- The location that a path leads to. -/
  canonicalize : String → m (Except Cause Location)
  /-- Whether a path leads to a file. -/
  isFile : String → m Bool
  /-- Whether a path leads to anything. -/
  leadsSomewhere : String → m Bool
  /-- The text of the file that a path leads to. -/
  readText : String → m (Except Cause String)
  /-- Where relative paths start. -/
  workingDirectory : m (Except Cause Location)
  /-- A number that there are not more locations than. -/
  size : m Nat

/-- The questions put to a disk that is a value. -/
def Disk.access (disk : Disk) : Access Id where
  canonicalize := disk.canonicalize
  isFile := disk.isFile
  leadsSomewhere := disk.leadsSomewhere
  readText := disk.readText
  workingDirectory := match disk.workingDirectory with
    | some directory => .ok directory
    | none => .error .notFound
  size := disk.entries.length + 1

end ModuleGraph
