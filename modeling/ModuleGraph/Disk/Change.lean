import ModuleGraph.Disk.Basic

/-!
# Changes to a disk

Writing a file, making a directory or a link, and removing what stands somewhere. Directories that
are missing on the way are made. Writing follows a link at the end of its path, also one that leads
to nothing yet; the other changes concern the link itself.
-/

namespace ModuleGraph.Disk

/-- The disk with an entry at a location, in place of what stood there. -/
def put (disk : Disk) (location : Location) (entry : Entry) : Disk :=
  { disk with entries := (location, entry) :: disk.entries.filter (·.1 ≠ location) }

/-- The disk without what stands at a location or below it. -/
def drop (disk : Disk) (location : Location) : Disk where
  entries := disk.entries.filter fun e => !e.1.isWithin location
  workingDirectory := disk.workingDirectory.filter fun d => !d.isWithin location

/-- The directory that pieces of a path lead to, and the disk on which it and all on the way to it
are there. -/
def ensure (disk : Disk) (here : Location) : List String → Except Cause (Disk × Location)
  | [] => .ok (disk, here)
  | piece :: rest =>
    if piece = "" || piece = "." then disk.ensure here rest
    else if piece = ".." then disk.ensure here.parent rest
    else match disk.probe .stepwise here piece with
      | .error .notFound =>
        let made := here.child piece
        (disk.put made .directory).ensure made rest
      | .error cause => .error cause
      | .ok _ => match disk.descendThrough .stepwise linkLimit here [piece, "."] with
        | .error cause => .error cause
        | .ok there => disk.ensure there rest

/-- Where the path of a change starts. It must not be too long. -/
def startOfChange (disk : Disk) (path : String) : Except Cause Location :=
  if path.utf8ByteSize > pathLimit then .error .nameTooLong else disk.start path

/-- The disk on which a path leads to a directory. -/
def makeDirectory (disk : Disk) (path : String) : Except Cause Disk :=
  match disk.startOfChange path with
  | .error cause => .error cause
  | .ok here => match disk.ensure here (piecesOf path) with
    | .error cause => .error cause
    | .ok (made, _) => .ok made

/-- The pieces of a path before its last name, and that name. A slash behind it is no name. -/
def splitLast? (path : String) : Option (List String × String) :=
  match (piecesOf path).reverse.dropWhile (· = "") with
  | [] => none
  | last :: before => if last = "." || last = ".." then none else some (before.reverse, last)

/-- The directory that a path's last name is in, with that name, on the disk on which the directory
is there. -/
def place (disk : Disk) (path : String) : Except Cause (Disk × Location × String) :=
  match disk.startOfChange path with
  | .error cause => .error cause
  | .ok here =>
    match splitLast? path with
    | none => .error .isDirectory
    | some (before, last) =>
      match disk.ensure here before with
      | .error cause => .error cause
      | .ok (made, directory) => .ok (made, directory, last)

/-- Puts a file at a name in a directory, or where a link of that name leads to. -/
def writeAt (disk : Disk) (content : Content) : Nat → Location → String → Except Cause Disk
  | links, directory, name =>
    match disk.entry? (directory.child name) with
    | some .directory => .error .isDirectory
    | some (.link target) =>
      match links with
      | 0 => .error .tooManyLinks
      | links + 1 =>
        match splitLast? target with
        | none => .error .isDirectory
        | some (before, last) =>
          match disk.descendThrough .stepwise linkLimit (startOf target directory) before with
          | .error cause => .error cause
          | .ok there => disk.writeAt content links there last
    | _ => .ok (disk.put (directory.child name) (.file content))

/-- The disk after a file has been written. -/
def write (disk : Disk) (path : String) (content : Content) : Except Cause Disk :=
  match disk.place path with
  | .error cause => .error cause
  | .ok (made, directory, name) => made.writeAt content linkLimit directory name

/-- The disk after a link has been made. -/
def makeLink (disk : Disk) (path target : String) : Except Cause Disk :=
  match disk.place path with
  | .error cause => .error cause
  | .ok (made, directory, name) =>
    if (made.entry? (directory.child name)).isSome then .error .alreadyExists
    else if target.isEmpty then .error .notFound
    else .ok (made.put (directory.child name) (.link target))

/-- The disk after a file, a link or a directory with all that is in it has been removed. -/
def remove (disk : Disk) (path : String) : Except Cause Disk :=
  match disk.startOfChange path with
  | .error cause => .error cause
  | .ok here =>
    match splitLast? path with
    | none => .error .isDirectory
    | some (before, last) =>
      match disk.descendThrough .stepwise linkLimit here before with
      | .error cause => .error cause
      | .ok directory =>
        let location := directory.child last
        if (disk.entry? location).isSome then .ok (disk.drop location) else .error .notFound

end ModuleGraph.Disk
