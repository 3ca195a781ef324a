import ModuleGraph.Location

/-!
# Disks

A disk is a finite tree of directories, files and symbolic links, with a working directory in it.
It is given as a list of what stands where. The root is always a directory.

Looking something up follows links and can fail for the reasons that a file system has, which
`Cause` lists. The location at the end of a successful lookup has no link on the way to it, so two
paths lead to one file exactly when they lead to one location.

There are two ways of looking something up, and through links they can come to different ends:
behind a link there may be something whose location is longer than a path may be. Asking what is
there goes from name to name and finds it. Asking for its location spells out every location on the
way and does not.
-/

namespace ModuleGraph

/-- Why a path could not be followed, or what it leads to could not be read. -/
inductive Cause where
  | notFound
  | notDirectory
  | isDirectory
  | nameTooLong
  | tooManyLinks
  | alreadyExists
  | notText
  | nulInPath
  | other (message : String)
  deriving DecidableEq, Repr

/-- The words for a cause. -/
def Cause.message : Cause → String
  | .notFound => "No such file or directory (os error 2)"
  | .alreadyExists => "File exists (os error 17)"
  | .notDirectory => "Not a directory (os error 20)"
  | .isDirectory => "Is a directory (os error 21)"
  | .nameTooLong => "File name too long (os error 36)"
  | .tooManyLinks => "Too many levels of symbolic links (os error 40)"
  | .notText => "stream did not contain valid UTF-8"
  | .nulInPath => "file name contained an unexpected NUL byte"
  | .other message => message

/-- What a file contains. Nothing here tells two contents apart that are no text. -/
inductive Content where
  | text (words : String)
  | undecodable
  deriving DecidableEq, Repr

/-- The content that bytes make up. -/
def Content.ofBytes (bytes : ByteArray) : Content :=
  match String.fromUTF8? bytes with
  | some words => .text words
  | none => .undecodable

/-- What stands at a location. The target of a link is a path as it was written. -/
inductive Entry where
  | directory
  | file (content : Content)
  | link (target : String)
  deriving DecidableEq, Repr

/-- What stands where, and where relative paths start, unless that directory is gone. -/
structure Disk where
  entries : List (Location × Entry)
  workingDirectory : Option Location
  deriving DecidableEq, Repr

namespace Disk

/-- What stands at a location. -/
def entry? (disk : Disk) (location : Location) : Option Entry :=
  if location = .root then some .directory else disk.entries.lookup location

/-- The most bytes that a name may have. -/
def nameLimit : Nat := 255

/-- The most bytes that a path may have where the file system is asked about it. -/
def pathLimit : Nat := 4095

/-- The most links that are followed for one path. -/
def linkLimit : Nat := 40

/-- How a file system is asked about the names on the way: each in the directory around it, or each
by its whole location. -/
inductive Manner where
  | stepwise
  | spelled
  deriving DecidableEq, Repr

/-- Asks about a name in a directory. -/
def probe (disk : Disk) (manner : Manner) (directory : Location) (name : String) :
    Except Cause Entry :=
  let location := directory.child name
  if name.utf8ByteSize > nameLimit then .error .nameTooLong
  else if manner = .spelled ∧ location.text.utf8ByteSize > pathLimit then .error .nameTooLong
  else match disk.entry? location with
    | some entry => .ok entry
    | none => .error .notFound

/-- Follows the pieces of a path from a location that no link leads to. A link is handed over with
what is still to be followed behind it. Anything behind a file, and be it nothing but a slash, asks
for a directory. -/
def descend (disk : Disk) (manner : Manner)
    (throughLink : Location → String → List String → Except Cause Location) :
    Location → List String → Except Cause Location
  | here, [] => .ok here
  | here, piece :: rest =>
    if piece = "" || piece = "." then disk.descend manner throughLink here rest
    else if piece = ".." then disk.descend manner throughLink here.parent rest
    else match disk.probe manner here piece with
      | .error cause => .error cause
      | .ok .directory => disk.descend manner throughLink (here.child piece) rest
      | .ok (.file _) => if rest = [] then .ok (here.child piece) else .error .notDirectory
      | .ok (.link target) => throughLink here target rest

/-- The pieces of a path between slashes. -/
def piecesOf (path : String) : List String :=
  (Path.pieces path.toList).map String.ofList

/-- Where a path starts that is read in a directory. -/
def startOf (path : String) (directory : Location) : Location :=
  if Path.isAbsolute path then .root else directory

/-- Follows pieces and at most so many links. -/
def descendThrough (disk : Disk) (manner : Manner) :
    Nat → Location → List String → Except Cause Location
  | 0 => disk.descend manner fun _ _ _ => .error .tooManyLinks
  | links + 1 => disk.descend manner fun here target rest =>
      disk.descendThrough manner links (startOf target here) (piecesOf target ++ rest)

/-- Where a path starts, if it can be asked about at all. -/
def start (disk : Disk) (path : String) : Except Cause Location :=
  if path.toList.contains '\x00' then .error .nulInPath
  else if path.isEmpty then .error .notFound
  else if Path.isAbsolute path then .ok .root
  else match disk.workingDirectory with
    | some directory => .ok directory
    | none => .error .notFound

/-- Looks a path up. -/
def locate (disk : Disk) (manner : Manner) (path : String) : Except Cause Location :=
  match disk.start path with
  | .ok here => disk.descendThrough manner linkLimit here (piecesOf path)
  | .error cause => .error cause

/-- The location that a path leads to. -/
def canonicalize (disk : Disk) (path : String) : Except Cause Location :=
  disk.locate .spelled path

/-- What a path leads to. Here the path itself must not be too long, other than where only its
location is asked for. -/
def find (disk : Disk) (path : String) : Except Cause (Location × Entry) :=
  if path.utf8ByteSize > pathLimit then .error .nameTooLong
  else match disk.locate .stepwise path with
    | .error cause => .error cause
    | .ok location => match disk.entry? location with
      | some entry => .ok (location, entry)
      | none => .error .notFound

/-- Whether a path leads to anything. -/
def leadsSomewhere (disk : Disk) (path : String) : Bool :=
  (disk.find path).isOk

/-- Whether a path leads to a file. -/
def isFile (disk : Disk) (path : String) : Bool :=
  match disk.find path with
  | .ok (_, .file _) => true
  | _ => false

/-- The text of the file that a path leads to. -/
def readText (disk : Disk) (path : String) : Except Cause String :=
  match disk.find path with
  | .error cause => .error cause
  | .ok (_, .file (.text words)) => .ok words
  | .ok (_, .file .undecodable) => .error .notText
  | .ok (_, _) => .error .isDirectory

end Disk

end ModuleGraph
