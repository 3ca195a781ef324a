/-!
# Paths as text

Paths of the usual form, with a slash between names. A path is kept as it is written, since that is
how it is shown; what it means is read off its components.

A path is a text here, and so is every name on a disk. Paths of bytes that are no text are looked
at only where they are shown (`BytePath.display`).
-/

namespace ModuleGraph

/-- A component of a path. The root and the leading dot can stand only at its beginning. -/
inductive Path.Component where
  | root
  | here
  | parent
  | name (text : String)
  deriving DecidableEq, Repr

namespace Path

/-- The pieces of a text between slashes. There is always one more than there are slashes. -/
def pieces (text : List Char) : List (List Char) :=
  text.splitOn '/'

/-- Whether a path starts at the root. -/
def isAbsolute (path : String) : Bool :=
  path.toList.head? == some '/'

/-- The component that a piece stands for, if it stands for one: repeated slashes and dots that are
not at the beginning of the path mean nothing. -/
def componentOf? (piece : List Char) : Option Component :=
  if piece = [] || piece = ['.'] then none
  else if piece = ['.', '.'] then some .parent
  else some (.name (String.ofList piece))

/-- The components of a path. -/
def components (path : String) : List Component :=
  let all := pieces path.toList
  let start :=
    if isAbsolute path then [Component.root]
    else if all.head? = some ['.'] then [.here]
    else []
  start ++ all.filterMap componentOf?

/-- The text of a component. -/
def Component.text : Component → String
  | .root => "/"
  | .here => "."
  | .parent => ".."
  | .name text => text

/-- The text of components: a slash between each two of them, the root being the slash before the
first. -/
def ofComponents : List Component → String
  | .root :: rest => "/" ++ String.intercalate "/" (rest.map Component.text)
  | all => String.intercalate "/" (all.map Component.text)

/-- The name of a file, which is the last component of its path if that is a name. -/
def fileName? (path : String) : Option String :=
  match (components path).getLast? with
  | some (.name text) => some text
  | _ => none

/-- What stands behind the last dot of a file's name, unless that dot is its first character. -/
def extension? (path : String) : Option String := do
  let name ← fileName? path
  let reversed := name.toList.reverse
  let tail := reversed.takeWhile (· != '.')
  if tail.length + 1 < reversed.length then some (String.ofList tail.reverse) else none

/-- Whether a piece of a path's text stands for nothing. -/
def isVoid (piece : List Char) : Bool :=
  componentOf? piece == none

/-- A list without the pieces at its end that stand for nothing. -/
def withoutTrailingVoid (parts : List (List Char)) : List (List Char) :=
  (parts.reverse.dropWhile isVoid).reverse

/-- The text of pieces, a slash between each two of them. -/
def ofPieces (parts : List (List Char)) : String :=
  String.ofList (['/'].intercalate parts)

/-- The path that contains a path, as a text: what is left when the last component is taken away,
with what stands for nothing before it. The root and the empty path are contained in none. -/
def parent? (path : String) : Option String :=
  let all := pieces path.toList
  let shortened (body : List (List Char)) := withoutTrailingVoid (withoutTrailingVoid body).dropLast
  match (components path).getLast? with
  | none | some .root => none
  | some .here => some ""
  | some _ =>
    if isAbsolute path then some ("/" ++ ofPieces (shortened (all.drop 1)))
    else if all.head? = some ['.'] then some (ofPieces (['.'] :: shortened (all.drop 1)))
    else some (ofPieces (shortened all))

/-- A path and those that contain it, outwards, at most so many of them. -/
def outwards : Nat → String → List String
  | 0, path => [path]
  | n + 1, path =>
    path :: match parent? path with
      | some around => outwards n around
      | none => []

/-- A path and all that contain it, outwards. Every step takes one component away. -/
def ancestors (path : String) : List String :=
  outwards (components path).length path

/-- A path read from a directory: an absolute path stands for itself, any other is written behind
the directory and a slash. -/
def join (directory path : String) : String :=
  if isAbsolute path then path
  else if directory.isEmpty || directory.toList.getLast? == some '/' then directory ++ path
  else directory ++ "/" ++ path

end Path

end ModuleGraph
