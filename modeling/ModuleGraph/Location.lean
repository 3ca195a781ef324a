import ModuleGraph.Path

/-!
# Locations

A path can be written in many ways. A location is what an absolute path without dots says: the
names on the way from the root. Two locations are equal exactly when they are written alike, so a
graph of files is a graph of locations.
-/

namespace ModuleGraph

/-- The names on the way from the root of the disk. -/
structure Location where
  names : List String
  deriving DecidableEq, Repr

namespace Location

/-- The root of the disk. -/
def root : Location :=
  ⟨[]⟩

/-- A location as an absolute path. -/
def text (location : Location) : String :=
  "/" ++ String.intercalate "/" location.names

/-- The directory around a location. The root is its own. -/
def parent (location : Location) : Location :=
  ⟨location.names.dropLast⟩

/-- A name within a location. -/
def child (location : Location) (name : String) : Location :=
  ⟨location.names ++ [name]⟩

/-- Whether a location is another one or lies below it. -/
def isWithin (location around : Location) : Bool :=
  around.names.isPrefixOf location.names

/-- One component followed from a location, by its text alone. -/
def follow (location : Location) : Path.Component → Location
  | .root => root
  | .here => location
  | .parent => location.parent
  | .name text => location.child text

/-- The location that a path names from a directory when no link is looked at. -/
def along (directory : Location) (path : String) : Location :=
  (Path.components path).foldl follow directory

end Location

end ModuleGraph
