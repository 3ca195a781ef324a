import ModuleGraph.Source.Dialect
import ModuleGraph.Source.Requests

/-!
# Parsers

How a text becomes a tree is not settled here. A `Parser` stands for whatever does that: it goes on
behind a fault where it can, and so hands over a tree together with what it has to complain about,
or it gives up. Only a text with which it had no trouble at all counts as well formed.

Module graphs are built over an arbitrary parser, and what is shown about them holds for every
one. The parser that the program runs is an instance of the class.
-/

namespace ModuleGraph.Source

/-- What a parser makes of a text. -/
structure Parse where
  /-- The tree, which is not to be trusted where the parser complains or has given up. -/
  tree : Node
  complaints : List String
  /-- Whether the parser gave up before the end of the text. -/
  aborted : Bool

/-- A parser. All it goes by is the dialect and the text. -/
class Parser where
  parse : Dialect → String → Parse

namespace Parse

/-- What is said about a parser that gave up and complained about nothing. -/
def silence : String := "parser aborted"

/-- The tree of a text that is well formed, or else the first complaint about it. -/
def checked (parse : Parse) : Except String Node :=
  if parse.aborted || !parse.complaints.isEmpty then
    .error (parse.complaints.head?.getD silence)
  else .ok parse.tree

/-- The tree of a text that gave no trouble. -/
def clean (tree : Node) : Parse :=
  ⟨tree, [], false⟩

/-- What becomes of a text with a fault behind which the parser does not go on. -/
def rejected (complaint : String) : Parse :=
  ⟨.group .block [], [complaint], true⟩

end Parse

namespace Parser

variable [Parser]

/-- The tree of a file's text, or the complaint about it. The path decides the dialect and is not
read. -/
def tree (path text : String) : Except String Node :=
  (parse (Dialect.ofPath path) text).checked

/-- The requests in the text of a file, in the order of the text, or the complaint about it. -/
def requests (dynamic : Bool) (path text : String) : Except String (List Specifier) :=
  (tree path text).map (Node.requests dynamic)

end Parser

end ModuleGraph.Source
