import ModuleGraph.Source.Grammar.Statement
import ModuleGraph.Source.Parser

/-!
# Programs

The grammar as a whole, and the tree and the requests of a text. Every rule that is entered again
before a token has been read is at most a fixed number of rules away from one that reads a token,
so a depth of a few rules for each character of the text is more than any reading can reach.
-/

namespace ModuleGraph.Source

/-- The rules over a grammar for what they contain. -/
def Grammar.around (g : Unit → Grammar) : Grammar where
  statement position := fun setting cursor => Statement.whole (g ()) position setting cursor
  assignment allowResult := fun setting cursor =>
    Expression.assignment (g ()) allowResult setting cursor
  binary minimum := fun setting cursor => Expression.binary (g ()) minimum setting cursor
  unary := fun setting cursor => Expression.unary (g ()) setting cursor
  leftHand := fun setting cursor => Expression.leftHand (g ()) setting cursor
  primary := fun setting cursor => Expression.primary (g ()) setting cursor
  pattern := fun setting cursor => Pattern.target (g ()) setting cursor
  type := fun setting cursor => TypeForm.whole (g ()) setting cursor
  typeOperand := fun setting cursor => TypeForm.operand (g ()) setting cursor
  markup inside := fun setting cursor => Markup.whole (g ()) inside setting cursor

/-- The grammar of all phrases that contain one another at most so many times. -/
def Grammar.upTo : Nat → Grammar
  | 0 => .refusing
  | depth + 1 => .around fun _ => Grammar.upTo depth

namespace Program

/-- The text behind a byte order mark and a first line that names an interpreter. -/
def body (text : List Char) : List Char :=
  let unmarked := match text with
    | '\uFEFF' :: rest => rest
    | _ => text
  match unmarked with
  | '#' :: '!' :: rest => rest.dropWhile fun c => !Lexeme.isLineEnd c
  | _ => unmarked

/-- The statements of a text up to its end. -/
def statements (g : Grammar) : Reading Node := do
  return .group .block (← Reading.manyUntil (· == .finish) (g.statement .listed))

/-- The scope of the statements of a text. A module may wait for something at its outermost
level. -/
def outermost (dialect : Dialect) : Scope where
  inOperator := true
  generator := false
  async := dialect.isModule
  function := false
  decorator := false
  plainType := false
  ambient := false

/-- The tree of a text, if the text is well formed in the dialect. -/
def parse? (dialect : Dialect) (text : List Char) : Option Node :=
  let room := text.length + 2
  let first := Lexeme.next (!dialect.isModule) room true (body text)
  let start : Cursor := ⟨first, !first.sound, 0, [], []⟩
  match statements (Grammar.upTo (6 * room)) ⟨dialect, outermost dialect, room⟩ start with
  | (some tree, stop) => if stop.faulty || stop.pending != 0 then none else some tree
  | (none, _) => none

/-- What is said about a text that is not well formed in its dialect. -/
def complaint : String := "SYNTAX"

/-- The parser that reads a text as a whole or not at all. -/
instance : Parser where
  parse dialect text :=
    match parse? dialect text.toList with
    | some tree => .clean tree
    | none => .rejected complaint

end Program

end ModuleGraph.Source
