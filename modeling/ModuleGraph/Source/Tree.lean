/-!
# Syntax trees

The trees of JavaScript and TypeScript programs. The forms that can ask for a module, or that
decide whether one does, have constructors of their own: identifiers, strings, calls, import calls
and import declarations. Every other form is a `group`, which keeps its `Form` and its parts in the
order in which they are walked. That is the order of the text, except that a template comes as its
substitutions alone and that decorators stand before what they decorate.

A tree is not a faithful picture of its program. Operators, numbers and the text of templates are
left out, and a member access forgets the name of the member.
-/

namespace ModuleGraph.Source

/-- The forms whose only role is to hold other forms. -/
inductive Form where
  -- expressions
  | name | literal | keyword | template | taggedTemplate
  | array | hole | spread | trailingComma | object | property
  | functionExpression | arrow | classExpression
  | unary | update | binary | logical | coalesce | privateIn
  | assignment | compoundAssignment | conditional | sequence
  | awaitExpression | yieldExpression | newExpression
  | member | chain | parenthesized
  | nonNull | cast | assertion | instantiation
  -- patterns
  | objectPattern | arrayPattern | patternProperty | rest | withDefault | annotated | parameter
  -- markup
  | element | fragment | markupAttribute | container | markupText
  -- statements
  | block | expressionStatement | emptyStatement | ifStatement | doStatement | whileStatement
  | forStatement | forInStatement | forOfStatement | jump | returnStatement | throwStatement
  | withStatement | switchStatement | switchCase | tryStatement | catchClause | labelled
  | bindings | declarator
  -- declarations
  | functionDeclaration | classDeclaration | method | field | staticBlock | decorator
  | exportDeclaration | exportDefault | exportNames | exportAll
  | importAlias | typeAlias | interfaceDeclaration | enumDeclaration | enumMember
  | namespaceDeclaration | signature | typeParameter
  -- types
  | keywordType | referenceType | literalType | templateType | queryType | importType
  | unionType | intersectionType | operatorType | inferType | arrayType | indexedType | tupleType
  | objectType | mappedType | functionType | conditionalType | parenthesizedType | predicateType
  | optionalType
  deriving DecidableEq, Repr

/-- What an import declaration takes from its module: the default export, all of it, or an export
by name, which may be wanted as a type only. -/
inductive ImportedName where
  | default
  | all
  | named (typeOnly : Bool)
  deriving DecidableEq, Repr

/-- A node of a syntax tree. The names of an import declaration are absent when it has no clause at
all, as in `import './a'`. A `shorthand` is a member of an object such as `a` in `{ a }`; its
`initial` value can stand only where the object turns out to be a pattern. -/
inductive Node where
  | identifier (name : String)
  | string (value : String)
  | call (callee : Node) (typeArguments arguments : List Node)
  | importCall (source : Node) (options : Option Node)
  | importDeclaration (typeOnly : Bool) (names : Option (List ImportedName)) (source : String)
  | shorthand (name : String) (initial : Option Node)
  | group (form : Form) (parts : List Node)

namespace Node

/-- The nodes directly below a node, in the order in which they are walked. -/
def children : Node → List Node
  | .identifier _ | .string _ | .importDeclaration .. => []
  | .call callee typeArguments arguments => callee :: (typeArguments ++ arguments)
  | .importCall source options => source :: options.toList
  | .shorthand _ initial => initial.toList
  | .group _ parts => parts

/-- Whether the node is a group of the given form. -/
def isForm (node : Node) (form : Form) : Bool :=
  match node with
  | .group f _ => f == form
  | _ => false

/-- Whether the node is an identifier. -/
def isIdentifier : Node → Bool
  | .identifier _ => true
  | _ => false

end Node

end ModuleGraph.Source
