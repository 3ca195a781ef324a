/-!
# Tokens

The words and marks of a JavaScript or TypeScript text. Two decisions shape the type. Reserved
words are not tokens of their own: whether `get` or `type` or `of` is a name depends on where it
stands, so the grammar asks for the spelling. And a token keeps no more than the grammar needs: a
number has no value and a piece of a template no text, since neither can name a module.
-/

namespace ModuleGraph.Source

/-- The marks that stand between two operands. The closing angle bracket is read alone and joined
to its neighbours only where an operator is expected, because it also closes a list of type
arguments. -/
inductive Operator where
  | less | lessEqual | greater | greaterEqual
  | equal | notEqual | identical | notIdentical
  | shiftLeft | shiftRight | shiftRightZero
  | plus | minus | star | slash | percent | power
  | bitAnd | bitOr | bitXor
  | logicalAnd | logicalOr | coalesce
  deriving DecidableEq, Repr

/-- Punctuation. `assign none` is the plain assignment and `assign (some op)` the one that applies
`op` first. -/
inductive Mark where
  | braceOpen | braceClose | parenOpen | parenClose | bracketOpen | bracketClose
  | semicolon | comma | colon | dot | ellipsis | question | optionalDot | arrow | atSign
  | bang | tilde | increment | decrement
  | operator (op : Operator)
  | assign (op : Option Operator)
  deriving DecidableEq, Repr

/-- One token. A piece of a template is `valid` when its escapes are, and a string carries its
value with the escapes decoded. `stray` is a place where no token starts, and `finish` the end of
the text. -/
inductive Token where
  | word (spelling : String) (escaped : Bool)
  | privateName (spelling : String)
  | string (value : String)
  | number
  | templateWhole (valid : Bool)
  | templateHead (valid : Bool)
  | templateMiddle (valid : Bool)
  | templateTail (valid : Bool)
  | markupText
  | mark (m : Mark)
  | stray
  | finish
  deriving DecidableEq, Repr

namespace Token

/-- The words that are never plain names. -/
def reservedWords : List String :=
  ["await", "break", "case", "catch", "class", "const", "continue", "debugger", "default", "delete",
    "do", "else", "enum", "export", "extends", "false", "finally", "for", "function", "if",
    "import", "in", "instanceof", "new", "null", "return", "super", "switch", "this", "throw",
    "true", "try", "typeof", "var", "void", "while", "with", "yield"]

/-- The further words that a module may not export under their own name. -/
def futureReservedWords : List String :=
  ["let", "static", "implements", "interface", "package", "private", "protected", "public"]

/-- The words that mean something in some places and are names in all others. -/
def contextualWords : List String :=
  ["abstract", "accessor", "any", "as", "assert", "asserts", "async", "bigint", "boolean",
    "constructor", "declare", "defer", "from", "get", "global", "implements", "infer", "interface",
    "intrinsic", "is", "keyof", "let", "meta", "module", "namespace", "never", "number", "object",
    "of", "out", "override", "package", "private", "protected", "public", "readonly", "require",
    "satisfies", "set", "source", "static", "string", "symbol", "target", "type", "undefined",
    "unique", "unknown", "using"]

/-- Whether the spelling has a meaning anywhere in the grammar. -/
def isKeyword (spelling : String) : Bool :=
  reservedWords.contains spelling || contextualWords.contains spelling

/-- The words that may stand in front of a declaration, a class member or a parameter. -/
def modifierWords : List String :=
  ["abstract", "accessor", "async", "const", "declare", "default", "export", "in", "out",
    "override", "private", "protected", "public", "readonly", "static"]

/-- Whether the token is the given mark. -/
def isMark (token : Token) (m : Mark) : Bool :=
  match token with
  | .mark m' => m' == m
  | _ => false

/-- Whether the token is the given word, spelled with or without escapes. -/
def isWord (token : Token) (spelling : String) : Bool :=
  match token with
  | .word s _ => s == spelling
  | _ => false

/-- Whether the token is a word of the list. -/
def isWordOf (token : Token) (spellings : List String) : Bool :=
  match token with
  | .word s _ => spellings.contains s
  | _ => false

/-- Whether the token is any word at all, reserved or not. -/
def isAnyWord : Token → Bool
  | .word .. => true
  | _ => false

/-- Whether the token is a word that is not reserved. -/
def isName : Token → Bool
  | .word s _ => !reservedWords.contains s
  | _ => false

/-- Whether a binding may be called by the token. `yield` and `await` are let through, and refused
afterwards where they have their meaning. -/
def isBindingName : Token → Bool
  | .word s _ => !reservedWords.contains s || s == "yield" || s == "await"
  | _ => false

/-- Whether the token starts a template. -/
def isTemplateStart : Token → Bool
  | .templateWhole _ | .templateHead _ => true
  | _ => false

/-- Whether the token is a literal of one token other than a template. -/
def isLiteral : Token → Bool
  | .string _ | .number => true
  | .word s _ => s == "null" || s == "true" || s == "false"
  | _ => false

/-- Whether the token can be the key of a member, brackets and private names aside. -/
def isLiteralKey : Token → Bool
  | .word .. | .string _ | .number => true
  | _ => false

/-- Whether the token is a word that may stand in front of a declaration. -/
def isModifier (token : Token) : Bool :=
  token.isWordOf modifierWords

/-- Whether the token is an operator of one operand that stands before it. -/
def isUnaryOperator : Token → Bool
  | .mark .bang | .mark .tilde | .mark (.operator .plus) | .mark (.operator .minus) => true
  | .word s _ => s == "typeof" || s == "void" || s == "delete"
  | _ => false

/-- Whether the token is `++` or `--`. -/
def isUpdate : Token → Bool
  | .mark .increment | .mark .decrement => true
  | _ => false

end Token

end ModuleGraph.Source
