import ModuleGraph.Source.Tree

/-!
# Assignment targets

What stands before an assignment sign is read as an expression first, since nobody knows better
until the sign comes. Then it has to be something that can be assigned to: a name, a member, or an
array or object of such, which becomes a pattern.
-/

namespace ModuleGraph.Source.Target

/-- An expression read again as a pattern. `settled` counts the shorthand members whose initial
value has found its place by that, and `faulty` says that the pattern is one of a forbidden
form. -/
structure Rereading (α : Type) where
  value : α
  settled : Nat
  faulty : Bool

/-- The expression within parentheses and type assertions. -/
def innermost : Node → Node
  | .group .parenthesized [inner] => innermost inner
  | .group .nonNull [inner] => innermost inner
  | .group .cast (inner :: _) => innermost inner
  | .group .instantiation (inner :: _) => innermost inner
  | .group .assertion [_, inner] => innermost inner
  | node => node

/-- Whether a node is a name or a member. -/
def isPlace (node : Node) : Bool :=
  node.isIdentifier || node.isForm .member

/-- Whether a single value can be assigned to an expression. Parentheses may stand around a name or
member but not around an array or object. -/
def isSimple : Node → Bool
  | .group .parenthesized [inner] =>
      !inner.isForm .array && !inner.isForm .object && isSimple inner
  | .group .nonNull parts => isPlace (innermost (.group .nonNull parts))
  | .group .cast parts => isPlace (innermost (.group .cast parts))
  | .group .assertion parts => isPlace (innermost (.group .assertion parts))
  | node => isPlace node

mutual

/-- An expression read again as a target. -/
def ofExpression? : Node → Option (Rereading Node)
  | .group .array parts => do
      let r ← elements? parts
      return { r with value := .group .arrayPattern r.value }
  | .group .object parts => do
      let r ← members? parts
      return { r with value := .group .objectPattern r.value }
  | node => if isSimple node then some ⟨node, 0, false⟩ else none

/-- An expression read again as a target that may have a value that stands in. -/
def element? : Node → Option (Rereading Node)
  | .group .assignment parts => some ⟨.group .withDefault parts, 0, false⟩
  | .group .compoundAssignment parts => some ⟨.group .withDefault parts, 0, true⟩
  | .group .array parts => do
      let r ← elements? parts
      return { r with value := .group .arrayPattern r.value }
  | .group .object parts => do
      let r ← members? parts
      return { r with value := .group .objectPattern r.value }
  | node => if isSimple node then some ⟨node, 0, false⟩ else none

/-- The elements of an array. Only the last one may take the rest, with no comma behind it. -/
def elements? : List Node → Option (Rereading (List Node))
  | [] => some ⟨[], 0, false⟩
  | [.group .trailingComma _] => some ⟨[], 0, false⟩
  | [.group .spread [inner]] => do
      let r ← ofExpression? inner
      return { r with value := [.group .rest [r.value]] }
  | [.group .spread [inner], .group .trailingComma _] => do
      let r ← ofExpression? inner
      return { r with value := [.group .rest [r.value]], faulty := true }
  | .group .spread _ :: _ => none
  | .group .hole parts :: rest => do
      let r ← elements? rest
      return { r with value := .group .hole parts :: r.value }
  | node :: rest => do
      let first ← element? node
      let r ← elements? rest
      return ⟨first.value :: r.value, first.settled + r.settled, first.faulty || r.faulty⟩

/-- The members of an object. Methods are no targets, and the rest is as in an array. -/
def members? : List Node → Option (Rereading (List Node))
  | [] => some ⟨[], 0, false⟩
  | [.group .trailingComma _] => some ⟨[], 0, false⟩
  | [.group .spread [inner]] => do
      let r ← ofExpression? inner
      return { r with value := [.group .rest [r.value]] }
  | [.group .spread [inner], .group .trailingComma _] => do
      let r ← ofExpression? inner
      return { r with value := [.group .rest [r.value]], faulty := true }
  | .shorthand name initial :: rest => do
      let r ← members? rest
      return ⟨.shorthand name initial :: r.value, r.settled + initial.toList.length, r.faulty⟩
  | .group .property [key, value] :: rest => do
      let first ← element? value
      let r ← members? rest
      return ⟨.group .patternProperty [key, first.value] :: r.value, first.settled + r.settled,
        first.faulty || r.faulty⟩
  | _ => none

end

end ModuleGraph.Source.Target
