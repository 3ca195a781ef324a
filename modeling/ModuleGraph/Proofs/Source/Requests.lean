import ModuleGraph.Extractor
import ModuleGraph.Proofs.Source.Traversal
import ModuleGraph.Source.Program

/-!
# Requests with and without calls of `import`

Whether calls of `import` are wanted decides what a node asks for and not which nodes there are. So
without them exactly the other requests are found, wherever these stand, in the same order and as
often (`Source.Node.requests_false`), also those inside the calls that are not wanted
(`Source.Node.requests_importCall`). Whether a text is well formed does not depend on what is
wanted at all.
-/

namespace ModuleGraph

/-- Whether a request is made when its module is loaded, other than by a call of `import`. -/
def Specifier.isEager (specifier : Specifier) : Bool :=
  specifier.kind != .dynamic

namespace Source

namespace Node

/-- Without calls of `import` a node asks for what it asks for with them, unless it is one. -/
theorem asked?_false (node : Node) :
    node.asked? false = (node.asked? true).filter Specifier.isEager := by
  ext specifier
  rw [Option.filter_eq_some_iff, asked?_eq_some_iff, asked?_eq_some_iff]
  constructor
  · intro asks
    cases asks with
    | static value => exact ⟨.static value, rfl⟩
    | require => exact ⟨.require, rfl⟩
  · rintro ⟨asks, eager⟩
    cases asks with
    | static value => exact .static value
    | require => exact .require
    | dynamic => exact absurd eager Bool.false_ne_true

/-- Without calls of `import`, the requests of a program are its other requests. -/
theorem requests_false (program : Node) :
    requests false program = (requests true program).filter Specifier.isEager := by
  rw [requests_eq_preorder, requests_eq_preorder, List.filter_filterMap]
  congr 1
  funext node
  exact asked?_false node

/-- What is asked for inside a call of `import` is found there, whether the call is wanted or
not. -/
theorem requests_importCall (dynamic : Bool) (source : Node) (options : Option Node) :
    requests dynamic (.importCall source options) =
      (asked? dynamic (.importCall source options)).toList ++
        (source :: options.toList).flatMap (requests dynamic) :=
  requests_step dynamic (.importCall source options)

end Node

/-- A text is well formed or not whatever is wanted of it, and without calls of `import` its
requests are its other requests. -/
theorem Parser.requests_false [Parser] (path text : String) :
    requests false path text = (requests true path text).map (List.filter Specifier.isEager) := by
  unfold requests
  cases tree path text with
  | error complaint => rfl
  | ok program => exact congrArg Except.ok (Node.requests_false program)

end Source

namespace Extractor

open Source (Node)

/-- The same texts are refused with calls of `import` and without them, and without them the other
requests are found: all of them, in their order and as often. In both cases they include those that
are made inside a call of `import`, at any depth. -/
theorem extract_false [Source.Parser] (path text : String) :
    extract false path text = (extract true path text).map (List.filter Specifier.isEager) ∧
      ∀ (dynamic : Bool) (source : Node) (options : Option Node),
        (Node.requests dynamic (.importCall source options)).filter Specifier.isEager =
          (source :: options.toList).flatMap (Node.requests false) := by
  constructor
  · unfold extract
    rw [Source.Parser.requests_false]
    cases Source.Parser.requests true path text with
    | error complaint => rfl
    | ok specifiers => rfl
  · intro dynamic source options
    have inside : (Node.requests true (.importCall source options)).filter Specifier.isEager =
        (source :: options.toList).flatMap (Node.requests false) := by
      have silent : Node.asked? false (.importCall source options) = none := by
        cases source <;> rfl
      rw [← Node.requests_false, Node.requests_importCall, silent]
      rfl
    cases dynamic with
    | false => rw [Node.requests_false, List.filter_filter, ← inside]; simp
    | true => exact inside

example :
    (extract true "a.js" "import(require('./b'), import('./c'))").toOption =
        some [⟨"./b", .require⟩, ⟨"./c", .dynamic⟩] ∧
      (extract false "a.js" "import(require('./b'), import('./c'))").toOption =
        some [⟨"./b", .require⟩] := by
  decide +kernel

end Extractor

end ModuleGraph
