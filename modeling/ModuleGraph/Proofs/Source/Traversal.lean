import Mathlib.Data.List.Basic
import ModuleGraph.Source.Requests

/-!
# Requests in preorder

What a program asks for is told here without the walk that collects it. The nodes of a tree are
listed in preorder, a node before all below it (`Source.Node.preorder`). They are all the nodes
that there are in the tree, whatever part of whatever form they are
(`Source.Node.mem_preorder_iff`). Each node asks for one module or for none, whatever is below it
(`Source.Node.asked?`), and only three forms ask for any (`Source.Node.Asks`).

The walk notes what the nodes in preorder ask for (`Source.Node.collect_eq_preorder`). One step of
it notes what its node asks for and then goes through the children, one of them after the other, at
every kind of node alike (`Source.Node.collect_step`).
-/

namespace ModuleGraph.Source.Node

/-! ## The nodes of a tree -/

/-- A node is directly below another one: it is one of its parts. -/
inductive Holds : Node → Node → Prop
  | callee {callee : Node} {typeArguments arguments : List Node} :
      Holds (.call callee typeArguments arguments) callee
  | typeArgument {callee type : Node} {typeArguments arguments : List Node}
      (listed : type ∈ typeArguments) : Holds (.call callee typeArguments arguments) type
  | argument {callee argument : Node} {typeArguments arguments : List Node}
      (listed : argument ∈ arguments) : Holds (.call callee typeArguments arguments) argument
  | source {source : Node} {options : Option Node} : Holds (.importCall source options) source
  | options {source options : Node} : Holds (.importCall source (some options)) options
  | initial {name : String} {initial : Node} : Holds (.shorthand name (some initial)) initial
  | part {form : Form} {part : Node} {parts : List Node} (listed : part ∈ parts) :
      Holds (.group form parts) part

/-- The children of a node are all of its parts. -/
theorem mem_children_iff {node child : Node} : child ∈ node.children ↔ node.Holds child := by
  constructor
  · intro listed
    cases node with
    | identifier name => cases listed
    | string value => cases listed
    | importDeclaration typeOnly names source => cases listed
    | call callee typeArguments arguments =>
        rcases List.mem_cons.mp listed with rfl | behind
        · exact .callee
        · rcases List.mem_append.mp behind with type | argument
          · exact .typeArgument type
          · exact .argument argument
    | importCall source options =>
        rcases List.mem_cons.mp listed with rfl | behind
        · exact .source
        · obtain rfl := Option.mem_toList.mp behind
          exact .options
    | shorthand name initial =>
        obtain rfl := Option.mem_toList.mp listed
        exact .initial
    | group form parts => exact .part listed
  · intro holds
    cases holds with
    | callee => simp [children]
    | typeArgument listed => simp [children, listed]
    | argument listed => simp [children, listed]
    | source => simp [children]
    | options => simp [children]
    | initial => simp [children]
    | part listed => exact listed

/-- A part of a node is smaller than the node. -/
theorem Holds.sizeOf_lt {node child : Node} (h : node.Holds child) :
    sizeOf child < sizeOf node := by
  cases h with
  | callee => simp +arith
  | typeArgument listed =>
      have smaller := List.sizeOf_lt_of_mem listed
      rw [call.sizeOf_spec]
      omega
  | argument listed =>
      have smaller := List.sizeOf_lt_of_mem listed
      rw [call.sizeOf_spec]
      omega
  | source => simp +arith
  | options => simp +arith
  | initial => simp +arith
  | part listed =>
      have smaller := List.sizeOf_lt_of_mem listed
      rw [group.sizeOf_spec]
      omega

/-- The nodes of a tree, each of them before those below it and these in the order of the walk. -/
def preorder (node : Node) : List Node :=
  node :: node.children.attach.flatMap fun child => preorder child.1
termination_by sizeOf node
decreasing_by exact (mem_children_iff.mp child.2).sizeOf_lt

theorem preorder_eq (node : Node) : node.preorder = node :: node.children.flatMap preorder := by
  rw [preorder, List.flatMap_subtype fun _ _ => rfl, List.unattach_attach]

/-- A node is in a tree: it is the root, or it is in the tree below a part of the root. -/
inductive Within (node : Node) : Node → Prop
  | root : Within node node
  | deeper {tree part : Node} (holds : tree.Holds part) (inside : Within node part) :
      Within node tree

/-- The preorder of a tree has all of its nodes, and no others. -/
theorem mem_preorder_iff {node tree : Node} : node ∈ tree.preorder ↔ node.Within tree := by
  constructor
  · intro present
    induction tree using preorder.induct with
    | case1 tree ih =>
        rw [preorder_eq] at present
        rcases List.mem_cons.mp present with rfl | below
        · exact .root
        · obtain ⟨child, listed, inside⟩ := List.mem_flatMap.mp below
          exact .deeper (mem_children_iff.mp listed) (ih ⟨child, listed⟩ inside)
  · intro within
    induction within with
    | root =>
        rw [preorder_eq]
        exact List.mem_cons_self
    | deeper holds inside ih =>
        rw [preorder_eq]
        apply List.mem_cons_of_mem
        exact List.mem_flatMap.mpr ⟨_, mem_children_iff.mpr holds, ih⟩

/-! ## What a node asks for -/

/-- The request that a node makes, whatever the nodes below it ask for. -/
def asked? (dynamic : Bool) : Node → Option Specifier
  | .call callee _ arguments =>
      match callee, arguments with
      | .identifier name, [.string request] =>
          if name = requireName then some ⟨request, .require⟩ else none
      | _, _ => none
  | .importCall source _ =>
      match source with
      | .string request => if dynamic then some ⟨request, .dynamic⟩ else none
      | _ => none
  | .importDeclaration typeOnly names source =>
      if !typeOnly && importsValue names then some ⟨source, .static⟩ else none
  | _ => none

/-- The forms that ask for a module. -/
inductive Asks : Bool → Node → Specifier → Prop
  /-- An import declaration for values that has no clause, an empty one, or takes the default
  export, all of the module, or a name that is no type. -/
  | static {dynamic : Bool} {names : Option (List ImportedName)} {source : String}
      (value : names = none ∨ names = some [] ∨
        ∃ taken ∈ names.getD [], taken = .default ∨ taken = .all ∨ taken = .named false) :
      Asks dynamic (.importDeclaration false names source) ⟨source, .static⟩
  /-- A call of the very identifier `require` with one string and nothing else. -/
  | require {dynamic : Bool} {typeArguments : List Node} {request : String} :
      Asks dynamic (.call (.identifier "require") typeArguments [.string request])
        ⟨request, .require⟩
  /-- A call of `import` with a string, where these calls are wanted. -/
  | dynamic {options : Option Node} {request : String} :
      Asks true (.importCall (.string request) options) ⟨request, .dynamic⟩

theorem importsValue_iff {names : Option (List ImportedName)} :
    importsValue names = true ↔ names = none ∨ names = some [] ∨
      ∃ taken ∈ names.getD [], taken = .default ∨ taken = .all ∨ taken = .named false := by
  have value_iff (taken : ImportedName) :
      (taken != .named true) = true ↔
        taken = .default ∨ taken = .all ∨ taken = .named false := by
    cases taken with
    | default => decide
    | all => decide
    | named typeOnly => cases typeOnly <;> decide
  cases names with
  | none => simp [importsValue]
  | some names =>
      cases names with
      | nil => simp [importsValue]
      | cons first rest => simp [importsValue, ← value_iff]

theorem asked?_eq_some_iff {dynamic : Bool} {node : Node} {specifier : Specifier} :
    node.asked? dynamic = some specifier ↔ node.Asks dynamic specifier := by
  constructor
  · intro asked
    cases node with
    | identifier name => cases asked
    | string value => cases asked
    | shorthand name initial => cases asked
    | group form parts => cases asked
    | call callee typeArguments arguments =>
        simp only [asked?] at asked
        split at asked
        · next name request =>
          obtain ⟨rfl, rfl⟩ : name = requireName ∧ ⟨request, .require⟩ = specifier := by
            simpa using asked
          exact .require
        · cases asked
    | importCall source options =>
        simp only [asked?] at asked
        split at asked
        · next request =>
          obtain ⟨rfl, rfl⟩ : dynamic = true ∧ ⟨request, .dynamic⟩ = specifier := by
            simpa using asked
          exact .dynamic
        · cases asked
    | importDeclaration typeOnly names source =>
        obtain ⟨⟨rfl, value⟩, rfl⟩ :
            (typeOnly = false ∧ importsValue names = true) ∧ ⟨source, .static⟩ = specifier := by
          simpa [asked?] using asked
        exact .static (importsValue_iff.mp value)
  · intro asks
    cases asks with
    | static value => simp [asked?, importsValue_iff.mpr value]
    | require => rfl
    | dynamic => rfl

/-! ## The walk -/

variable {dynamic : Bool}

theorem collectAll_eq_foldr (nodes : List Node) (following : List Specifier) :
    collectAll dynamic nodes following = nodes.foldr (collect dynamic) following := by
  induction nodes with
  | nil => rfl
  | cons node nodes ih => rw [collectAll, List.foldr_cons, ih]

theorem collectOption_eq_foldr (node : Option Node) (following : List Specifier) :
    collectOption dynamic node following = node.toList.foldr (collect dynamic) following := by
  cases node with
  | none => rfl
  | some node => rfl

/-- At every node the walk notes what the node asks for, and then it goes through the children. -/
theorem collect_step (node : Node) (following : List Specifier) :
    collect dynamic node following =
      (node.asked? dynamic).toList ++ node.children.foldr (collect dynamic) following := by
  cases node with
  | identifier name => rfl
  | string value => rfl
  | call callee typeArguments arguments =>
      simp only [collect, asked?, children, List.foldr_cons, List.foldr_append,
        collectAll_eq_foldr]
      split
      · next name request =>
        by_cases named : name = requireName
        · simp only [if_pos named]
          rfl
        · simp only [if_neg named]
          rfl
      · simp
  | importCall source options =>
      simp only [collect, asked?, children, List.foldr_cons, collectOption_eq_foldr]
      split
      · split
        · rfl
        · rfl
      · simp
  | importDeclaration typeOnly names source =>
      simp only [collect, asked?, children, List.foldr_nil]
      split
      · rfl
      · rfl
  | shorthand name initial => exact collectOption_eq_foldr initial following
  | group form parts => exact collectAll_eq_foldr parts following

/-- The walk over a tree notes what the nodes of the tree ask for, in preorder. -/
theorem collect_eq_preorder (node : Node) (following : List Specifier) :
    collect dynamic node following = node.preorder.filterMap (asked? dynamic) ++ following := by
  induction node using preorder.induct generalizing following with
  | case1 node ih =>
      -- The children are walked from the last one, as the list of requests is built from its end.
      have children_walked : node.children.foldr (collect dynamic) following =
          (node.children.flatMap preorder).filterMap (asked? dynamic) ++ following := by
        rw [List.filterMap_flatMap, List.flatMap_def, ← List.foldr_append_eq_append]
        apply List.foldr_ext
        intro child listed following
        exact ih ⟨child, listed⟩ following
      rw [collect_step, children_walked, preorder_eq, List.filterMap_cons]
      cases node.asked? dynamic with
      | none => rfl
      | some specifier => rfl

theorem requests_eq_preorder (dynamic : Bool) (tree : Node) :
    tree.requests dynamic = tree.preorder.filterMap (asked? dynamic) := by
  rw [requests, collect_eq_preorder, List.append_nil]

/-- A tree asks for what its root asks for, and then for what the trees below it ask for. -/
theorem requests_step (dynamic : Bool) (tree : Node) :
    tree.requests dynamic =
      (tree.asked? dynamic).toList ++ tree.children.flatMap (requests dynamic) := by
  have below : tree.children.flatMap (requests dynamic) =
      (tree.children.flatMap preorder).filterMap (asked? dynamic) := by
    rw [List.filterMap_flatMap]
    congr 1
    funext child
    exact requests_eq_preorder dynamic child
  rw [requests_eq_preorder, preorder_eq, below, List.filterMap_cons]
  cases tree.asked? dynamic with
  | none => rfl
  | some specifier => rfl

/-- A program asks for what its nodes ask for, in preorder. None of them is passed over, and a node
asks for a module exactly if it has one of the forms that do. -/
theorem requests_exact (dynamic : Bool) (tree : Node) :
    tree.requests dynamic = tree.preorder.filterMap (asked? dynamic) ∧
      (∀ node : Node, node ∈ tree.preorder ↔ node.Within tree) ∧
      ∀ (node : Node) (specifier : Specifier),
        node.asked? dynamic = some specifier ↔ node.Asks dynamic specifier := by
  refine ⟨requests_eq_preorder dynamic tree, ?_, ?_⟩
  · intro node
    exact mem_preorder_iff
  · intro node specifier
    exact asked?_eq_some_iff

end ModuleGraph.Source.Node
