import QuerySemantics.Tree.Located

/-!
# Syntax trees

A syntax tree has an identity: two trees that were built apart are different trees, even if they
read alike. A node is referred to by its tree and its number in it. But what is known of a node is kept
under its offset and what it consists of, so nodes without text may be one and the same there.

## Main definitions

* `SyntaxTree`, `SyntaxTree.root`, `SyntaxTree.text`: a tree, its located form and its text.
* `SyntaxTree.empty`: the tree of an empty query.
* `NodeRef`: a reference to a node.
* `SyntaxTree.coincidences`: the nodes that cannot be told apart.
-/

set_option autoImplicit false

namespace QuerySemantics

/-- **Syntax tree**: its identity and its root element. -/
structure SyntaxTree where
  id : Nat
  element : Element
deriving Inhabited

namespace SyntaxTree

/-- The tree of an empty query. -/
def empty (id : Nat) : SyntaxTree :=
  ⟨id, .node .compilationUnit []⟩

/-- The tree with positions. -/
def root (tree : SyntaxTree) : Located :=
  (tree.element.locate 0 0).1

/-- The query text that the tree was built from. -/
def text (tree : SyntaxTree) : String :=
  tree.element.text

/-- Whether the tree reads like that of an empty query. -/
def isEmpty (tree : SyntaxTree) : Bool :=
  match tree.element with
  | .node .compilationUnit [] => true
  | _ => false

end SyntaxTree

/-- **Node reference**: a node's tree and its number in preorder. -/
structure NodeRef where
  tree : Nat
  index : Nat
deriving DecidableEq, Repr, Inhabited

namespace SyntaxTree

/-- The reference to a node of the tree. -/
def ref (tree : SyntaxTree) (info : NodeInfo) : NodeRef :=
  ⟨tree.id, info.index⟩

/-- The reference to the root. -/
def rootRef (tree : SyntaxTree) : NodeRef :=
  ⟨tree.id, 0⟩

/-- Whether a node belongs to the tree. -/
def contains (tree : SyntaxTree) (node : NodeRef) : Bool :=
  node.tree == tree.id

/-- The information on every node of the tree, in preorder. -/
def infos (tree : SyntaxTree) : List NodeInfo :=
  tree.root.nodes.filterMap Located.info?

/-- The node of the tree with a given number. -/
def node? (tree : SyntaxTree) (index : Nat) : Option Located :=
  tree.root.nodes[index]?

/-- **Coincidences**: the pairs of numbers of different nodes that coincide. Nodes with text never do: of
two of them at one offset the one is part of the other. -/
def coincidences (tree : SyntaxTree) : List (Nat × Nat) :=
  let textless := tree.root.nodes.zipIdx.filter fun entry => entry.1.start == entry.1.stop
  textless.flatMap fun entry =>
    (textless.filter fun other => entry.2 != other.2 && entry.1.coincides other.1).map fun other =>
      (entry.2, other.2)

end SyntaxTree

end QuerySemantics
