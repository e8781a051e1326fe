import QuerySemantics.Ast.Read
import QuerySemantics.Binding.Basic

/-!
# Results of binding

Binding a whole tree, or a node of one, against a catalog.

## Main definitions

* `BindingResult`: what binding found out, by node.
* `BindingResult.isSame`: whether two numbers are those of one node, as a result sees it.
* `BindingResult.boundNode?`, `BindingResult.scope?`: what a node was bound to, and which scope it
  enters.
* `SyntaxTree.bindAt`, `SyntaxTree.bind`: binding a node and a tree.
-/

set_option autoImplicit false

namespace QuerySemantics

open Binding

/-- **Result of binding**: the log of a pass, the node that it began with, and the nodes of the tree that
coincide. -/
structure BindingResult where
  root : NodeRef
  coincidences : List (Nat × Nat)
  rootScope : Scope
  records : List Record
  scopes : List (NodeInfo × Scope)
  diagnostics : List Diagnostic
  members : MemberCache
deriving Inhabited

namespace BindingResult

/-- **The same node**: a result keeps what it knows of a node under its offset and what the node consists
of, so that nodes which coincide are one. -/
def isSame (result : BindingResult) (index other : Nat) : Bool :=
  index == other || result.coincidences.contains (index, other)

/-- **Bound node** of the node with a number. A node that was bound twice has the later one. -/
def boundNode? (result : BindingResult) (index : Nat) : Option Bound.Node :=
  (result.records.find? (result.isSame ·.info.index index)).map (·.node)

/-- **Scope** that the node with a number enters. -/
def scope? (result : BindingResult) (index : Nat) : Option Scope :=
  (result.scopes.find? (result.isSame ·.1.index index)).map (·.2)

/-- The number of nodes that were bound. -/
def boundCount (result : BindingResult) : Nat :=
  ((result.records.map (·.info.index)).eraseDupsBy result.isSame).length

/-- Whether a node belongs to the tree that was bound, as a whole. -/
def contains (result : BindingResult) (node : NodeRef) : Bool :=
  node.tree == result.root.tree && result.root.index == 0

end BindingResult

namespace Binding

/-- Binding what a node is read as: the query or else the expression of a unit, a query, or an
expression. Anything else stays unbound. -/
def piece : Piece → BindM Unit
  | .unit ⟨_, some it, _⟩ | .query it => do
    let _ ← query it
  | .unit ⟨_, none, some it⟩ | .expr it => do
    let _ ← expr it
  | _ => return

/-- The pass over a node: the node enters the scope at hand, and is bound in it. -/
def pass (node : Located) : BindM Unit := do
  match node.info? with
  | some info => recordScope info
  | none => return
  piece node.piece

end Binding

/-- **Binding a node** of a tree. -/
def SyntaxTree.bindAt (tree : SyntaxTree) (node : Located) (options : Options)
    (catalog : Catalog) : Supply BindingResult := do
  let scope ← Scope.root catalog
  fun next =>
    let (_, done) := pass node ⟨options, scope⟩ (.start next)
    let root := (node.info?.map tree.ref).getD tree.rootRef
    (⟨root, tree.coincidences, scope, done.records, done.scopes, done.diagnostics, done.members⟩, done.next)

/-- **Binding a tree.** -/
def SyntaxTree.bind (tree : SyntaxTree) (options : Options) (catalog : Catalog) :
    Supply BindingResult :=
  tree.bindAt tree.root options catalog

end QuerySemantics
