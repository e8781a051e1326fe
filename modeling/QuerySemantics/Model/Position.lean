import QuerySemantics.Model.Basic

/-!
# Questions about positions

What an editor asks about a place in the text: which symbols a name there could refer to, and what
the name under the cursor refers to.

## Main definitions

* `SemanticModel.scopeAt`, `SemanticModel.lookupSymbols`: the scope at a position, and all that is
  visible there.
* `SemanticModel.symbolAt`: the symbol that the identifier at a position names.
* `positionRanges`: the ranges of positions at which a question has one answer.
-/

set_option autoImplicit false

namespace QuerySemantics

namespace SemanticModel

/-! ## Visible symbols -/

/-- **Scope at a position**: that of the innermost node around it, below the root, that enters one.
Elsewhere it is the scope that offers the catalog alone. -/
def scopeAt (model : SemanticModel) (position : Nat) : Scope :=
  let entered (info : NodeInfo) : Bool := (model.result.scope? info.index).isSome
  let found := model.analysis.tree.root.innermost entered position
  (found.bind fun info => model.result.scope? info.index).getD model.result.rootScope

/-- A symbol, and behind a table instance its columns. -/
def withColumns : Symbol → List Symbol
  | .tableInstance it => .tableInstance it :: it.columnSymbols
  | other => [other]

/-- **Visible symbols** at a position, nearest first. -/
def lookupSymbols (model : SemanticModel) (position : Nat) : List Symbol :=
  (model.scopeAt position).visible.flatMap withColumns

/-! ## The symbol under the cursor -/

/-- **Identifier at a position**: the first that begins, ends or goes on there, with the nodes around
it from the inside out. -/
def identifierAt (model : SemanticModel) (position : Nat) : Option (Token × List Located) :=
  (model.analysis.tree.root.touching position []).find? (·.1.kind == .identifier)

/-- The node that an identifier belongs to: the nearest one around it that was bound. -/
def owner? (model : SemanticModel) (around : List Located) : Option Located :=
  around.find? fun part =>
    (part.info?.bind fun info => model.result.boundNode? info.index).isSome

/-- The table symbol of a table reference whose own name is the identifier, rather than its alias. -/
def tableNamedBy (part : Located) (identifier : Token) (node : Bound.Node) : Option Symbol :=
  match part.piece, node with
  | .table (.named _ (some leaf) _), .table (.named it) =>
    if leaf = identifier then some it.source.symbol else none
  | _, _ => none

/-- **Symbol at a position**: what the identifier there refers to, or else what the node that it
belongs to declares. The name of a table shows the table and its alias the instance. -/
def symbolAt (model : SemanticModel) (position : Nat) : Option Symbol := do
  let (identifier, around) ← model.identifierAt position
  let part ← model.owner? around
  let info ← part.info?
  let node ← model.result.boundNode? info.index
  ((tableNamedBy part identifier node).or (node.expr?.bind Bound.Expr.symbol?)).or node.declared?

end SemanticModel

/-! ## Ranges of positions -/

/-- Puts a position and its answer in front of the ranges that begin behind it. -/
def extendRanges {α : Type} [BEq α] (position : Nat) (answer : α) :
    List (Nat × Nat × α) → List (Nat × Nat × α)
  | [] => [(position, position + 1, answer)]
  | (start, stop, next) :: rest =>
    if answer == next then (position, stop, next) :: rest
    else (position, position + 1, answer) :: (start, stop, next) :: rest

/-- **Ranges** of the positions below `count` at which a question has one answer: where a range
starts, where it stops, and the answer. -/
def positionRanges {α : Type} [BEq α] (answer : Nat → α) (count : Nat) : List (Nat × Nat × α) :=
  (List.range count).foldr (fun position => extendRanges position (answer position)) []

end QuerySemantics
