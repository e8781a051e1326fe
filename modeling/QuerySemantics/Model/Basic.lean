import QuerySemantics.Binding.Result

/-!
# Semantic models

An analysis is a tree, a catalog and options. Its semantic model answers questions about the query:
what a node was bound to, what it refers to, which type it has, what it declares. Every question has
an answer; for a node that was not bound, or that belongs to another tree, the answer is `none`.

## Main definitions

* `Analysis`, `Analysis.withTree` and its fellows: what is analysed, and replacing a part of it.
* `SemanticModel`, `Analysis.model`: the model of an analysis.
* `SemanticModel.boundNode?`, `SemanticModel.symbol?`, `SemanticModel.type?`,
  `SemanticModel.conversion?`, `SemanticModel.declared?`: questions about a node.
* `SemanticModel.lookupMethods`, `SemanticModel.lookupProperties`: the members of a type.
-/

set_option autoImplicit false

namespace QuerySemantics

/-! ## Analyses -/

/-- **Analysis**: a tree to be bound against a catalog. -/
structure Analysis where
  tree : SyntaxTree
  catalog : Catalog
  options : Binding.Options := {}
deriving Inhabited

namespace Analysis

/-- The analysis of an empty query against an empty catalog. -/
def empty : Supply Analysis := do
  let id ← Supply.fresh
  return ⟨.empty id, ← Catalog.empty, {}⟩

/-- The analysis of another tree. -/
def withTree (analysis : Analysis) (tree : SyntaxTree) : Analysis :=
  { analysis with tree }

/-- The analysis against another catalog. -/
def withCatalog (analysis : Analysis) (catalog : Catalog) : Analysis :=
  { analysis with catalog }

/-- The analysis with other options. -/
def withOptions (analysis : Analysis) (options : Binding.Options) : Analysis :=
  { analysis with options }

end Analysis

/-! ## Models -/

/-- **Semantic model**: an analysis, the result of binding it, and the members that were asked for
while binding or since. -/
structure SemanticModel where
  analysis : Analysis
  result : BindingResult
  members : MemberCache
deriving Inhabited

/-- **Model of an analysis.** Each model binds the tree anew. -/
def Analysis.model (analysis : Analysis) : Supply SemanticModel := do
  let result ← analysis.tree.bind analysis.options analysis.catalog
  return ⟨analysis, result, result.members⟩

namespace SemanticModel

/-- The diagnostics in the order in which they were reported. -/
def diagnostics (model : SemanticModel) : List Diagnostic :=
  model.result.diagnostics

/-! ## Questions about nodes -/

/-- **Bound node** of a node. Parentheses are looked through. -/
def boundNode? (model : SemanticModel) (node : NodeRef) : Option Bound.Node :=
  if model.result.contains node then do
    let part ← model.analysis.tree.node? node.index
    let info ← part.info?
    model.result.boundNode? (part.coreInfo info).index
  else none

/-- The node that a whole tree is about: the query or else the expression of a unit, and any other
root itself. -/
def mainNode (tree : SyntaxTree) : NodeRef :=
  match tree.root.piece with
  | .unit it =>
    match it.query, it.expression with
    | some query, _ => tree.ref query.info
    | none, some expr => tree.ref expr.info
    | none, none => tree.rootRef
  | _ => tree.rootRef

/-- **Main bound node**: what the query, or else the expression, of the whole tree was bound to. -/
def main? (model : SemanticModel) : Option Bound.Node :=
  model.boundNode? (mainNode model.analysis.tree)

/-- The bound expression of a node. -/
def boundExpr? (model : SemanticModel) (node : NodeRef) : Option Bound.Expr :=
  (model.boundNode? node).bind Bound.Node.expr?

/-- **Symbol** that an expression refers to; for a name that did not resolve, its bad symbol. -/
def symbol? (model : SemanticModel) (node : NodeRef) : Option Symbol :=
  (model.boundExpr? node).bind Bound.Expr.symbol?

/-- **Type** of an expression. -/
def type? (model : SemanticModel) (node : NodeRef) : Option SqlType :=
  (model.boundExpr? node).map Bound.Expr.type

/-- **Conversion** that a `CAST` performs. -/
def conversion? (model : SemanticModel) (node : NodeRef) : Option Conversion :=
  (model.boundExpr? node).bind Bound.Expr.conversion?

/-- **Declared symbol** of a node. -/
def declared? (model : SemanticModel) (node : NodeRef) : Option Symbol :=
  (model.boundNode? node).bind Bound.Node.declared?

/-! ## Members -/

/-- **Methods** of a type. -/
def lookupMethods (model : SemanticModel) (type : SqlType) :
    Supply (List Method × SemanticModel) := do
  let (found, members) ← model.members.askMethods model.analysis.catalog.methods type
  return (found, { model with members })

/-- **Properties** of a type. -/
def lookupProperties (model : SemanticModel) (type : SqlType) :
    Supply (List Property × SemanticModel) := do
  let (found, members) ← model.members.askProperties model.analysis.catalog.properties type
  return (found, { model with members })

end SemanticModel

end QuerySemantics
