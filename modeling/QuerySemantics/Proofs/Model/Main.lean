import QuerySemantics.Proofs.Model.Coverage

/-!
# The main node

Binding a tree is binding the query or the expression that it is read as, in the scope of the catalog.
The query is recorded last, so that the model knows the whole tree by it.

## Main definitions

* `Binding.Env.root`, `Binding.Pass.begun`: what binding a tree begins with.

## Main results

* `SyntaxTree.bind_eq`: binding a tree is binding what its root is read as.
* `SemanticModel.main?_eq_query`: the main bound node of a query.
-/

set_option autoImplicit false

namespace QuerySemantics

namespace Binding

/-- **The surroundings** in which a tree is bound: the scope of the catalog alone. -/
def Env.root (options : Options) (catalog : Catalog) (next : SymbolId) : Env :=
  ⟨options, ⟨next, catalog, []⟩⟩

/-- **The state** in which binding what a root is read as begins: the root has entered the scope of the
catalog. -/
def Pass.begun (info : NodeInfo) (catalog : Catalog) (next : SymbolId) : Pass :=
  { Pass.start (next + 1) with scopes := [(info, ⟨next, catalog, []⟩)] }

/-- A sequence ends as its last part does, whatever the first part did. -/
theorem Ends.behind {α β : Type} {env : Env} {pass : Pass} {body : BindM α} {rest : α → BindM β}
    {post : β → Pass → Prop} (h : ∀ value pass', Ends env pass' (rest value) post) :
    Ends env pass (body >>= rest) post :=
  h _ _

/-- A query is recorded last where it is recorded. -/
theorem recordQuery_ends (info : NodeInfo) (it : Bound.Query) (inner : Scope) (env : Env)
    (pass : Pass) : Ends env pass (recordQuery info it inner) fun value after =>
      ∃ scope, after.records.head? = some ⟨info, .query value.query, scope⟩ :=
  ⟨env.scope, rfl⟩

/-- **A query is recorded last**, unless it is a nest of parentheses with nothing inside. -/
theorem query_ends : ∀ (it : Ast.Query) {env : Env} {pass : Pass},
    (∀ info, it.core ≠ .parenthesized info none) → Ends env pass (query it) fun value after =>
      ∃ scope, after.records.head? = some ⟨it.core.info, .query value.query, scope⟩
  | .parenthesized info (some inner), env, pass, h => by
    rw [query, optionalQuery]
    exact .behind fun _ pass' => (query_ends inner h).bind fun _ _ hlast => .pure hlast
  | .parenthesized info none, _, _, h => absurd rfl (h info)
  | .select info head source filter grouping having, env, pass, _ => by
    rw [query]
    exact .behind fun _ _ => .behind fun _ _ => .behind fun _ _ => .behind fun _ _ =>
      recordQuery_ends _ _ _ _ _
  | .combined info left operator right, env, pass, _ => by
    rw [query]
    exact .behind fun _ _ => .behind fun _ _ => .behind fun _ _ => .behind fun _ _ =>
      recordQuery_ends _ _ _ _ _
  | .ordered info input items, env, pass, _ => by
    rw [query]
    exact .behind fun _ _ => .behind fun _ _ => .behind fun _ _ => .behind fun _ _ =>
      recordQuery_ends _ _ _ _ _
  | .withTables info tables body, env, pass, _ => by
    rw [query]
    exact .behind fun _ _ => .behind fun _ _ => .behind fun _ _ => .behind fun _ _ =>
      recordQuery_ends _ _ _ _ _

end Binding

open Binding

/-- **Binding a tree** is binding what its root is read as. -/
theorem SyntaxTree.bind_eq {tree : SyntaxTree} {info : NodeInfo} (h : tree.root.info? = some info)
    (options : Options) (catalog : Catalog) (next : SymbolId) :
    tree.bind options catalog next =
      let done := (Binding.piece tree.root.piece (.root options catalog next)
        (.begun info catalog next)).2
      (⟨tree.ref info, tree.coincidences, ⟨next, catalog, []⟩, done.records, done.scopes,
        done.diagnostics, done.members⟩, done.next) := by
  have hpass : Binding.pass tree.root =
      (recordScope info >>= fun _ => Binding.piece tree.root.piece) := by
    unfold Binding.pass
    rw [h]
  change (BindingResult.mk ((tree.root.info?.map tree.ref).getD tree.rootRef) _ _
    (Binding.pass tree.root (.root options catalog next) (.start (next + 1))).2.records _ _ _, _) = _
  rw [hpass, h]
  rfl

/-- A node is known by its last record. -/
theorem BindingResult.boundNode?_of_head? {result : BindingResult} {info : NodeInfo}
    {node : Bound.Node} {scope : Scope} (h : result.records.head? = some ⟨info, node, scope⟩) :
    result.boundNode? info.index = some node := by
  obtain ⟨rest, hrecords⟩ := List.head?_eq_some_iff.1 h
  simp [boundNode?, hrecords, isSame]

namespace SemanticModel

variable {analysis : Analysis} {info : NodeInfo} {it : Ast.Query} {expression : Option Ast.Expr}

/-- A unit with a query is bound as this query. -/
theorem bind_unit (hroot : analysis.tree.root.piece = .unit ⟨info, some it, expression⟩)
    (next : SymbolId) :
    let done := (query it (.root analysis.options analysis.catalog next)
      (.begun info analysis.catalog next)).2
    (analysis.model next).1.result = ⟨analysis.tree.ref info, analysis.tree.coincidences,
      ⟨next, analysis.catalog, []⟩, done.records, done.scopes, done.diagnostics, done.members⟩ := by
  have hinfo : analysis.tree.root.info? = some info := by
    rw [← Located.info?_piece, hroot]
    rfl
  change (analysis.tree.bind analysis.options analysis.catalog next).1 = _
  rw [SyntaxTree.bind_eq hinfo, hroot]
  rfl

/-- **The main bound node** of a unit is what its query was bound to. -/
theorem main?_eq_query (hroot : analysis.tree.root.piece = .unit ⟨info, some it, expression⟩)
    (hcore : ∀ info, it.core ≠ .parenthesized info none) (next : SymbolId) :
    (analysis.model next).1.main? = some (.query (query it
      (.root analysis.options analysis.catalog next) (.begun info analysis.catalog next)).1.query) := by
  have hpart : Piece.query it ∈ analysis.tree.root.piece.parts := by
    simp [hroot, Piece.parts, Piece.ofQuery?]
  obtain ⟨child, hchild, hpiece⟩ := Located.exists_child_of_mem_parts hpart
  have hinfo : child.info? = some it.info := by
    rw [← child.info?_piece, hpiece]
    rfl
  have hnode : child ∈ analysis.tree.root.nodes :=
    Located.mem_nodes_of_child hchild (Located.mem_nodes_self hinfo)
  have hmain : mainNode analysis.tree = analysis.tree.ref it.info := by
    unfold mainNode
    rw [hroot]
  have hcoreInfo : child.coreInfo it.info = it.core.info := by
    unfold Located.coreInfo
    rw [hpiece]
  change (analysis.model next).1.boundNode? (mainNode analysis.tree) = _
  rw [hmain, boundNode?_ref hnode hinfo, hcoreInfo]
  change (analysis.model next).1.result.boundNode? _ = _
  rw [bind_unit hroot]
  obtain ⟨scope, hlast⟩ := query_ends it hcore
  exact BindingResult.boundNode?_of_head? hlast

end SemanticModel

end QuerySemantics
