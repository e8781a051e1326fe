import QuerySemantics.Proofs.Binding.ExchangeableForms

/-!
# Parts in parentheses

Binding passes through parentheses, so that a part of a tree and the same part in parentheses are
exchangeable. At the places that look at what stands there this is so for what they do not look for.

## Main definitions

* `Kind.parentheses?`: the kind of the parentheses around nodes of a kind.
* `Kind.looksAt`: nodes that look at what stands in them before it is bound.

## Main results

* `Ast.Expr.Exchangeable.wrapped`, `Ast.TableRef.Exchangeable.wrapped`,
  `Ast.Query.Exchangeable.wrapped`: a part and the same part in parentheses.
* `Piece.wrapped`: what a node is read as, and what it is read as in parentheses.
-/

set_option autoImplicit false

namespace QuerySemantics

open Binding

section Parts

variable {like : Likeness} {options : Options} {info : NodeInfo}

/-! ## Expressions and table references -/

/-- **An expression and the same in parentheses** are exchangeable where nothing is asked of its form. -/
theorem Ast.Expr.Exchangeable.wrapped {it it' : Ast.Expr} (h : it.Alike like it')
    (hbehind : ∀ {leaf leaf' : Token}, leaf.kind = .elseKeyword → like.token leaf leaf' →
      (leaf'.stop ≤ info.start ↔ leaf.stop ≤ it.info.start)) :
    it.Exchangeable like options (.parenthesized info (some it')) where
  lockstep scope := by
    have hsame : expr (.parenthesized info (some it')) = expr it' := by rw [expr, optionalExpr]
    rw [hsame]
    exact expr_lockstep (c := .elsewhere like options) it h
  core := h.core.info
  ownName? := h.ownName?
  behind := hbehind

/-- They are exchangeable in front of a property as well, if it is no bare name. -/
theorem Ast.Expr.ExchangeableTarget.wrapped {it it' : Ast.Expr}
    (h : it.Exchangeable like options (.parenthesized info (some it')))
    (hname : Binding.qualifier? it = none) :
    it.ExchangeableTarget like options (.parenthesized info (some it')) where
  toExchangeable := h
  qualifier? := by
    rw [hname]
    exact .none

/-- They are exchangeable in an `ORDER BY` as well, if it is no position. -/
theorem Ast.Expr.ExchangeableKey.wrapped {it it' : Ast.Expr}
    (h : it.Exchangeable like options (.parenthesized info (some it')))
    (hposition : it.position? = none) :
    it.ExchangeableKey like options (.parenthesized info (some it')) where
  toExchangeable := h
  position? := by
    rw [hposition]
    exact .none

/-- **A table reference and the same in parentheses** are exchangeable. -/
theorem Ast.TableRef.Exchangeable.wrapped {it it' : Ast.TableRef} (h : it.Alike like it') :
    it.Exchangeable like options (.parenthesized info (some it')) where
  lockstep scope := by
    have hsame : table (.parenthesized info (some it')) = table it' := by rw [table, optionalTable]
    rw [hsame]
    exact table_lockstep (c := .elsewhere like options) it h
  core := h.core.info

/-! ## Queries -/

/-- A query in parentheses gives what the query gives, but the scope around it. -/
theorem Binding.query_wrapped {it it' : Ast.Query} (scope : Scope) (h : it.Alike like it') :
    Lockstep (.elsewhere like options) scope (query it) (query (.parenthesized info (some it')))
      fun bound => ⟨bound.query, scope⟩ := by
  have hinner : Lockstep (.elsewhere like options) scope (query it) (query it') id :=
    query_lockstep (c := .elsewhere like options) it h
  have hstep : Lockstep (.elsewhere like options) scope
      (currentScope >>= fun _ => query it >>= pure) (query (.parenthesized info (some it')))
      fun bound => ⟨bound.query, scope⟩ := by
    rw [query, optionalQuery]
    exact .currentScope (hinner.bind fun bound =>
      .pureView bound fun bound => ScopedQuery.mk bound.query scope)
  rw [bind_pure] at hstep
  exact hstep

/-- **A query and the same in parentheses** are exchangeable where nobody asks for its scope. -/
theorem Ast.Query.Exchangeable.wrapped {it it' : Ast.Query} (h : it.Alike like it') :
    it.Exchangeable like options (.parenthesized info (some it')) where
  lockstep scope := ⟨fun _ => scope, query_wrapped scope h⟩
  core := h.core.info

/-- Whether a query is a `SELECT`. -/
def Ast.Query.isSelect : Ast.Query → Bool
  | .select _ _ _ _ _ _ => true
  | _ => false

/-- Only a `SELECT` shows another scope than the one around it to an `ORDER BY`. -/
theorem Binding.inner_query {it : Ast.Query} (h : it.isSelect = false) (env : Env) (pass : Pass) :
    (query it env pass).1.inner = env.scope := by
  cases it with
  | select => cases h
  | _ => rw [query]; rfl

/-- They are exchangeable behind an `ORDER BY` as well, if it is no `SELECT`. -/
theorem Ast.Query.Interchangeable.wrapped {it it' : Ast.Query} (h : it.Alike like it')
    (hselect : it.isSelect = false) :
    it.Interchangeable like options (.parenthesized info (some it')) where
  toExchangeable := .wrapped h
  sorted scope := by
    have hlockstep : Lockstep (.elsewhere like options) scope (query it)
        (query (.parenthesized info (some it'))) fun bound => ⟨bound.query, scope⟩ :=
      query_wrapped scope h
    intro pass hend
    obtain ⟨hstart, hstep⟩ := hlockstep pass hend
    refine ⟨hstart, fun pass' hcoupled => ?_⟩
    obtain ⟨hvalue, hcoupled⟩ := hstep pass' hcoupled
    have hinner := inner_query hselect ((Coupling.elsewhere like options).env scope) pass
    refine ⟨hvalue.trans ?_, hcoupled⟩
    change ScopedQuery.mk _ ((Coupling.elsewhere like options).env scope).scope = _
    rw [← hinner]
    rfl

end Parts

/-! ## Kinds of nodes -/

/-- **Parentheses** around a node: of expressions, queries or table references. Other nodes have none. -/
def Kind.parentheses? : Kind → Option Kind
  | .nameExpression | .variableExpression | .literalExpression | .unaryExpression
  | .binaryExpression | .parenthesizedExpression | .propertyAccessExpression
  | .methodInvocationExpression | .functionInvocationExpression | .countAllExpression
  | .castExpression | .isNullExpression | .caseExpression | .singleRowSubselect | .existsSubselect
  | .allAnySubselect => some .parenthesizedExpression
  | .selectQuery | .orderedQuery | .combinedQuery | .parenthesizedQuery
  | .commonTableExpressionQuery => some .parenthesizedQuery
  | .namedTableReference | .derivedTableReference | .joinedTableReference
  | .parenthesizedTableReference => some .parenthesizedTableReference
  | _ => none

/-- **Nodes that look at what stands in them** before it is bound: a property at a name in front of it, an
entry of an `ORDER BY` at a number, and an `ORDER BY` at a `SELECT` behind it. -/
def Kind.looksAt (parent : Kind) : Element → Bool
  | .node .nameExpression _ => parent = .propertyAccessExpression
  | .node .literalExpression children => parent = .orderByColumn ∧
    (children.filterMap Element.tokenKind?).find? (!·.isTrivia) = some .numericLiteral
  | .node .selectQuery _ => parent = .orderedQuery
  | _ => false

namespace Piece

variable {info : NodeInfo} {pieces : List Piece}

/-- **What can stand in parentheses** is read as an expression, a query or a table reference. -/
theorem ofNode_of_parentheses? {around : Kind} (pieces : List Piece) (h : info.kind.parentheses? = some around) :
    around = .parenthesizedExpression ∧ (∃ it, ofNode info pieces = .expr it) ∨
      around = .parenthesizedQuery ∧ (∃ it, ofNode info pieces = .query it) ∨
        around = .parenthesizedTableReference ∧ (∃ it, ofNode info pieces = .table it) := by
  unfold Kind.parentheses? at h
  unfold ofNode
  split at h <;> cases h <;> simp [*]

/-- Only a name is read as a bare name. -/
theorem qualifier?_of_ofNode {it : Ast.Expr} (h : ofNode info pieces = .expr it)
    (hkind : info.kind ≠ .nameExpression) : Binding.qualifier? it = none := by
  unfold ofNode at h
  split at h <;> cases h <;> first | rfl | contradiction

/-- Only a literal that begins with a number is read as a position. -/
theorem position?_of_ofNode {it : Ast.Expr} (h : ofNode info pieces = .expr it)
    (hkind : info.kind = .literalExpression →
      (leadingToken? pieces).map Token.kind ≠ some .numericLiteral) : it.position? = none := by
  unfold ofNode at h
  split at h <;> cases h <;> first | rfl | skip
  rename_i hliteral
  have hleading := hkind hliteral
  cases htoken : leadingToken? pieces with
  | none => rfl
  | some token =>
    rw [htoken] at hleading
    exact if_neg fun hnumber => hleading (congrArg some hnumber)

/-- Only a `SELECT` is read as one. -/
theorem isSelect_of_ofNode {it : Ast.Query} (h : ofNode info pieces = .query it)
    (hkind : info.kind ≠ .selectQuery) : it.isSelect = false := by
  unfold ofNode at h
  split at h <;> cases h <;> first | rfl | contradiction

section Wrapped

variable {outer : NodeInfo} {opening closing : Token}

/-! Reading what stands between two parentheses. -/

/-- Parentheses around an expression are read with it inside. -/
theorem ofNode_expr (it : Ast.Expr) (h : outer.kind = .parenthesizedExpression) :
    ofNode outer [.token opening, .expr it, .token closing] =
      .expr (.parenthesized outer (some it)) := by
  unfold ofNode
  rw [h]
  rfl

/-- Parentheses around a query are read with it inside. -/
theorem ofNode_query (it : Ast.Query) (h : outer.kind = .parenthesizedQuery) :
    ofNode outer [.token opening, .query it, .token closing] =
      .query (.parenthesized outer (some it)) := by
  unfold ofNode
  rw [h]
  rfl

/-- Parentheses around a table reference are read with it inside. -/
theorem ofNode_table (it : Ast.TableRef) (h : outer.kind = .parenthesizedTableReference) :
    ofNode outer [.token opening, .table it, .token closing] =
      .table (.parenthesized outer (some it)) := by
  unfold ofNode
  rw [h]
  rfl

/-- **What a node is read as, and what it is read as in parentheses**, correspond where nothing is asked of
its form, and elsewhere if it is not what is looked for there. -/
theorem wrapped {like : Likeness} (options : Options) {inner' : Piece} {around : Kind}
    (opening closing : Token) (hkind : info.kind.parentheses? = some around)
    (h : (ofNode info pieces).Alike like inner') (houter : outer.kind = around)
    (hbehind : ∀ {leaf leaf' : Token}, leaf.kind = .elseKeyword → like.token leaf leaf' →
      (leaf'.stop ≤ outer.start ↔ leaf.stop ≤ info.start)) :
    let co := exchangeable like options
    let outer' := ofNode outer [.token opening, inner', .token closing]
    (ofNode info pieces).Loose co outer' ∧
      (info.kind ≠ .nameExpression → (ofNode info pieces).Corresponds co co.target co.query outer') ∧
      ((info.kind = .literalExpression →
          (leadingToken? pieces).map Token.kind ≠ some .numericLiteral) →
        (ofNode info pieces).Corresponds co co.key co.query outer') ∧
      (info.kind ≠ .selectQuery → (ofNode info pieces).Corresponds co co.expr co.sorted outer') := by
  have hself := info?_ofNode info pieces
  rcases ofNode_of_parentheses? pieces hkind with ⟨rfl, it, hit⟩ | ⟨rfl, it, hit⟩ | ⟨rfl, it, hit⟩
  · rw [hit] at h hself ⊢
    cases h with
    | @expr _ it' h =>
      have hinfo : it.info = info := Option.some.inj hself
      have hexpr : it.Exchangeable like options (.parenthesized outer (some it')) :=
        .wrapped h (by rw [hinfo]; exact hbehind)
      dsimp only
      rw [ofNode_expr it' houter]
      exact ⟨.expr hexpr, fun hname => .expr (.wrapped hexpr (qualifier?_of_ofNode hit hname)),
        fun hnumber => .expr (.wrapped hexpr (position?_of_ofNode hit hnumber)),
        fun _ => .expr hexpr⟩
  · rw [hit] at h ⊢
    cases h with
    | @query _ it' h =>
      dsimp only
      rw [ofNode_query it' houter]
      exact ⟨.query (.wrapped h), fun _ => .query (.wrapped h), fun _ => .query (.wrapped h),
        fun hselect => .query (.wrapped h (isSelect_of_ofNode hit hselect))⟩
  · rw [hit] at h ⊢
    cases h with
    | @table _ it' h =>
      dsimp only
      rw [ofNode_table it' houter]
      exact ⟨.table (.wrapped h), fun _ => .table (.wrapped h), fun _ => .table (.wrapped h),
        fun _ => .table (.wrapped h)⟩

end Wrapped

end Piece

/-- **Parentheses are looked through** for what stands in them. -/
theorem Located.coreInfo_wrapped {own outer : NodeInfo} {around : Kind} (children : List Located)
    (opening closing : Token) (hkind : own.kind.parentheses? = some around)
    (houter : outer.kind = around) :
    (node outer [.token opening, node own children, .token closing]).coreInfo outer =
      (node own children).coreInfo own := by
  have houterPiece : (node outer [.token opening, node own children, .token closing]).piece =
      Piece.ofNode outer [.token opening, (node own children).piece, .token closing] := rfl
  rcases Piece.ofNode_of_parentheses? (pieces children) hkind with
    ⟨rfl, it, hit⟩ | ⟨rfl, it, hit⟩ | ⟨rfl, it, hit⟩
  · have hpiece : (node own children).piece = .expr it := hit
    rw [coreInfo, coreInfo, houterPiece, hpiece, Piece.ofNode_expr it houter]
    rfl
  · have hpiece : (node own children).piece = .query it := hit
    rw [coreInfo, coreInfo, houterPiece, hpiece, Piece.ofNode_query it houter]
    rfl
  · have hpiece : (node own children).piece = .table it := hit
    rw [coreInfo, coreInfo, houterPiece, hpiece, Piece.ofNode_table it houter]
    rfl

end QuerySemantics
