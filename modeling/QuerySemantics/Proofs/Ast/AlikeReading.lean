import QuerySemantics.Ast.Read
import QuerySemantics.Proofs.Ast.Alike

/-!
# Alike trees are read alike

A node is read from the readings of its children, and each accessor takes the same one of two lists of
pieces that are alike one by one.

## Main definitions

* `Piece.Alike`: alike pieces.
* `Located.Alike`: located trees of one form, with corresponding nodes and tokens.

## Main results

* `Piece.Alike.ofNode`: corresponding nodes with alike pieces are read alike.
* `Located.Alike.piece`: alike trees are read alike.
-/

set_option autoImplicit false

/-! ## Choosing among related entries -/

namespace List.Forall₂

variable {α β γ δ : Type} {related : α → β → Prop} {result : γ → δ → Prop} {items : List α}
  {items' : List β}

/-- The first result for related entries. -/
theorem findSome? {choose : α → Option γ} {choose' : β → Option δ}
    (h : List.Forall₂ related items items')
    (hchoose : ∀ it it', related it it' → Option.Rel result (choose it) (choose' it')) :
    Option.Rel result (items.findSome? choose) (items'.findSome? choose') := by
  induction h with
  | nil => exact .none
  | cons hit _ ih =>
    rw [List.findSome?_cons, List.findSome?_cons]
    exact match choose _, choose' _, hchoose _ _ hit with
    | _, _, .none => ih
    | _, _, .some hresult => .some hresult

/-- The first of related entries with a property. -/
theorem find? {holds : α → Bool} {holds' : β → Bool} (h : List.Forall₂ related items items')
    (hholds : ∀ it it', related it it' → holds' it' = holds it) :
    Option.Rel related (items.find? holds) (items'.find? holds') := by
  induction h with
  | nil => exact .none
  | cons hit _ ih =>
    rw [List.find?_cons, List.find?_cons, hholds _ _ hit]
    split
    · exact .some hit
    · exact ih

/-- The entry at a place of related lists. -/
theorem getElem? (h : List.Forall₂ related items items') (place : Nat) :
    Option.Rel related items[place]? items'[place]? := by
  induction h generalizing place with
  | nil => exact .none
  | cons hit _ ih =>
    cases place with
    | zero => exact .some hit
    | succ place => exact ih place

/-- Related entries up to the first without a property. -/
theorem takeWhile {holds : α → Bool} {holds' : β → Bool} (h : List.Forall₂ related items items')
    (hholds : ∀ it it', related it it' → holds' it' = holds it) :
    List.Forall₂ related (items.takeWhile holds) (items'.takeWhile holds') := by
  induction h with
  | nil => exact .nil
  | cons hit _ ih =>
    rw [List.takeWhile_cons, List.takeWhile_cons, hholds _ _ hit]
    split
    · exact .cons hit ih
    · exact .nil

end List.Forall₂

namespace QuerySemantics

open Ast

variable {like : Likeness}

namespace Piece

/-! ## Alike pieces -/

variable (like) in
/-- **Alike pieces.** -/
inductive Alike : Piece → Piece → Prop
  | token {leaf leaf' : Token} (h : like.token leaf leaf') : Alike (.token leaf) (.token leaf')
  | unit {it it' : Ast.Unit} (hinfo : like.info it.info it'.info)
      (hquery : Option.Rel (Query.Alike like) it.query it'.query)
      (hexpression : Option.Rel (Expr.Alike like) it.expression it'.expression) :
      Alike (.unit it) (.unit it')
  | expr {it it' : Expr} (h : it.Alike like it') : Alike (.expr it) (.expr it')
  | query {it it' : Query} (h : it.Alike like it') : Alike (.query it) (.query it')
  | table {it it' : TableRef} (h : it.Alike like it') : Alike (.table it) (.table it')
  | selectClause {it it' : SelectClause} (h : it.Alike like it') :
      Alike (.selectClause it) (.selectClause it')
  | top {it it' : Top} (h : it.Alike like it') : Alike (.top it) (.top it')
  | selectItem {it it' : SelectItem} (h : it.Alike like it') : Alike (.selectItem it) (.selectItem it')
  | aliasClause {it it' : Ast.Alias} (h : it.Alike like it') :
      Alike (.aliasClause it) (.aliasClause it')
  | fromClause {it it' : FromClause} (h : it.Alike like it') : Alike (.fromClause it) (.fromClause it')
  | condition {it it' : Condition} (hkind : it'.info.kind = it.info.kind) (h : it.Alike like it') :
      Alike (.condition it) (.condition it')
  | groupBy {it it' : GroupByClause} (h : it.Alike like it') : Alike (.groupBy it) (.groupBy it')
  | orderItem {it it' : OrderItem} (h : it.Alike like it') : Alike (.orderItem it) (.orderItem it')
  | commonTable {it it' : Ast.CommonTable} (h : it.Alike like it') :
      Alike (.commonTable it) (.commonTable it')
  | columnNames {it it' : ColumnNames} (h : it.Alike like it') :
      Alike (.columnNames it) (.columnNames it')
  | arguments {it it' : Arguments} (h : it.Alike like it') : Alike (.arguments it) (.arguments it')
  | typeName {it it' : TypeName} (h : it.Alike like it') : Alike (.typeName it) (.typeName it')
  | caseLabel {it it' : CaseLabel} (h : it.Alike like it') : Alike (.caseLabel it) (.caseLabel it')
  | other {info info' : NodeInfo} (h : like.info info info') : Alike (.other info) (.other info')

namespace Alike

variable {piece piece' : Piece}

/-- Alike pieces are alike as tokens. -/
theorem token? (h : piece.Alike like piece') :
    Option.Rel like.token piece.token? piece'.token? := by
  cases h <;> first | exact .none | exact .some ‹_›

/-- Alike pieces are alike as expressions. -/
theorem expr? (h : piece.Alike like piece') :
    Option.Rel (Expr.Alike like) piece.expr? piece'.expr? := by
  cases h <;> first | exact .none | exact .some ‹_›

/-- Alike pieces are alike as queries. -/
theorem query? (h : piece.Alike like piece') :
    Option.Rel (Query.Alike like) piece.query? piece'.query? := by
  cases h <;> first | exact .none | exact .some ‹_›

/-- Alike pieces are alike as table references. -/
theorem table? (h : piece.Alike like piece') :
    Option.Rel (TableRef.Alike like) piece.table? piece'.table? := by
  cases h <;> first | exact .none | exact .some ‹_›

/-- Alike pieces are alike as select lists. -/
theorem selectClause? (h : piece.Alike like piece') :
    Option.Rel (SelectClause.Alike like) piece.selectClause? piece'.selectClause? := by
  cases h <;> first | exact .none | exact .some ‹_›

/-- Alike pieces are alike as row limits. -/
theorem top? (h : piece.Alike like piece') :
    Option.Rel (Top.Alike like) piece.top? piece'.top? := by
  cases h <;> first | exact .none | exact .some ‹_›

/-- Alike pieces are alike as entries of a select list. -/
theorem selectItem? (h : piece.Alike like piece') :
    Option.Rel (SelectItem.Alike like) piece.selectItem? piece'.selectItem? := by
  cases h <;> first | exact .none | exact .some ‹_›

/-- Alike pieces are alike as names that are given. -/
theorem alias? (h : piece.Alike like piece') :
    Option.Rel (Ast.Alias.Alike like) piece.alias? piece'.alias? := by
  cases h <;> first | exact .none | exact .some ‹_›

/-- Alike pieces are alike as `FROM` clauses. -/
theorem fromClause? (h : piece.Alike like piece') :
    Option.Rel (FromClause.Alike like) piece.fromClause? piece'.fromClause? := by
  cases h <;> first | exact .none | exact .some ‹_›

/-- Alike pieces are alike as conditions, in clauses of the same kind. -/
theorem condition? (kind : Kind) (h : piece.Alike like piece') :
    Option.Rel (Condition.Alike like) (piece.condition? kind) (piece'.condition? kind) := by
  cases h with
  | condition hkind h =>
    rw [Piece.condition?, Piece.condition?, hkind]
    split
    · exact .some h
    · exact .none
  | _ => exact .none

/-- Alike pieces are alike as `GROUP BY` clauses. -/
theorem groupBy? (h : piece.Alike like piece') :
    Option.Rel (GroupByClause.Alike like) piece.groupBy? piece'.groupBy? := by
  cases h <;> first | exact .none | exact .some ‹_›

/-- Alike pieces are alike as entries of an `ORDER BY`. -/
theorem orderItem? (h : piece.Alike like piece') :
    Option.Rel (OrderItem.Alike like) piece.orderItem? piece'.orderItem? := by
  cases h <;> first | exact .none | exact .some ‹_›

/-- Alike pieces are alike as definitions. -/
theorem commonTable? (h : piece.Alike like piece') :
    Option.Rel (CommonTable.Alike like) piece.commonTable? piece'.commonTable? := by
  cases h <;> first | exact .none | exact .some ‹_›

/-- Alike pieces are alike as column name lists. -/
theorem columnNames? (h : piece.Alike like piece') :
    Option.Rel (ColumnNames.Alike like) piece.columnNames? piece'.columnNames? := by
  cases h <;> first | exact .none | exact .some ‹_›

/-- Alike pieces are alike as lists of arguments. -/
theorem arguments? (h : piece.Alike like piece') :
    Option.Rel (Arguments.Alike like) piece.arguments? piece'.arguments? := by
  cases h <;> first | exact .none | exact .some ‹_›

/-- Alike pieces are alike as names of types. -/
theorem typeName? (h : piece.Alike like piece') :
    Option.Rel (TypeName.Alike like) piece.typeName? piece'.typeName? := by
  cases h <;> first | exact .none | exact .some ‹_›

/-- Alike pieces are alike as labels of a `CASE`. -/
theorem caseLabel? (h : piece.Alike like piece') :
    Option.Rel (CaseLabel.Alike like) piece.caseLabel? piece'.caseLabel? := by
  cases h <;> first | exact .none | exact .some ‹_›

end Alike

/-! ## Accessors -/

section Tokens

variable {pieces pieces' : List Piece}
  (h : List.Forall₂ like.token (pieces.filterMap token?) (pieces'.filterMap token?))

include h

/-- The first tokens of a kind correspond. -/
theorem tokenOf?_alike (kind : Kind) :
    Option.Rel like.token (tokenOf? kind pieces) (tokenOf? kind pieces') :=
  h.find? fun _ _ hleaf => by rw [like.token_kind_eq hleaf]

/-- A token of a kind is in both or in none. -/
theorem hasToken_eq (kind : Kind) : hasToken kind pieces' = hasToken kind pieces := by
  have hleaf := tokenOf?_alike h kind
  rw [hasToken, hasToken]
  revert hleaf
  generalize tokenOf? kind pieces = leaf
  generalize tokenOf? kind pieces' = leaf'
  intro hleaf
  cases hleaf <;> rfl

/-- The leading tokens correspond. -/
theorem leadingToken?_alike : Option.Rel like.token (leadingToken? pieces) (leadingToken? pieces') :=
  h.find? fun _ _ hleaf => by rw [like.token_kind_eq hleaf]

/-- The tokens between operands correspond. -/
theorem infixToken?_alike : Option.Rel like.token (infixToken? pieces) (infixToken? pieces') :=
  h.find? fun _ _ hleaf => by rw [like.token_kind_eq hleaf]

/-- The set operators are the same. -/
theorem setOperator?_eq : setOperator? pieces' = setOperator? pieces := by
  simp only [setOperator?, hasToken_eq h]

/-- The kinds of join are the same. -/
theorem joinKind_eq : joinKind pieces' = joinKind pieces := by
  simp only [joinKind, hasToken_eq h]

/-- The `ELSE` of a `CASE`: the same expressions start behind the keyword. -/
theorem caseElse?_rel {related : Expr → Expr → Prop}
    (hbehind : ∀ token token' it it', token.kind = .elseKeyword → like.token token token' →
      related it it' → (token'.stop ≤ it'.info.start ↔ token.stop ≤ it.info.start))
    (hexprs : List.Forall₂ related (pieces.filterMap expr?) (pieces'.filterMap expr?)) :
    Option.Rel related (caseElse? pieces) (caseElse? pieces') := by
  have hkind : ∀ keyword ∈ tokenOf? .elseKeyword pieces, keyword.kind = .elseKeyword :=
    fun _ hkeyword => by simpa using List.find?_some hkeyword
  rw [caseElse?, caseElse?]
  exact match tokenOf? .elseKeyword pieces, tokenOf? .elseKeyword pieces',
      tokenOf?_alike h .elseKeyword, hkind with
  | _, _, .none, _ => .none
  | _, _, .some hkeyword, hkind => hexprs.find? fun it it' hit => by
    simp only [hbehind _ _ _ _ (hkind _ rfl) hkeyword hit]

end Tokens

section Accessors

variable {pieces pieces' : List Piece}

/-- The tokens of alike children correspond one by one. -/
theorem tokens_alike (h : List.Forall₂ (Alike like) pieces pieces') :
    List.Forall₂ like.token (pieces.filterMap token?) (pieces'.filterMap token?) :=
  List.rel_filterMap (fun _ _ hpiece => hpiece.token?) h

/-- The expressions among alike children are alike one by one. -/
theorem exprs_alike (h : List.Forall₂ (Alike like) pieces pieces') :
    List.Forall₂ (Expr.Alike like) (pieces.filterMap expr?) (pieces'.filterMap expr?) :=
  List.rel_filterMap (fun _ _ hpiece => hpiece.expr?) h

/-- The first expressions among alike children are alike. -/
theorem expression?_alike (h : List.Forall₂ (Alike like) pieces pieces') :
    Option.Rel (Expr.Alike like) (expression? pieces) (expression? pieces') :=
  h.findSome? fun _ _ => Alike.expr?

/-- The second expressions among alike children are alike. -/
theorem secondExpression?_alike (h : List.Forall₂ (Alike like) pieces pieces') :
    Option.Rel (Expr.Alike like) (secondExpression? pieces) (secondExpression? pieces') :=
  (exprs_alike h).getElem? 1

/-- The first queries among alike children are alike. -/
theorem query?_alike (h : List.Forall₂ (Alike like) pieces pieces') :
    Option.Rel (Query.Alike like) (pieces.findSome? query?) (pieces'.findSome? query?) :=
  h.findSome? fun _ _ => Alike.query?

/-- What is like a label of a `CASE` is one. -/
theorem isNone_caseLabel? {piece piece' : Piece} (h : piece.Alike like piece') :
    piece'.caseLabel?.isNone = piece.caseLabel?.isNone := by
  cases h <;> rfl

/-- The operand of a `CASE`: labels stand at the same places. -/
theorem caseInput?_alike (h : List.Forall₂ (Alike like) pieces pieces') :
    Option.Rel (Expr.Alike like) (caseInput? pieces) (caseInput? pieces') :=
  expression?_alike (h.takeWhile fun _ _ hpiece => isNone_caseLabel? hpiece)

/-- The expressions behind an `ELSE` are alike. -/
theorem caseElse?_alike (h : List.Forall₂ (Alike like) pieces pieces') :
    Option.Rel (Expr.Alike like) (caseElse? pieces) (caseElse? pieces') :=
  caseElse?_rel (tokens_alike h)
    (fun _ _ _ _ hkind hkeyword hit => like.follows_iff hkind hkeyword hit.info) (exprs_alike h)

end Accessors

/-! ## Readings -/

/-- **Corresponding nodes with alike pieces are read alike.** A name with a qualifier has to be known as
one. -/
theorem Alike.ofNode {info info' : NodeInfo} {pieces pieces' : List Piece} (hinfo : like.info info info')
    (hqualifies : info.kind = .propertyAccessExpression → ∀ node token,
      (expression? pieces).bind Binding.qualifier? = some (node, token) → like.qualifies info token)
    (h : List.Forall₂ (Alike like) pieces pieces') :
    (Piece.ofNode info pieces).Alike like (Piece.ofNode info' pieces') := by
  have htokens := tokens_alike h
  have hident := tokenOf?_alike htokens .identifier
  have hkind := like.kind_eq hinfo
  have hexpression := expression?_alike h
  have hsecond := secondExpression?_alike h
  have hquery := query?_alike h
  have halias := h.findSome? fun _ _ hpiece => hpiece.alias?
  have harguments := h.findSome? fun _ _ hpiece => hpiece.arguments?
  have htable := h.findSome? fun _ _ hpiece => hpiece.table?
  have htables : List.Forall₂ (TableRef.Alike like) _ _ :=
    List.rel_filterMap (fun _ _ hpiece => hpiece.table?) h
  have hqueries : List.Forall₂ (Query.Alike like) _ _ :=
    List.rel_filterMap (fun _ _ hpiece => hpiece.query?) h
  have hcondition := fun kind => h.findSome? fun _ _ hpiece => hpiece.condition? kind
  unfold Piece.ofNode
  rw [hkind, setOperator?_eq htokens, joinKind_eq htokens]
  simp only [hasToken_eq htokens]
  split
  · exact .unit hinfo hquery hexpression
  -- queries and their clauses
  · exact .query (.select hinfo (h.findSome? fun _ _ hpiece => hpiece.selectClause?)
      (h.findSome? fun _ _ hpiece => hpiece.fromClause?) (hcondition _)
      (h.findSome? fun _ _ hpiece => hpiece.groupBy?) (hcondition _))
  · exact .selectClause (.mk hinfo (h.findSome? fun _ _ hpiece => hpiece.top?)
      (List.rel_filterMap (fun _ _ hpiece => hpiece.selectItem?) h))
  · exact .top ⟨hinfo, tokenOf?_alike htokens _, rfl⟩
  · exact .selectItem (.column hinfo hexpression halias)
  · exact .selectItem (.wildcard hinfo hident)
  · exact .aliasClause ⟨hinfo, hident⟩
  · exact .fromClause (.mk hinfo htables)
  · exact .condition hkind (.mk hinfo hexpression)
  · exact .condition hkind (.mk hinfo hexpression)
  · exact .condition hkind (.mk hinfo hexpression)
  · exact .groupBy (.mk hinfo (exprs_alike h))
  · exact .query (.ordered hinfo hquery
      (List.rel_filterMap (fun _ _ hpiece => hpiece.orderItem?) h))
  · exact .orderItem (.mk hinfo hexpression)
  · exact .query (.combined hinfo hquery (hqueries.getElem? 1))
  · exact .query (.parenthesized hinfo hquery)
  · exact .query (.withTables hinfo
      (List.rel_filterMap (fun _ _ hpiece => hpiece.commonTable?) h) hquery)
  · exact .commonTable (.mk hinfo hident (h.findSome? fun _ _ hpiece => hpiece.columnNames?) hquery)
  · refine .columnNames ⟨hinfo, List.rel_filter (fun _ _ hleaf => ?_) htokens⟩
    simp only [like.token_kind_eq hleaf]
  -- table references
  · exact .table (.named hinfo hident halias)
  · exact .table (.derived hinfo hquery hident)
  · exact .table (.joined hinfo htable (htables.getElem? 1) (hcondition _))
  · exact .table (.parenthesized hinfo htable)
  -- expressions
  · exact .expr (.name hinfo hident)
  · exact .expr (.parameter hinfo hident)
  · exact .expr (.literal hinfo (leadingToken?_alike htokens))
  · exact .expr (.unary hinfo (leadingToken?_alike htokens) hexpression)
  · exact .expr (.binary hinfo hexpression (infixToken?_alike htokens) hsecond)
  · exact .expr (.parenthesized hinfo hexpression)
  · rename_i hproperty
    exact .expr (.property hinfo hexpression hident (hqualifies hproperty))
  · exact .expr (.method hinfo hexpression hident harguments)
  · exact .expr (.call hinfo hident harguments)
  · exact .expr (.countAll hinfo hident)
  · exact .arguments (.mk hinfo (exprs_alike h))
  · exact .expr (.cast hinfo hexpression (h.findSome? fun _ _ hpiece => hpiece.typeName?))
  · exact .typeName ⟨hinfo, hident⟩
  · exact .expr (.isNull hinfo hexpression)
  · exact .expr (.cases hinfo (caseInput?_alike h)
      (List.rel_filterMap (fun _ _ hpiece => hpiece.caseLabel?) h) (caseElse?_alike h))
  · exact .caseLabel (.mk hinfo hexpression hsecond)
  · exact .expr (.subselect hinfo hquery)
  · exact .expr (.existence hinfo hquery)
  · exact .expr (.quantified hinfo hexpression (leadingToken?_alike htokens) hquery)
  · exact .other hinfo

end Piece

namespace Located

/-! ## Alike trees -/

variable (like) in
/-- **Alike trees**: corresponding nodes with alike children, and corresponding tokens. A name with a
qualifier has to be known as one. -/
inductive Alike : Located → Located → Prop
  | token {leaf leaf' : Token} (h : like.token leaf leaf') : Alike (.token leaf) (.token leaf')
  | node {info info' : NodeInfo} {children children' : List Located} (hinfo : like.info info info')
      (hqualifies : info.kind = .propertyAccessExpression → ∀ node token,
        (Piece.expression? (pieces children)).bind Binding.qualifier? = some (node, token) →
          like.qualifies info token)
      (hchildren : List.Forall₂ Alike children children') :
      Alike (.node info children) (.node info' children')

mutual

/-- **Alike trees are read alike.** -/
theorem Alike.piece : ∀ {part part' : Located}, part.Alike like part' →
    part.piece.Alike like part'.piece
  | .token _, _, .token h => .token h
  | .node _ _, _, .node hinfo hqualifies hchildren =>
    Piece.Alike.ofNode hinfo hqualifies (pieces_alike hchildren)

/-- Trees that are alike one by one are read alike one by one. -/
theorem pieces_alike : ∀ {parts parts' : List Located}, List.Forall₂ (Alike like) parts parts' →
    List.Forall₂ (Piece.Alike like) (pieces parts) (pieces parts')
  | [], _, .nil => .nil
  | _ :: _, _, .cons h hrest => .cons h.piece (pieces_alike hrest)

end

/-- The nodes inside the parentheses of alike trees correspond. -/
theorem Alike.coreInfo {part part' : Located} {info info' : NodeInfo} (h : part.Alike like part')
    (hpart : part.info? = some info) (hpart' : part'.info? = some info') :
    like.info (part.coreInfo info) (part'.coreInfo info') := by
  have hpiece := h.piece
  have hinfo : like.info info info' := by
    cases h with
    | token h => cases hpart
    | node hinfo _ _ =>
      cases hpart
      cases hpart'
      exact hinfo
  unfold Located.coreInfo
  generalize part.piece = piece at hpiece
  generalize part'.piece = piece' at hpiece
  cases hpiece with
  | expr h => exact h.core.info
  | query h => exact h.core.info
  | table h => exact h.core.info
  | _ => exact hinfo

mutual

/-- **Alike trees consist of the same.** -/
theorem Alike.element : ∀ {part part' : Located}, part.Alike like part' → part'.element = part.element
  | .token _, _, .token h => by
    rw [Located.element, Located.element, like.token_kind_eq h, like.token_text_eq h]
  | .node _ _, _, .node hinfo _ hchildren => by
    rw [Located.element, Located.element, like.kind_eq hinfo, elementsOf_alike hchildren]

/-- Trees that are alike one by one consist of the same. -/
theorem elementsOf_alike : ∀ {parts parts' : List Located}, List.Forall₂ (Alike like) parts parts' →
    elementsOf parts' = elementsOf parts
  | [], _, .nil => rfl
  | _ :: _, _, .cons h hrest => by rw [elementsOf, elementsOf, h.element, elementsOf_alike hrest]

end

mutual

/-- The nodes of alike trees are alike one by one. -/
theorem Alike.nodes : ∀ {part part' : Located}, part.Alike like part' →
    List.Forall₂ (Alike like) part.nodes part'.nodes
  | .token _, _, .token _ => .nil
  | .node _ _, _, .node hinfo hqualifies hchildren =>
    .cons (.node hinfo hqualifies hchildren) (nodesOf_alike hchildren)

/-- The nodes of several trees that are alike one by one are alike one by one. -/
theorem nodesOf_alike : ∀ {parts parts' : List Located}, List.Forall₂ (Alike like) parts parts' →
    List.Forall₂ (Alike like) (nodesOf parts) (nodesOf parts')
  | [], _, .nil => .nil
  | _ :: _, _, .cons h hrest => List.rel_append h.nodes (nodesOf_alike hrest)

end

end Located

end QuerySemantics
