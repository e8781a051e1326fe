import QuerySemantics.Proofs.Ast.AlikeReading

/-!
# Congruences

Two trees that differ at one place are compared from that place outwards. What corresponds there passes
to the nodes around it: a relation between expressions, table references and queries that all forms of
syntax keep is kept by reading.

Some forms look at what stands in them before it is bound: a property at a bare name in front of it, an
entry of an `ORDER BY` at a number, and an `ORDER BY` at a `SELECT` behind it. So there are stricter
relations for these places. What stands around another node is of no interest to them, and corresponds
at all places.

## Main definitions

* `Correspondence`: what corresponds in two trees.
* `Ast.Arguments.Corresponds` and its fellows, `Piece.Corresponds`: clauses and pieces made of what
  corresponds.
* `Congruence`: a correspondence that all forms keep.

## Main results

* `Piece.Strict.ofNode`: corresponding nodes with pieces that correspond are read alike.
* `Located.Alike.strict`: what alike trees are read as corresponds in every congruence.
-/

set_option autoImplicit false

namespace QuerySemantics

open Ast

/-- **Correspondence** of two trees. Expressions that correspond as `expr` do so where nothing is asked
of their form, those that correspond as `target` also in front of a property, as `key` also in an
`ORDER BY`, and as `anywhere` at all places. Queries that correspond as `sorted` do so directly under an
`ORDER BY` as well. -/
structure Correspondence extends Likeness where
  expr : Expr → Expr → Prop
  target : Expr → Expr → Prop
  key : Expr → Expr → Prop
  anywhere : Expr → Expr → Prop
  query : Query → Query → Prop
  sorted : Query → Query → Prop
  table : TableRef → TableRef → Prop
  source : FromClause → FromClause → Prop

/-! ## Clauses -/

namespace Ast

variable (co : Correspondence)

/-- Argument lists of corresponding expressions. -/
inductive Arguments.Corresponds : Arguments → Arguments → Prop
  | mk {info info' : NodeInfo} {items items' : List Expr} (hinfo : co.info info info')
      (hitems : List.Forall₂ co.expr items items') :
      Arguments.Corresponds (.mk info items) (.mk info' items')

/-- Labels of corresponding expressions. -/
inductive CaseLabel.Corresponds : CaseLabel → CaseLabel → Prop
  | mk {info info' : NodeInfo} {condition condition' result result' : Option Expr}
      (hinfo : co.info info info') (hcondition : Option.Rel co.expr condition condition')
      (hresult : Option.Rel co.expr result result') :
      CaseLabel.Corresponds (.mk info condition result) (.mk info' condition' result')

/-- Conditions of corresponding expressions. -/
inductive Condition.Corresponds : Condition → Condition → Prop
  | mk {info info' : NodeInfo} {predicate predicate' : Option Expr} (hinfo : co.info info info')
      (hpredicate : Option.Rel co.expr predicate predicate') :
      Condition.Corresponds (.mk info predicate) (.mk info' predicate')

/-- Select list entries of corresponding expressions. -/
inductive SelectItem.Corresponds : SelectItem → SelectItem → Prop
  | column {info info' : NodeInfo} {value value' : Option Expr} {correlation correlation' : Option Alias}
      (hinfo : co.info info info') (hvalue : Option.Rel co.expr value value')
      (hcorrelation : Option.Rel (Alias.Alike co.toLikeness) correlation correlation') :
      SelectItem.Corresponds (.column info value correlation) (.column info' value' correlation')
  | wildcard {info info' : NodeInfo} {table table' : Option Token} (hinfo : co.info info info')
      (htable : Option.Rel co.token table table') :
      SelectItem.Corresponds (.wildcard info table) (.wildcard info' table')

/-- Select clauses of corresponding entries. -/
inductive SelectClause.Corresponds : SelectClause → SelectClause → Prop
  | mk {info info' : NodeInfo} {distinct : Bool} {top top' : Option Top} {items items' : List SelectItem}
      (hinfo : co.info info info') (htop : Option.Rel (Top.Alike co.toLikeness) top top')
      (hitems : List.Forall₂ (SelectItem.Corresponds co) items items') :
      SelectClause.Corresponds (.mk info distinct top items) (.mk info' distinct top' items')

/-- `GROUP BY` clauses of corresponding expressions. -/
inductive GroupByClause.Corresponds : GroupByClause → GroupByClause → Prop
  | mk {info info' : NodeInfo} {keys keys' : List Expr} (hinfo : co.info info info')
      (hkeys : List.Forall₂ co.expr keys keys') :
      GroupByClause.Corresponds (.mk info keys) (.mk info' keys')

/-- `ORDER BY` entries of corresponding keys. -/
inductive OrderItem.Corresponds : OrderItem → OrderItem → Prop
  | mk {info info' : NodeInfo} {key key' : Option Expr} {descending : Bool}
      (hinfo : co.info info info') (hkey : Option.Rel co.key key key') :
      OrderItem.Corresponds (.mk info key descending) (.mk info' key' descending)

/-- Definitions of corresponding queries. -/
inductive CommonTable.Corresponds : CommonTable → CommonTable → Prop
  | mk {info info' : NodeInfo} {ident ident' : Option Token} {columns columns' : Option ColumnNames}
      {query query' : Option Query} (hinfo : co.info info info')
      (hident : Option.Rel co.token ident ident')
      (hcolumns : Option.Rel (ColumnNames.Alike co.toLikeness) columns columns')
      (hquery : Option.Rel co.query query query') :
      CommonTable.Corresponds (.mk info ident columns query) (.mk info' ident' columns' query')

end Ast

/-! ## Pieces -/

namespace Piece

variable (co : Correspondence) (expr : Expr → Expr → Prop) (query : Query → Query → Prop)

/-- **Corresponding pieces**, where `expr` and `query` tell which expressions and queries correspond if
they are pieces themselves. -/
inductive Corresponds : Piece → Piece → Prop
  | token {leaf leaf' : Token} (h : co.token leaf leaf') : Corresponds (.token leaf) (.token leaf')
  | unit {it it' : Ast.Unit} (hinfo : co.info it.info it'.info)
      (hquery : Option.Rel co.query it.query it'.query)
      (hexpression : Option.Rel co.expr it.expression it'.expression) :
      Corresponds (.unit it) (.unit it')
  | expr {it it' : Expr} (h : expr it it') : Corresponds (.expr it) (.expr it')
  | query {it it' : Query} (h : query it it') : Corresponds (.query it) (.query it')
  | table {it it' : TableRef} (h : co.table it it') : Corresponds (.table it) (.table it')
  | selectClause {it it' : SelectClause} (h : it.Corresponds co it') :
      Corresponds (.selectClause it) (.selectClause it')
  | top {it it' : Top} (h : it.Alike co.toLikeness it') : Corresponds (.top it) (.top it')
  | selectItem {it it' : SelectItem} (h : it.Corresponds co it') :
      Corresponds (.selectItem it) (.selectItem it')
  | aliasClause {it it' : Ast.Alias} (h : it.Alike co.toLikeness it') :
      Corresponds (.aliasClause it) (.aliasClause it')
  | fromClause {it it' : FromClause} (h : co.source it it') :
      Corresponds (.fromClause it) (.fromClause it')
  | condition {it it' : Condition} (hkind : it'.info.kind = it.info.kind)
      (h : it.Corresponds co it') : Corresponds (.condition it) (.condition it')
  | groupBy {it it' : GroupByClause} (h : it.Corresponds co it') :
      Corresponds (.groupBy it) (.groupBy it')
  | orderItem {it it' : OrderItem} (h : it.Corresponds co it') :
      Corresponds (.orderItem it) (.orderItem it')
  | commonTable {it it' : Ast.CommonTable} (h : it.Corresponds co it') :
      Corresponds (.commonTable it) (.commonTable it')
  | columnNames {it it' : ColumnNames} (h : it.Alike co.toLikeness it') :
      Corresponds (.columnNames it) (.columnNames it')
  | arguments {it it' : Arguments} (h : it.Corresponds co it') :
      Corresponds (.arguments it) (.arguments it')
  | typeName {it it' : TypeName} (h : it.Alike co.toLikeness it') :
      Corresponds (.typeName it) (.typeName it')
  | caseLabel {it it' : CaseLabel} (h : it.Corresponds co it') :
      Corresponds (.caseLabel it) (.caseLabel it')
  | other {info info' : NodeInfo} (h : co.info info info') : Corresponds (.other info) (.other info')

/-- Pieces that correspond where nothing is asked of their form. -/
abbrev Loose : Piece → Piece → Prop :=
  Corresponds co co.expr co.query

/-- Pieces that correspond at all places. -/
abbrev Strict : Piece → Piece → Prop :=
  Corresponds co co.anywhere co.sorted

namespace Corresponds

variable {co expr query} {piece piece' : Piece}

/-- Pieces correspond in a looser way as well. -/
theorem imp {expr' : Expr → Expr → Prop} {query' : Query → Query → Prop}
    (h : piece.Corresponds co expr query piece') (hexpr : ∀ it it', expr it it' → expr' it it')
    (hquery : ∀ it it', query it it' → query' it it') : piece.Corresponds co expr' query' piece' := by
  cases h with
  | expr h => exact .expr (hexpr _ _ h)
  | query h => exact .query (hquery _ _ h)
  | token h => exact .token h
  | unit hinfo hquery hexpression => exact .unit hinfo hquery hexpression
  | table h => exact .table h
  | selectClause h => exact .selectClause h
  | top h => exact .top h
  | selectItem h => exact .selectItem h
  | aliasClause h => exact .aliasClause h
  | fromClause h => exact .fromClause h
  | condition hkind h => exact .condition hkind h
  | groupBy h => exact .groupBy h
  | orderItem h => exact .orderItem h
  | commonTable h => exact .commonTable h
  | columnNames h => exact .columnNames h
  | arguments h => exact .arguments h
  | typeName h => exact .typeName h
  | caseLabel h => exact .caseLabel h
  | other h => exact .other h

/-- Corresponding pieces correspond as tokens. -/
theorem token? (h : piece.Corresponds co expr query piece') :
    Option.Rel co.token piece.token? piece'.token? := by
  cases h <;> first | exact .none | exact .some ‹_›

/-- Corresponding pieces correspond as expressions. -/
theorem expr? (h : piece.Corresponds co expr query piece') :
    Option.Rel expr piece.expr? piece'.expr? := by
  cases h <;> first | exact .none | exact .some ‹_›

/-- Corresponding pieces correspond as queries. -/
theorem query? (h : piece.Corresponds co expr query piece') :
    Option.Rel query piece.query? piece'.query? := by
  cases h <;> first | exact .none | exact .some ‹_›

/-- Corresponding pieces correspond as table references. -/
theorem table? (h : piece.Corresponds co expr query piece') :
    Option.Rel co.table piece.table? piece'.table? := by
  cases h <;> first | exact .none | exact .some ‹_›

/-- Corresponding pieces correspond as select lists. -/
theorem selectClause? (h : piece.Corresponds co expr query piece') :
    Option.Rel (SelectClause.Corresponds co) piece.selectClause? piece'.selectClause? := by
  cases h <;> first | exact .none | exact .some ‹_›

/-- Corresponding pieces are alike as row limits. -/
theorem top? (h : piece.Corresponds co expr query piece') :
    Option.Rel (Top.Alike co.toLikeness) piece.top? piece'.top? := by
  cases h <;> first | exact .none | exact .some ‹_›

/-- Corresponding pieces correspond as entries of a select list. -/
theorem selectItem? (h : piece.Corresponds co expr query piece') :
    Option.Rel (SelectItem.Corresponds co) piece.selectItem? piece'.selectItem? := by
  cases h <;> first | exact .none | exact .some ‹_›

/-- Corresponding pieces are alike as names that are given. -/
theorem alias? (h : piece.Corresponds co expr query piece') :
    Option.Rel (Ast.Alias.Alike co.toLikeness) piece.alias? piece'.alias? := by
  cases h <;> first | exact .none | exact .some ‹_›

/-- Corresponding pieces correspond as `FROM` clauses. -/
theorem fromClause? (h : piece.Corresponds co expr query piece') :
    Option.Rel co.source piece.fromClause? piece'.fromClause? := by
  cases h <;> first | exact .none | exact .some ‹_›

/-- Corresponding pieces correspond as conditions, in clauses of the same kind. -/
theorem condition? (kind : Kind) (h : piece.Corresponds co expr query piece') :
    Option.Rel (Condition.Corresponds co) (piece.condition? kind) (piece'.condition? kind) := by
  cases h with
  | condition hkind h =>
    rw [Piece.condition?, Piece.condition?, hkind]
    split
    · exact .some h
    · exact .none
  | _ => exact .none

/-- Corresponding pieces correspond as `GROUP BY` clauses. -/
theorem groupBy? (h : piece.Corresponds co expr query piece') :
    Option.Rel (GroupByClause.Corresponds co) piece.groupBy? piece'.groupBy? := by
  cases h <;> first | exact .none | exact .some ‹_›

/-- Corresponding pieces correspond as entries of an `ORDER BY`. -/
theorem orderItem? (h : piece.Corresponds co expr query piece') :
    Option.Rel (OrderItem.Corresponds co) piece.orderItem? piece'.orderItem? := by
  cases h <;> first | exact .none | exact .some ‹_›

/-- Corresponding pieces correspond as definitions. -/
theorem commonTable? (h : piece.Corresponds co expr query piece') :
    Option.Rel (CommonTable.Corresponds co) piece.commonTable? piece'.commonTable? := by
  cases h <;> first | exact .none | exact .some ‹_›

/-- Corresponding pieces are alike as column name lists. -/
theorem columnNames? (h : piece.Corresponds co expr query piece') :
    Option.Rel (ColumnNames.Alike co.toLikeness) piece.columnNames? piece'.columnNames? := by
  cases h <;> first | exact .none | exact .some ‹_›

/-- Corresponding pieces correspond as lists of arguments. -/
theorem arguments? (h : piece.Corresponds co expr query piece') :
    Option.Rel (Arguments.Corresponds co) piece.arguments? piece'.arguments? := by
  cases h <;> first | exact .none | exact .some ‹_›

/-- Corresponding pieces are alike as names of types. -/
theorem typeName? (h : piece.Corresponds co expr query piece') :
    Option.Rel (TypeName.Alike co.toLikeness) piece.typeName? piece'.typeName? := by
  cases h <;> first | exact .none | exact .some ‹_›

/-- Corresponding pieces correspond as labels of a `CASE`. -/
theorem caseLabel? (h : piece.Corresponds co expr query piece') :
    Option.Rel (CaseLabel.Corresponds co) piece.caseLabel? piece'.caseLabel? := by
  cases h <;> first | exact .none | exact .some ‹_›

/-- Corresponding pieces are both labels of a `CASE` or both not. -/
theorem isNone_caseLabel? (h : piece.Corresponds co expr query piece') :
    piece'.caseLabel?.isNone = piece.caseLabel?.isNone := by
  cases h <;> rfl

end Corresponds

end Piece

/-! ## Congruences -/

/-- **Congruence**: a correspondence that all forms of syntax keep. What is made of corresponding parts
at corresponding nodes corresponds at all places. -/
structure Congruence extends Correspondence where
  expr_of_anywhere {it it' : Expr} : anywhere it it' → expr it it'
  target_of_anywhere {it it' : Expr} : anywhere it it' → target it it'
  key_of_anywhere {it it' : Expr} : anywhere it it' → key it it'
  expr_of_target {it it' : Expr} : target it it' → expr it it'
  query_of_sorted {it it' : Query} : sorted it it' → query it it'
  behind {leaf leaf' : Token} {it it' : Expr} : leaf.kind = .elseKeyword → token leaf leaf' →
    expr it it' → (leaf'.stop ≤ it'.info.start ↔ leaf.stop ≤ it.info.start)
  expr_core {it it' : Expr} : expr it it' → info it.core.info it'.core.info
  query_core {it it' : Query} : query it it' → info it.core.info it'.core.info
  table_core {it it' : TableRef} : table it it' → info it.core.info it'.core.info
  name {i i' : NodeInfo} {ident ident' : Option Token} : info i i' → Option.Rel token ident ident' →
    anywhere (.name i ident) (.name i' ident')
  parameter {i i' : NodeInfo} {ident ident' : Option Token} : info i i' →
    Option.Rel token ident ident' → anywhere (.parameter i ident) (.parameter i' ident')
  literal {i i' : NodeInfo} {leaf leaf' : Option Token} : info i i' → Option.Rel token leaf leaf' →
    anywhere (.literal i leaf) (.literal i' leaf')
  unary {i i' : NodeInfo} {operator operator' : Option Token} {operand operand' : Option Expr} :
    info i i' → Option.Rel token operator operator' → Option.Rel expr operand operand' →
      anywhere (.unary i operator operand) (.unary i' operator' operand')
  binary {i i' : NodeInfo} {left left' : Option Expr} {operator operator' : Option Token}
    {negated : Bool} {right right' : Option Expr} : info i i' → Option.Rel expr left left' →
      Option.Rel token operator operator' → Option.Rel expr right right' →
        anywhere (.binary i left operator negated right) (.binary i' left' operator' negated right')
  parenthesized {i i' : NodeInfo} {inner inner' : Option Expr} : info i i' →
    Option.Rel expr inner inner' → anywhere (.parenthesized i inner) (.parenthesized i' inner')
  property {i i' : NodeInfo} {owner owner' : Option Expr} {ident ident' : Option Token} : info i i' →
    Option.Rel target owner owner' → Option.Rel token ident ident' →
      anywhere (.property i owner ident) (.property i' owner' ident')
  method {i i' : NodeInfo} {owner owner' : Option Expr} {ident ident' : Option Token}
    {arguments arguments' : Option Arguments} : info i i' → Option.Rel expr owner owner' →
      Option.Rel token ident ident' →
        Option.Rel (Arguments.Corresponds toCorrespondence) arguments arguments' →
          anywhere (.method i owner ident arguments) (.method i' owner' ident' arguments')
  call {i i' : NodeInfo} {ident ident' : Option Token} {arguments arguments' : Option Arguments} :
    info i i' → Option.Rel token ident ident' →
      Option.Rel (Arguments.Corresponds toCorrespondence) arguments arguments' →
        anywhere (.call i ident arguments) (.call i' ident' arguments')
  countAll {i i' : NodeInfo} {ident ident' : Option Token} : info i i' →
    Option.Rel token ident ident' → anywhere (.countAll i ident) (.countAll i' ident')
  cast {i i' : NodeInfo} {operand operand' : Option Expr} {type type' : Option TypeName} : info i i' →
    Option.Rel expr operand operand' → Option.Rel (TypeName.Alike toLikeness) type type' →
      anywhere (.cast i operand type) (.cast i' operand' type')
  isNull {i i' : NodeInfo} {operand operand' : Option Expr} {negated : Bool} : info i i' →
    Option.Rel expr operand operand' →
      anywhere (.isNull i operand negated) (.isNull i' operand' negated)
  cases {i i' : NodeInfo} {input input' : Option Expr} {labels labels' : List CaseLabel}
    {otherwise otherwise' : Option Expr} : info i i' → Option.Rel expr input input' →
      List.Forall₂ (CaseLabel.Corresponds toCorrespondence) labels labels' →
        Option.Rel expr otherwise otherwise' →
          anywhere (.cases i input labels otherwise) (.cases i' input' labels' otherwise')
  subselect {i i' : NodeInfo} {body body' : Option Query} : info i i' →
    Option.Rel query body body' → anywhere (.subselect i body) (.subselect i' body')
  existence {i i' : NodeInfo} {body body' : Option Query} : info i i' →
    Option.Rel query body body' → anywhere (.existence i body) (.existence i' body')
  quantified {i i' : NodeInfo} {left left' : Option Expr} {operator operator' : Option Token}
    {quantifier : Quantifier} {body body' : Option Query} : info i i' → Option.Rel expr left left' →
      Option.Rel token operator operator' → Option.Rel query body body' →
        anywhere (.quantified i left operator quantifier body)
          (.quantified i' left' operator' quantifier body')
  named {i i' : NodeInfo} {ident ident' : Option Token} {correlation correlation' : Option Ast.Alias} :
    info i i' → Option.Rel token ident ident' →
      Option.Rel (Ast.Alias.Alike toLikeness) correlation correlation' →
        table (.named i ident correlation) (.named i' ident' correlation')
  derived {i i' : NodeInfo} {body body' : Option Query} {ident ident' : Option Token} : info i i' →
    Option.Rel query body body' → Option.Rel token ident ident' →
      table (.derived i body ident) (.derived i' body' ident')
  joined {i i' : NodeInfo} {left left' : Option TableRef} {kind : JoinKind}
    {right right' : Option TableRef} {condition condition' : Option Condition} : info i i' →
      Option.Rel table left left' → Option.Rel table right right' →
        Option.Rel (Condition.Corresponds toCorrespondence) condition condition' →
          table (.joined i left kind right condition) (.joined i' left' kind right' condition')
  parenthesizedTable {i i' : NodeInfo} {inner inner' : Option TableRef} : info i i' →
    Option.Rel table inner inner' → table (.parenthesized i inner) (.parenthesized i' inner')
  fromClause {i i' : NodeInfo} {tables tables' : List TableRef} : info i i' →
    List.Forall₂ table tables tables' → source (.mk i tables) (.mk i' tables')
  select {i i' : NodeInfo} {head head' : Option SelectClause} {origin origin' : Option FromClause}
    {filter filter' : Option Condition} {grouping grouping' : Option GroupByClause}
    {having having' : Option Condition} : info i i' →
      Option.Rel (SelectClause.Corresponds toCorrespondence) head head' →
        Option.Rel source origin origin' →
          Option.Rel (Condition.Corresponds toCorrespondence) filter filter' →
            Option.Rel (GroupByClause.Corresponds toCorrespondence) grouping grouping' →
              Option.Rel (Condition.Corresponds toCorrespondence) having having' →
                sorted (.select i head origin filter grouping having)
                  (.select i' head' origin' filter' grouping' having')
  combined {i i' : NodeInfo} {left left' : Option Query} {operator : Option SetOperator}
    {right right' : Option Query} : info i i' → Option.Rel query left left' →
      Option.Rel query right right' →
        sorted (.combined i left operator right) (.combined i' left' operator right')
  ordered {i i' : NodeInfo} {input input' : Option Query} {items items' : List OrderItem} : info i i' →
    Option.Rel sorted input input' →
      List.Forall₂ (OrderItem.Corresponds toCorrespondence) items items' →
        sorted (.ordered i input items) (.ordered i' input' items')
  withTables {i i' : NodeInfo} {tables tables' : List Ast.CommonTable} {body body' : Option Query} :
    info i i' → List.Forall₂ (Ast.CommonTable.Corresponds toCorrespondence) tables tables' →
      Option.Rel query body body' → sorted (.withTables i tables body) (.withTables i' tables' body')
  parenthesizedQuery {i i' : NodeInfo} {inner inner' : Option Query} : info i i' →
    Option.Rel query inner inner' → sorted (.parenthesized i inner) (.parenthesized i' inner')

/-! ## Readings -/

namespace Piece

variable (c : Congruence)

/-- **Corresponding nodes with corresponding pieces are read alike.** What stands in front of a property,
in an `ORDER BY` or behind one has to correspond there. -/
theorem Strict.ofNode {info info' : NodeInfo} {pieces pieces' : List Piece} (hinfo : c.info info info')
    (h : List.Forall₂ (Loose c.toCorrespondence) pieces pieces')
    (htarget : info.kind = .propertyAccessExpression →
      List.Forall₂ (Corresponds c.toCorrespondence c.target c.query) pieces pieces')
    (hkey : info.kind = .orderByColumn →
      List.Forall₂ (Corresponds c.toCorrespondence c.key c.query) pieces pieces')
    (hsorted : info.kind = .orderedQuery →
      List.Forall₂ (Corresponds c.toCorrespondence c.expr c.sorted) pieces pieces') :
    Strict c.toCorrespondence (Piece.ofNode info pieces) (Piece.ofNode info' pieces') := by
  have htokens : List.Forall₂ c.token (pieces.filterMap token?) (pieces'.filterMap token?) :=
    List.rel_filterMap (fun _ _ hpiece => hpiece.token?) h
  have hident := tokenOf?_alike htokens .identifier
  have hkind := c.kind_eq hinfo
  have hexpression : Option.Rel c.expr (expression? pieces) (expression? pieces') :=
    h.findSome? fun _ _ hpiece => hpiece.expr?
  have hexprs : List.Forall₂ c.expr (pieces.filterMap expr?) (pieces'.filterMap expr?) :=
    List.rel_filterMap (fun _ _ hpiece => hpiece.expr?) h
  have hsecond : Option.Rel c.expr (secondExpression? pieces) (secondExpression? pieces') :=
    hexprs.getElem? 1
  have hquery : Option.Rel c.query (pieces.findSome? query?) (pieces'.findSome? query?) :=
    h.findSome? fun _ _ hpiece => hpiece.query?
  have hqueries : List.Forall₂ c.query (pieces.filterMap query?) (pieces'.filterMap query?) :=
    List.rel_filterMap (fun _ _ hpiece => hpiece.query?) h
  have halias := h.findSome? fun _ _ hpiece => hpiece.alias?
  have harguments := h.findSome? fun _ _ hpiece => hpiece.arguments?
  have htable := h.findSome? fun _ _ hpiece => hpiece.table?
  have htables : List.Forall₂ c.table (pieces.filterMap table?) (pieces'.filterMap table?) :=
    List.rel_filterMap (fun _ _ hpiece => hpiece.table?) h
  have hcondition := fun kind => h.findSome? fun _ _ hpiece => hpiece.condition? kind
  have hinput : Option.Rel c.expr (caseInput? pieces) (caseInput? pieces') :=
    (h.takeWhile fun _ _ hpiece => hpiece.isNone_caseLabel?).findSome? fun _ _ hpiece => hpiece.expr?
  have hotherwise : Option.Rel c.expr (caseElse? pieces) (caseElse? pieces') :=
    caseElse?_rel htokens (fun _ _ _ _ => c.behind) hexprs
  unfold Piece.ofNode
  rw [hkind, setOperator?_eq htokens, joinKind_eq htokens]
  simp only [hasToken_eq htokens]
  split
  · exact .unit hinfo hquery hexpression
  -- queries and their clauses
  · exact .query (c.select hinfo (h.findSome? fun _ _ hpiece => hpiece.selectClause?)
      (h.findSome? fun _ _ hpiece => hpiece.fromClause?) (hcondition _)
      (h.findSome? fun _ _ hpiece => hpiece.groupBy?) (hcondition _))
  · exact .selectClause (.mk hinfo (h.findSome? fun _ _ hpiece => hpiece.top?)
      (List.rel_filterMap (fun _ _ hpiece => hpiece.selectItem?) h))
  · exact .top ⟨hinfo, tokenOf?_alike htokens _, rfl⟩
  · exact .selectItem (.column hinfo hexpression halias)
  · exact .selectItem (.wildcard hinfo hident)
  · exact .aliasClause ⟨hinfo, hident⟩
  · exact .fromClause (c.fromClause hinfo htables)
  · exact .condition hkind (.mk hinfo hexpression)
  · exact .condition hkind (.mk hinfo hexpression)
  · exact .condition hkind (.mk hinfo hexpression)
  · exact .groupBy (.mk hinfo hexprs)
  · rename_i hordered
    exact .query (c.ordered hinfo ((hsorted hordered).findSome? fun _ _ hpiece => hpiece.query?)
      (List.rel_filterMap (fun _ _ hpiece => hpiece.orderItem?) h))
  · rename_i hcolumn
    exact .orderItem (.mk hinfo ((hkey hcolumn).findSome? fun _ _ hpiece => hpiece.expr?))
  · exact .query (c.combined hinfo hquery (hqueries.getElem? 1))
  · exact .query (c.parenthesizedQuery hinfo hquery)
  · exact .query (c.withTables hinfo
      (List.rel_filterMap (fun _ _ hpiece => hpiece.commonTable?) h) hquery)
  · exact .commonTable (.mk hinfo hident (h.findSome? fun _ _ hpiece => hpiece.columnNames?) hquery)
  · refine .columnNames ⟨hinfo, List.rel_filter (fun _ _ hleaf => ?_) htokens⟩
    simp only [c.token_kind_eq hleaf]
  -- table references
  · exact .table (c.named hinfo hident halias)
  · exact .table (c.derived hinfo hquery hident)
  · exact .table (c.joined hinfo htable (htables.getElem? 1) (hcondition _))
  · exact .table (c.parenthesizedTable hinfo htable)
  -- expressions
  · exact .expr (c.name hinfo hident)
  · exact .expr (c.parameter hinfo hident)
  · exact .expr (c.literal hinfo (leadingToken?_alike htokens))
  · exact .expr (c.unary hinfo (leadingToken?_alike htokens) hexpression)
  · exact .expr (c.binary hinfo hexpression (infixToken?_alike htokens) hsecond)
  · exact .expr (c.parenthesized hinfo hexpression)
  · rename_i hproperty
    exact .expr (c.property hinfo ((htarget hproperty).findSome? fun _ _ hpiece => hpiece.expr?) hident)
  · exact .expr (c.method hinfo hexpression hident harguments)
  · exact .expr (c.call hinfo hident harguments)
  · exact .expr (c.countAll hinfo hident)
  · exact .arguments (.mk hinfo hexprs)
  · exact .expr (c.cast hinfo hexpression (h.findSome? fun _ _ hpiece => hpiece.typeName?))
  · exact .typeName ⟨hinfo, hident⟩
  · exact .expr (c.isNull hinfo hexpression)
  · exact .expr (c.cases hinfo hinput
      (List.rel_filterMap (fun _ _ hpiece => hpiece.caseLabel?) h) hotherwise)
  · exact .caseLabel (.mk hinfo hexpression hsecond)
  · exact .expr (c.subselect hinfo hquery)
  · exact .expr (c.existence hinfo hquery)
  · exact .expr (c.quantified hinfo hexpression (leadingToken?_alike htokens) hquery)
  · exact .other hinfo

variable {c} {piece piece' : Piece} {pieces pieces' : List Piece}

/-- What corresponds at all places does so where nothing is asked. -/
theorem Corresponds.loose (h : piece.Strict c.toCorrespondence piece') :
    piece.Loose c.toCorrespondence piece' :=
  h.imp (fun _ _ => c.expr_of_anywhere) fun _ _ => c.query_of_sorted

/-- **Corresponding nodes whose pieces correspond at all places** are read alike. -/
theorem Strict.ofNode_strict {info info' : NodeInfo} (hinfo : c.info info info')
    (h : List.Forall₂ (Strict c.toCorrespondence) pieces pieces') :
    Strict c.toCorrespondence (Piece.ofNode info pieces) (Piece.ofNode info' pieces') :=
  .ofNode c hinfo (h.imp fun _ _ => Corresponds.loose)
    (fun _ => h.imp fun _ _ hpiece =>
      hpiece.imp (fun _ _ => c.target_of_anywhere) fun _ _ => c.query_of_sorted)
    (fun _ => h.imp fun _ _ hpiece =>
      hpiece.imp (fun _ _ => c.key_of_anywhere) fun _ _ => c.query_of_sorted)
    (fun _ => h.imp fun _ _ hpiece => hpiece.imp (fun _ _ => c.expr_of_anywhere) fun _ _ => id)

end Piece

namespace Located

variable {c : Congruence}

/-- The nodes inside the parentheses of nodes that are read alike correspond. -/
theorem coreInfo_strict {part part' : Located} {info info' : NodeInfo}
    (h : part.piece.Strict c.toCorrespondence part'.piece) (hinfo : c.info info info') :
    c.info (part.coreInfo info) (part'.coreInfo info') := by
  unfold Located.coreInfo
  generalize part.piece = piece at h
  generalize part'.piece = piece' at h
  cases h with
  | expr h => exact c.expr_core (c.expr_of_anywhere h)
  | query h => exact c.query_core (c.query_of_sorted h)
  | table h => exact c.table_core h
  | _ => exact hinfo

mutual

/-- **What alike trees are read as** corresponds in every congruence. -/
theorem Alike.strict : ∀ {part part' : Located}, part.Alike c.toLikeness part' →
    part.piece.Strict c.toCorrespondence part'.piece
  | .token _, _, .token h => .token h
  | .node _ _, _, .node hinfo _ hchildren => .ofNode_strict hinfo (pieces_strict hchildren)

/-- What several alike trees are read as corresponds one by one. -/
theorem pieces_strict : ∀ {parts parts' : List Located}, List.Forall₂ (Alike c.toLikeness) parts parts' →
    List.Forall₂ (Piece.Strict c.toCorrespondence) (pieces parts) (pieces parts')
  | [], _, .nil => .nil
  | _ :: _, _, .cons h hrest => .cons h.strict (pieces_strict hrest)

end

end Located

end QuerySemantics
