import QuerySemantics.Proofs.Ast.Congruence
import QuerySemantics.Proofs.Binding.LockstepPass

/-!
# Exchangeable parts

Parts of a tree are exchangeable if binding makes the same of them and reports the same about them. Forms
of syntax made of exchangeable parts are exchangeable again.

What stands in front of a property, in an `ORDER BY` or behind one is looked at before it is bound. There
it takes more to be exchangeable.

## Main definitions

* `Ast.Expr.Exchangeable`, `Ast.TableRef.Exchangeable`, `Ast.Query.Exchangeable`: exchangeable
  expressions, table references and queries.
* `Ast.Expr.Interchangeable`, `Ast.Query.Interchangeable`: exchangeable at all places.

## Main results

* `Binding.exchangeableForms`: forms made of exchangeable parts are exchangeable.
* `Binding.piece_exchange`: what is read alike is bound in lockstep.
-/

set_option autoImplicit false

namespace QuerySemantics

open Binding

/-! ## Exchangeable parts -/

section Parts

variable (like : Likeness) (options : Options)

/-- **Exchangeable expressions**, where nothing is asked of their form. -/
structure Ast.Expr.Exchangeable (it it' : Ast.Expr) : Prop where
  lockstep : ∀ scope, Lockstep (.elsewhere like options) scope (expr it) (expr it') id
  core : like.info it.core.info it'.core.info
  ownName? : it'.ownName? = it.ownName?
  behind : ∀ {leaf leaf' : Token}, leaf.kind = .elseKeyword → like.token leaf leaf' →
    (leaf'.stop ≤ it'.info.start ↔ leaf.stop ≤ it.info.start)

/-- Expressions exchangeable in front of a property: both or none are bare names. -/
structure Ast.Expr.ExchangeableTarget (it it' : Ast.Expr) : Prop
    extends it.Exchangeable like options it' where
  qualifier? : Option.Rel (fun part part' => like.info part.1 part'.1 ∧ like.token part.2 part'.2)
    (qualifier? it) (qualifier? it')

/-- Expressions exchangeable in an `ORDER BY`: both or none are positions. -/
structure Ast.Expr.ExchangeableKey (it it' : Ast.Expr) : Prop
    extends it.Exchangeable like options it' where
  position? : Option.Rel (fun part part' => part'.2 = part.2 ∧ like.info it.info it'.info)
    it.position? it'.position?

/-- **Expressions exchangeable at all places.** -/
structure Ast.Expr.Interchangeable (it it' : Ast.Expr) : Prop
    extends it.ExchangeableTarget like options it', it.ExchangeableKey like options it'

/-- **Exchangeable table references.** -/
structure Ast.TableRef.Exchangeable (it it' : Ast.TableRef) : Prop where
  lockstep : ∀ scope, Lockstep (.elsewhere like options) scope (table it) (table it') id
  core : like.info it.core.info it'.core.info

/-- **Exchangeable queries**, where nobody asks for the scope that an `ORDER BY` behind them sees. -/
structure Ast.Query.Exchangeable (it it' : Ast.Query) : Prop where
  lockstep : ∀ scope, ∃ inner : ScopedQuery → Scope,
    Lockstep (.elsewhere like options) scope (query it) (query it') fun bound =>
      ⟨bound.query, inner bound⟩
  core : like.info it.core.info it'.core.info

/-- **Queries exchangeable at all places.** -/
structure Ast.Query.Interchangeable (it it' : Ast.Query) : Prop
    extends it.Exchangeable like options it' where
  sorted : ∀ scope, Lockstep (.elsewhere like options) scope (query it) (query it') id

/-- Exchangeable `FROM` clauses. -/
def Ast.FromClause.Exchangeable (it it' : Ast.FromClause) : Prop :=
  ∀ scope, Lockstep (.elsewhere like options) scope (fromClause (some it)) (fromClause (some it')) id

/-- The correspondence of exchangeable parts. -/
abbrev Binding.exchangeable : Correspondence where
  toLikeness := like
  expr := Ast.Expr.Exchangeable like options
  target := Ast.Expr.ExchangeableTarget like options
  key := Ast.Expr.ExchangeableKey like options
  anywhere := Ast.Expr.Interchangeable like options
  query := Ast.Query.Exchangeable like options
  sorted := Ast.Query.Interchangeable like options
  table := Ast.TableRef.Exchangeable like options
  source := Ast.FromClause.Exchangeable like options

end Parts

namespace Binding

variable {like : Likeness} {options : Options} {scope : Scope}

/-! ## Forms made of exchangeable parts -/

/-- Expressions that are called for. -/
theorem optionalExpr_exchange {it it' : Option Ast.Expr}
    (h : Option.Rel (Ast.Expr.Exchangeable like options) it it') :
    Lockstep (.elsewhere like options) scope (optionalExpr it) (optionalExpr it') id := by
  cases h with
  | none =>
    rw [optionalExpr]
    exact .missingExpr
  | some h =>
    rw [optionalExpr, optionalExpr]
    exact h.lockstep scope

/-- Expressions that need not be there. -/
theorem exprIfAny_exchange {it it' : Option Ast.Expr}
    (h : Option.Rel (Ast.Expr.Exchangeable like options) it it') :
    Lockstep (.elsewhere like options) scope (exprIfAny it) (exprIfAny it') id := by
  cases h with
  | none =>
    rw [exprIfAny]
    exact .pure _
  | some h =>
    rw [exprIfAny, exprIfAny]
    exact (h.lockstep scope).bind fun _ => .pure _

/-- Expressions one after the other. -/
theorem exprs_exchange {items items' : List Ast.Expr}
    (h : List.Forall₂ (Ast.Expr.Exchangeable like options) items items') :
    Lockstep (.elsewhere like options) scope (exprs items) (exprs items') id := by
  induction h with
  | nil =>
    rw [exprs]
    exact .pure _
  | cons h _ ih =>
    rw [exprs, exprs]
    exact (h.lockstep scope).bind fun _ => ih.bind fun _ => .pure _

/-- The arguments of a call. -/
theorem argumentList_exchange {list list' : Option Ast.Arguments}
    (h : Option.Rel (Ast.Arguments.Corresponds (exchangeable like options)) list list') :
    Lockstep (.elsewhere like options) scope (argumentList list) (argumentList list') id := by
  cases h with
  | none =>
    rw [argumentList]
    exact .pure _
  | some h =>
    obtain ⟨-, hitems⟩ := h
    rw [argumentList, argumentList]
    exact exprs_exchange hitems

/-- The labels of a `CASE`. -/
theorem caseLabels_exchange {labels labels' : List Ast.CaseLabel} (input : Option Bound.Expr)
    (h : List.Forall₂ (Ast.CaseLabel.Corresponds (exchangeable like options)) labels labels') :
    Lockstep (.elsewhere like options) scope (caseLabels input labels) (caseLabels input labels')
      id := by
  induction h with
  | nil =>
    rw [caseLabels]
    exact .pure _
  | cons h _ ih =>
    obtain ⟨hinfo, hcondition, hresult⟩ := h
    rw [caseLabels, caseLabels]
    exact (optionalExpr_exchange hcondition).bind fun _ =>
      (Lockstep.checkLabel _ _ (hcondition.imp fun _ _ _ => trivial)).bind fun _ =>
        (optionalExpr_exchange hresult).bind fun _ => (Lockstep.record _ hinfo).bind fun _ =>
          ih.bind fun _ => .pure _

/-- The condition of a clause. -/
theorem conditionIfAny_exchange {it it' : Option Ast.Condition} (place : ConditionPlace)
    (h : Option.Rel (Ast.Condition.Corresponds (exchangeable like options)) it it') :
    Lockstep (.elsewhere like options) scope (conditionIfAny place it) (conditionIfAny place it')
      id := by
  cases h with
  | none =>
    rw [conditionIfAny]
    exact .pure _
  | some h =>
    obtain ⟨-, hpredicate⟩ := h
    rw [conditionIfAny, conditionIfAny]
    exact (optionalExpr_exchange hpredicate).bind fun _ =>
      (Lockstep.checkCondition _ _ trivial).bind fun _ => .pure _

/-- Table references that are called for. -/
theorem optionalTable_exchange {it it' : Option Ast.TableRef}
    (h : Option.Rel (Ast.TableRef.Exchangeable like options) it it') :
    Lockstep (.elsewhere like options) scope (optionalTable it) (optionalTable it') id := by
  cases h with
  | none =>
    rw [optionalTable]
    exact .missingTable
  | some h =>
    rw [optionalTable, optionalTable]
    exact h.lockstep scope

/-- Table references one after the other. -/
theorem tables_exchange {items items' : List Ast.TableRef}
    (h : List.Forall₂ (Ast.TableRef.Exchangeable like options) items items') :
    Lockstep (.elsewhere like options) scope (tables items) (tables items') id := by
  induction h with
  | nil =>
    rw [tables]
    exact .pure _
  | cons h _ ih =>
    rw [tables, tables]
    exact (h.lockstep scope).bind fun _ => ih.bind fun _ => .pure _

/-- A `FROM` clause. -/
theorem fromClause_exchange {it it' : Option Ast.FromClause}
    (h : Option.Rel (Ast.FromClause.Exchangeable like options) it it') :
    Lockstep (.elsewhere like options) scope (fromClause it) (fromClause it') id := by
  cases h with
  | none =>
    rw [fromClause]
    exact .pure _
  | some h => exact h scope

/-- A `GROUP BY` clause. -/
theorem groupByClause_exchange {it it' : Option Ast.GroupByClause}
    (h : Option.Rel (Ast.GroupByClause.Corresponds (exchangeable like options)) it it') :
    Lockstep (.elsewhere like options) scope (groupByClause it) (groupByClause it') id := by
  cases h with
  | none =>
    rw [groupByClause]
    exact .pure _
  | some h =>
    obtain ⟨-, hkeys⟩ := h
    rw [groupByClause, groupByClause]
    exact exprs_exchange hkeys

/-- The entries of a select list. -/
theorem selectItems_exchange {items items' : List Ast.SelectItem} (instances : List TableInstance)
    (h : List.Forall₂ (Ast.SelectItem.Corresponds (exchangeable like options)) items items') :
    Lockstep (.elsewhere like options) scope (selectItems instances items)
      (selectItems instances items') id := by
  induction h with
  | nil =>
    rw [selectItems]
    exact .pure _
  | cons h _ ih =>
    cases h with
    | @column _ _ value value' _ _ hinfo hvalue hcorrelation =>
      have hname : value'.bind Ast.Expr.ownName? = value.bind Ast.Expr.ownName? := by
        cases hvalue with
        | none => rfl
        | some hvalue => exact hvalue.ownName?
      rw [selectItems, selectItems]
      exact (optionalExpr_exchange hvalue).bind fun _ =>
        (Lockstep.selectColumn _ hinfo hname hcorrelation).bind fun _ => ih.bind fun _ => .pure _
    | wildcard hinfo htable =>
      rw [selectItems, selectItems]
      exact (Lockstep.wildcard instances hinfo htable).bind fun _ => ih.bind fun _ => .pure _

/-- The select list of a `SELECT`. -/
theorem selectClause_exchange {it it' : Option Ast.SelectClause} (instances : List TableInstance)
    (h : Option.Rel (Ast.SelectClause.Corresponds (exchangeable like options)) it it') :
    Lockstep (.elsewhere like options) scope (selectClause instances it) (selectClause instances it')
      id := by
  cases h with
  | none =>
    rw [selectClause]
    exact .pure _
  | some h =>
    obtain ⟨-, -, hitems⟩ := h
    rw [selectClause, selectClause]
    exact selectItems_exchange instances hitems

/-- The key of an `ORDER BY` entry. -/
theorem orderKey_exchange {key key' : Option Ast.Expr} (columns : List QueryColumn)
    (h : Option.Rel (Ast.Expr.ExchangeableKey like options) key key') :
    Lockstep (.elsewhere like options) scope (orderKey columns key) (orderKey columns key') id := by
  cases h with
  | none =>
    rw [orderKey]
    exact .missingExpr
  | @some key key' h =>
    have hposition := h.position?
    rw [orderKey, orderKey]
    revert hposition
    generalize key.position? = position
    generalize key'.position? = position'
    intro hposition
    cases hposition with
    | none => exact h.lockstep scope
    | some hposition =>
      dsimp only
      rw [hposition.1]
      split
      · exact .recordExpr _ hposition.2
      · exact (Lockstep.report _ trivial).bind fun _ => h.lockstep scope

/-- The entries of an `ORDER BY`. -/
theorem orderItems_exchange {items items' : List Ast.OrderItem} (columns : List QueryColumn)
    (h : List.Forall₂ (Ast.OrderItem.Corresponds (exchangeable like options)) items items') :
    Lockstep (.elsewhere like options) scope (orderItems columns items) (orderItems columns items')
      id := by
  induction h with
  | nil =>
    rw [orderItems]
    exact .pure _
  | cons h _ ih =>
    obtain ⟨-, hkey⟩ := h
    rw [orderItems, orderItems]
    exact (orderKey_exchange columns hkey).bind fun _ => ih.bind fun _ => .pure _

/-- Queries that are called for, whatever scope an `ORDER BY` behind them sees. -/
theorem optionalQuery_exchange (scope : Scope) {it it' : Option Ast.Query}
    (h : Option.Rel (Ast.Query.Exchangeable like options) it it') : ∃ inner : ScopedQuery → Scope,
      Lockstep (.elsewhere like options) scope (optionalQuery it) (optionalQuery it') fun bound =>
        ⟨bound.query, inner bound⟩ := by
  cases h with
  | none =>
    rw [optionalQuery]
    exact ⟨ScopedQuery.inner, .currentScope (.pure (ScopedQuery.mk .empty scope))⟩
  | some h =>
    rw [optionalQuery, optionalQuery]
    exact h.lockstep scope

/-- The definitions of a `WITH`, behind those before them. -/
theorem commonTables_exchange {items items' : List Ast.CommonTable} (earlier : List CommonTable)
    (h : List.Forall₂ (Ast.CommonTable.Corresponds (exchangeable like options)) items items') :
    Lockstep (.elsewhere like options) scope (commonTables earlier items)
      (commonTables earlier items') id := by
  induction h generalizing earlier with
  | nil =>
    rw [commonTables]
    exact .pure _
  | @cons _ _ rest rest' h _ ih =>
    cases h with
    | @mk info info' ident ident' columns columns' query query' hinfo hident hcolumns hquery =>
      -- the definition and those behind it, once it is clear which scope its query sees
      have hdefinition : ∀ visible : Scope, Lockstep (.elsewhere like options) scope (do
          let body ← within visible do
            recordScope info
            optionalQuery query
          let definition ← define info ident columns body.query
          return definition :: (← commonTables (earlier ++ [definition.symbol]) rest)) (do
          let body ← within visible do
            recordScope info'
            optionalQuery query'
          let definition ← define info' ident' columns' body.query
          return definition :: (← commonTables (earlier ++ [definition.symbol]) rest')) id := by
        intro visible
        obtain ⟨inner, hbody⟩ := optionalQuery_exchange visible hquery
        have hscope : Lockstep (.elsewhere like options) visible (recordScope info) (recordScope info')
            id := .recordScope hinfo
        have hwithin : Lockstep (.elsewhere like options) scope _ _ _ :=
          .within (hscope.bind fun _ => hbody)
        exact hwithin.bindView fun body => (Lockstep.define body.query hinfo hident hcolumns).bind
          fun definition => (ih _).bind fun _ => .pure _
      rw [commonTables, commonTables]
      split
      · exact .currentScope (hdefinition scope)
      · exact (Lockstep.childScope _).bindView hdefinition

end Binding

/-! ## Expressions -/

namespace Ast.Expr.Interchangeable

variable {like : Likeness} {options : Options} {it it' : Ast.Expr} {info info' : NodeInfo}

/-- Expressions at corresponding nodes that are bound in lockstep, and of which the same is known before,
are exchangeable at all places. -/
theorem of_lockstep (hinfo : like.info it.info it'.info)
    (hlockstep : ∀ scope, Lockstep (.elsewhere like options) scope (expr it) (expr it') id)
    (hcore : like.info it.core.info it'.core.info) (hname : it'.ownName? = it.ownName?)
    (hqualifier : Option.Rel (fun part part' => like.info part.1 part'.1 ∧ like.token part.2 part'.2)
      (qualifier? it) (qualifier? it'))
    (hposition : Option.Rel (fun part part' => part'.2 = part.2) it.position? it'.position?) :
    it.Interchangeable like options it' where
  lockstep := hlockstep
  core := hcore
  ownName? := hname
  behind := fun helse hleaf => like.follows_iff helse hleaf hinfo
  qualifier? := hqualifier
  position? := hposition.imp fun _ _ h => ⟨h, hinfo⟩

/-- **A form** that nothing is known of before its parts are bound. -/
theorem form (hinfo : like.info it.info it'.info)
    (hlockstep : ∀ scope, Lockstep (.elsewhere like options) scope (expr it) (expr it') id)
    (hcore : it.core = it) (hcore' : it'.core = it') (hname : it'.ownName? = it.ownName?)
    (hqualifier : qualifier? it = none) (hqualifier' : qualifier? it' = none)
    (hposition : it.position? = none) (hposition' : it'.position? = none) :
    it.Interchangeable like options it' := by
  refine of_lockstep hinfo hlockstep (by rw [hcore, hcore']; exact hinfo) hname ?_ ?_
  · rw [hqualifier, hqualifier']
    exact .none
  · rw [hposition, hposition']
    exact .none

/-- Names may stand for each other at any place. -/
theorem name {ident ident' : Option Token} (hinfo : like.info info info')
    (hident : Option.Rel like.token ident ident') :
    (Ast.Expr.name info ident).Interchangeable like options (.name info' ident') := by
  have halike : (Ast.Expr.name info ident).Alike like (.name info' ident') := .name hinfo hident
  exact of_lockstep hinfo
    (fun scope => expr_lockstep (c := .elsewhere like options) _ halike) hinfo
    halike.ownName? halike.qualifier? .none

/-- Literals may stand for each other at any place. -/
theorem literal {leaf leaf' : Option Token} (hinfo : like.info info info')
    (hleaf : Option.Rel like.token leaf leaf') :
    (Ast.Expr.literal info leaf).Interchangeable like options (.literal info' leaf') := by
  have halike : (Ast.Expr.literal info leaf).Alike like (.literal info' leaf') := .literal hinfo hleaf
  exact of_lockstep hinfo
    (fun scope => expr_lockstep (c := .elsewhere like options) _ halike) hinfo rfl
    .none (halike.position?.imp fun _ _ h => h.2)

/-- Expressions in parentheses may stand for each other at any place if those inside may anywhere: what
is looked at from outside does not look through parentheses. -/
theorem parenthesized {inner inner' : Option Ast.Expr} (hinfo : like.info info info')
    (hinner : Option.Rel (Ast.Expr.Exchangeable like options) inner inner') :
    (Ast.Expr.parenthesized info inner).Interchangeable like options (.parenthesized info' inner') := by
  refine of_lockstep hinfo (fun scope => ?_) ?_ ?_ .none .none
  · rw [expr, expr]
    exact optionalExpr_exchange hinner
  · cases hinner with
    | none => exact hinfo
    | some h => exact h.core
  · cases hinner with
    | none => rfl
    | some h => exact h.ownName?

/-- Properties may stand for each other if their targets may as targets. -/
theorem property {owner owner' : Option Ast.Expr} {ident ident' : Option Token}
    (hinfo : like.info info info')
    (howner : Option.Rel (Ast.Expr.ExchangeableTarget like options) owner owner')
    (hident : Option.Rel like.token ident ident') :
    (Ast.Expr.property info owner ident).Interchangeable like options
      (.property info' owner' ident') := by
  refine form hinfo (fun scope => ?_) rfl rfl (Likeness.map_ident_eq hident) rfl rfl rfl rfl
  have hmissing : Lockstep (.elsewhere like options) scope (missingExpr >>= recordExpr info)
      (missingExpr >>= recordExpr info') id := Lockstep.missingExpr.bind fun _ => .recordExpr _ hinfo
  cases howner with
  | none =>
    rw [expr, expr]
    exact hmissing
  | @some owner owner' howner =>
    cases hident with
    | none =>
      rw [expr, expr]
      · exact hmissing
      · simp
      · simp
    | @some ident ident' hident =>
      -- what is done if the target is still to be bound
      have hundecided : Lockstep (.elsewhere like options) scope (do
          let target ← expr owner
          recordExpr info (← Binding.property target ident)) (do
          let target ← expr owner'
          recordExpr info' (← Binding.property target ident')) id :=
        (howner.lockstep scope).bind fun _ => (Lockstep.property _ hident).bind fun _ =>
          .recordExpr _ hinfo
      have hqualifier := howner.qualifier?
      rw [expr, expr]
      revert hqualifier
      generalize qualifier? owner = qualifier
      generalize qualifier? owner' = qualifier'
      intro hqualifier
      cases hqualifier with
      | none => exact hundecided
      | some hqualifier =>
        refine (Lockstep.qualified hqualifier.1 hqualifier.2 hident rfl).bind fun decided => ?_
        cases decided with
        | some it => exact .recordExpr it hinfo
        | none => exact hundecided

end Ast.Expr.Interchangeable

/-! ## Queries -/

namespace Ast.Query.Interchangeable

variable {like : Likeness} {options : Options} {it it' : Ast.Query} {info info' : NodeInfo}

/-- Queries that are bound in lockstep together with their scopes. -/
theorem of_lockstep
    (hlockstep : ∀ scope, Lockstep (.elsewhere like options) scope (query it) (query it') id)
    (hcore : like.info it.core.info it'.core.info) : it.Interchangeable like options it' where
  lockstep scope := ⟨ScopedQuery.inner, hlockstep scope⟩
  core := hcore
  sorted := hlockstep

/-- `SELECT`s may stand for each other if their clauses may, one by one. -/
theorem select {head head' : Option SelectClause} {origin origin' : Option FromClause}
    {filter filter' : Option Condition} {grouping grouping' : Option GroupByClause}
    {having having' : Option Condition} (hinfo : like.info info info')
    (hhead : Option.Rel (SelectClause.Corresponds (exchangeable like options)) head head')
    (horigin : Option.Rel (FromClause.Exchangeable like options) origin origin')
    (hfilter : Option.Rel (Condition.Corresponds (exchangeable like options)) filter filter')
    (hgrouping : Option.Rel (GroupByClause.Corresponds (exchangeable like options)) grouping grouping')
    (hhaving : Option.Rel (Condition.Corresponds (exchangeable like options)) having having') :
    (Ast.Query.select info head origin filter grouping having).Interchangeable like options
      (.select info' head' origin' filter' grouping' having') := by
  have hdistinct : isDistinct head' = isDistinct head := by
    cases hhead with
    | none => rfl
    | some h => cases h; rfl
  have hlimit : Option.Rel (Top.Alike like) (rowLimit head) (rowLimit head') := by
    cases hhead with
    | none => exact .none
    | some h => cases h; assumption
  refine of_lockstep (fun scope => ?_) hinfo
  rw [query, query, hdistinct]
  refine (fromClause_exchange horigin).bind fun references => ?_
  dsimp only
  refine (Lockstep.childScope _).bindView fun inner => ?_
  refine (Lockstep.within ((Lockstep.recordScope hinfo).bind fun _ =>
    (conditionIfAny_exchange .filter hfilter).bind fun _ =>
      (groupByClause_exchange hgrouping).bind fun _ =>
        (conditionIfAny_exchange .having hhaving).bind fun _ =>
          (selectClause_exchange _ hhead).bind fun _ => .pure _)).bind fun bound => ?_
  exact (Lockstep.limit bound hlimit).bind fun _ => .recordQuery _ _ hinfo

/-- Set operations may stand for each other if their operands may. -/
theorem combined {left left' : Option Ast.Query} {operator : Option SetOperator}
    {right right' : Option Ast.Query} (hinfo : like.info info info')
    (hleft : Option.Rel (Ast.Query.Exchangeable like options) left left')
    (hright : Option.Rel (Ast.Query.Exchangeable like options) right right') :
    (Ast.Query.combined info left operator right).Interchangeable like options
      (.combined info' left' operator right') := by
  refine of_lockstep (fun scope => ?_) hinfo
  obtain ⟨_, hleft⟩ := optionalQuery_exchange scope hleft
  obtain ⟨_, hright⟩ := optionalQuery_exchange scope hright
  rw [query, query]
  exact .currentScope (hleft.bindView fun left => hright.bindView fun right =>
    (Lockstep.combine _ left.query right.query hinfo).bind fun _ => .recordQuery _ _ hinfo)

/-- Ordered queries may stand for each other if their queries may behind an `ORDER BY`, and their keys
may. -/
theorem ordered {input input' : Option Ast.Query} {items items' : List OrderItem}
    (hinfo : like.info info info')
    (hinput : Option.Rel (Ast.Query.Interchangeable like options) input input')
    (hitems : List.Forall₂ (OrderItem.Corresponds (exchangeable like options)) items items') :
    (Ast.Query.ordered info input items).Interchangeable like options
      (.ordered info' input' items') := by
  refine of_lockstep (fun scope => ?_) hinfo
  have hbody : Lockstep (.elsewhere like options) scope (optionalQuery input) (optionalQuery input')
      id := by
    cases hinput with
    | none =>
      rw [optionalQuery]
      exact .currentScope (.pure (ScopedQuery.mk .empty scope))
    | some h =>
      rw [optionalQuery, optionalQuery]
      exact h.sorted scope
  rw [query, query]
  exact .currentScope (hbody.bind fun input => (Lockstep.child input.inner _).bindView fun _ =>
    (Lockstep.within ((Lockstep.recordScope hinfo).bind fun _ =>
      orderItems_exchange input.query.output hitems)).bind fun _ => .recordQuery _ _ hinfo)

/-- Queries behind a `WITH` may stand for each other if the definitions and the queries may. -/
theorem withTables {tables tables' : List Ast.CommonTable} {body body' : Option Ast.Query}
    (hinfo : like.info info info')
    (htables : List.Forall₂ (Ast.CommonTable.Corresponds (exchangeable like options)) tables tables')
    (hbody : Option.Rel (Ast.Query.Exchangeable like options) body body') :
    (Ast.Query.withTables info tables body).Interchangeable like options
      (.withTables info' tables' body') := by
  refine of_lockstep (fun scope => ?_) hinfo
  rw [query, query]
  refine .currentScope ((commonTables_exchange [] htables).bind fun definitions =>
    (Lockstep.childScope _).bindView fun inner => ?_)
  obtain ⟨_, hbody⟩ := optionalQuery_exchange inner hbody
  have hwithin : Lockstep (.elsewhere like options) scope _ _ _ :=
    .within ((Lockstep.recordScope hinfo).bind fun _ => hbody)
  exact hwithin.bindView fun _ => .recordQuery _ _ hinfo

/-- Queries in parentheses may stand for each other at any place if those inside may anywhere. -/
theorem parenthesized {inner inner' : Option Ast.Query} (hinfo : like.info info info')
    (hinner : Option.Rel (Ast.Query.Exchangeable like options) inner inner') :
    (Ast.Query.parenthesized info inner).Interchangeable like options
      (.parenthesized info' inner') := by
  refine of_lockstep (fun scope => ?_) ?_
  · obtain ⟨_, hbody⟩ := optionalQuery_exchange scope hinner
    rw [query, query]
    exact .currentScope (hbody.bindView fun bound => .pure (ScopedQuery.mk bound.query scope))
  · cases hinner with
    | none => exact hinfo
    | some h => exact h.core

end Ast.Query.Interchangeable

/-! ## The congruence -/

namespace Binding

open Ast

/-- **Exchangeable parts make exchangeable forms.** -/
def exchangeableForms (like : Likeness) (options : Options) : Congruence where
  toCorrespondence := exchangeable like options
  expr_of_anywhere h := h.toExchangeable
  target_of_anywhere h := h.toExchangeableTarget
  key_of_anywhere h := h.toExchangeableKey
  expr_of_target h := h.toExchangeable
  query_of_sorted h := h.toExchangeable
  behind helse hleaf h := h.behind helse hleaf
  expr_core h := h.core
  query_core h := h.core
  table_core h := h.core
  name := .name
  parameter hinfo hident := .form hinfo (fun scope => by
    rw [expr, expr]
    exact (Lockstep.hostVariable hinfo hident).bind fun _ => .recordExpr _ hinfo)
    rfl rfl (Likeness.map_ident_eq hident) rfl rfl rfl rfl
  literal := .literal
  unary hinfo hoperator hoperand := .form hinfo (fun scope => by
    rw [expr, expr]
    exact (optionalExpr_exchange hoperand).bind fun _ =>
      (Lockstep.unary _ hinfo hoperator).bind fun _ => .recordExpr _ hinfo)
    rfl rfl rfl rfl rfl rfl rfl
  binary hinfo hleft hoperator hright := .form hinfo (fun scope => by
    rw [expr, expr]
    exact (optionalExpr_exchange hleft).bind fun _ => (optionalExpr_exchange hright).bind fun _ =>
      (Lockstep.binary _ _ _ hinfo hoperator).bind fun _ => .recordExpr _ hinfo)
    rfl rfl rfl rfl rfl rfl rfl
  parenthesized := .parenthesized
  property := .property
  method hinfo howner hident harguments := .form hinfo (fun scope => by
    rw [expr, expr]
    exact (optionalExpr_exchange howner).bind fun _ =>
      (argumentList_exchange harguments).bind fun _ =>
        (Lockstep.method _ _ hinfo hident).bind fun _ => .recordExpr _ hinfo)
    rfl rfl rfl rfl rfl rfl rfl
  call hinfo hident harguments := .form hinfo (fun scope => by
    rw [expr, expr]
    exact (argumentList_exchange harguments).bind fun _ =>
      (Lockstep.call _ hinfo hident).bind fun _ => .recordExpr _ hinfo)
    rfl rfl rfl rfl rfl rfl rfl
  countAll hinfo hident := .form hinfo (fun scope => by
    rw [expr, expr]
    exact (Lockstep.countAll hinfo hident).bind fun _ => .recordExpr _ hinfo)
    rfl rfl rfl rfl rfl rfl rfl
  cast hinfo hoperand htype := .form hinfo (fun scope => by
    rw [expr, expr]
    exact (optionalExpr_exchange hoperand).bind fun _ =>
      (Lockstep.cast _ hinfo htype).bind fun _ => .recordExpr _ hinfo)
    rfl rfl rfl rfl rfl rfl rfl
  isNull hinfo hoperand := .form hinfo (fun scope => by
    rw [expr, expr]
    exact (optionalExpr_exchange hoperand).bind fun _ => .recordExpr _ hinfo)
    rfl rfl rfl rfl rfl rfl rfl
  cases hinfo hinput hlabels hotherwise := .form hinfo (fun scope => by
    rw [expr, expr]
    exact (exprIfAny_exchange hinput).bind fun _ => (caseLabels_exchange _ hlabels).bind fun _ =>
      (exprIfAny_exchange hotherwise).bind fun _ =>
        (Lockstep.caseOf _ _ _ hinfo).bind fun _ => .recordExpr _ hinfo)
    rfl rfl rfl rfl rfl rfl rfl
  subselect hinfo hbody := .form hinfo (fun scope => by
    obtain ⟨_, hbody⟩ := optionalQuery_exchange scope hbody
    rw [expr, expr]
    exact hbody.bindView fun body => (Lockstep.subselect body.query hinfo).bind fun _ =>
      .recordExpr _ hinfo)
    rfl rfl rfl rfl rfl rfl rfl
  existence hinfo hbody := .form hinfo (fun scope => by
    obtain ⟨_, hbody⟩ := optionalQuery_exchange scope hbody
    rw [expr, expr]
    exact hbody.bindView fun _ => .recordExpr _ hinfo)
    rfl rfl rfl rfl rfl rfl rfl
  quantified hinfo hleft hoperator hbody := .form hinfo (fun scope => by
    obtain ⟨_, hbody⟩ := optionalQuery_exchange scope hbody
    rw [expr, expr]
    exact (optionalExpr_exchange hleft).bind fun _ => hbody.bindView fun body =>
      (Lockstep.quantified _ _ body.query hinfo hoperator).bind fun _ => .recordExpr _ hinfo)
    rfl rfl rfl rfl rfl rfl rfl
  named hinfo hident hcorrelation := ⟨fun scope => by
    rw [table, table]
    exact (Lockstep.namedTable hident hcorrelation).bind fun _ => .recordTable _ hinfo, hinfo⟩
  derived hinfo hbody hident := ⟨fun scope => by
    obtain ⟨_, hbody⟩ := optionalQuery_exchange scope hbody
    rw [table, table]
    exact hbody.bindView fun body => (Lockstep.derivedTable body.query hident).bind fun _ =>
      .recordTable _ hinfo, hinfo⟩
  joined {_ _ _ _ kind _ _ _ _} hinfo hleft hright hcondition := ⟨fun scope => by
    rw [table, table]
    exact (optionalTable_exchange hleft).bind fun _ => (Lockstep.lateralScope kind _).bindView fun _ =>
      (Lockstep.within (optionalTable_exchange hright)).bind fun _ =>
        (Lockstep.childScope _).bindView fun _ =>
          (Lockstep.within ((Lockstep.recordScope hinfo).bind fun _ =>
            conditionIfAny_exchange .on hcondition)).bind fun _ => .recordTable _ hinfo, hinfo⟩
  parenthesizedTable hinfo hinner := by
    refine ⟨fun scope => ?_, ?_⟩
    · rw [table, table]
      exact optionalTable_exchange hinner
    · cases hinner with
      | none => exact hinfo
      | some h => exact h.core
  fromClause _ htables scope := by
    rw [fromClause, fromClause]
    exact tables_exchange htables
  select := .select
  combined := .combined
  ordered := .ordered
  withTables := .withTables
  parenthesizedQuery := .parenthesized

/-! ## Passes -/

/-- **Exchangeable pieces** are bound in lockstep. -/
theorem piece_exchange {like : Likeness} {options : Options} {scope : Scope} {it it' : Piece}
    (h : it.Strict (exchangeableForms like options).toCorrespondence it') :
    Lockstep (.elsewhere like options) scope (piece it) (piece it') id := by
  have hquery : ∀ {it it' : Ast.Query}, it.Exchangeable like options it' →
      Lockstep (.elsewhere like options) scope (query it >>= fun _ => pure ())
        (query it' >>= fun _ => pure ()) id := fun h => by
    obtain ⟨_, h⟩ := h.lockstep scope
    exact h.bindView fun _ => .pure _
  have hexpr : ∀ {it it' : Ast.Expr}, it.Exchangeable like options it' →
      Lockstep (.elsewhere like options) scope (expr it >>= fun _ => pure ())
        (expr it' >>= fun _ => pure ()) id := fun h => (h.lockstep scope).bind fun _ => .pure _
  cases h with
  | @unit it it' hinfo hunit hexpression =>
    obtain ⟨info, body, expression⟩ := it
    obtain ⟨info', body', expression'⟩ := it'
    cases hunit with
    | some h => exact hquery h
    | none =>
      cases hexpression with
      | some h => exact hexpr h
      | none => exact .pure _
  | query h => exact hquery h.toExchangeable
  | expr h => exact hexpr h.toExchangeable
  | _ => exact .pure _

end Binding

end QuerySemantics
