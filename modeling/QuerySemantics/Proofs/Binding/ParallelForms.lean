import QuerySemantics.Proofs.Ast.Congruence
import QuerySemantics.Proofs.Binding.ParallelRules

/-!
# Forms bound in parallel

Parts of two trees are bound in parallel if binding them side by side makes twins of them, and if the same is
known of them before they are bound. Forms of syntax made of such parts are bound in parallel too, so that two
trees that are read alike are bound in parallel.

## Main definitions

* `Ast.Expr.InParallel`, `Ast.TableRef.InParallel`, `Ast.Query.InParallel`: parts bound in
  parallel.
* `Ast.FromClause.InParallel`: clauses that introduce instances that are twins.

## Main results

* `Binding.parallelForms`: forms made of parts that are bound in parallel are so too.
* `Binding.piece_parallel`: what is read alike is bound in parallel.
-/

set_option autoImplicit false

namespace QuerySemantics

open Binding

/-! ## Parts bound in parallel -/

/-- **The instances that a `FROM` clause introduces.** -/
def Binding.origin (it : Option Ast.FromClause) : BindM (List TableInstance) := do
  return (← fromClause it).flatMap Bound.TableRef.instances

section Parts

variable (c : PassComparison)

/-- **Expressions bound in parallel**, and read alike before. -/
structure Ast.Expr.InParallel (it it' : Ast.Expr) : Prop where
  parallel (pairing : Pairing) : Parallel c pairing (expr it) (expr it')
  info : c.info it.info it'.info
  core : c.info it.core.info it'.core.info
  ownName? : it'.ownName? = it.ownName?
  qualifier? : Option.Rel (fun part part' => c.info part.1 part'.1 ∧ c.token part.2 part'.2)
    (qualifier? it) (qualifier? it')
  position? : Option.Rel (fun part part' => c.token part.1 part'.1 ∧ part'.2 = part.2)
    it.position? it'.position?

/-- **Table references bound in parallel.** -/
structure Ast.TableRef.InParallel (it it' : Ast.TableRef) : Prop where
  parallel (pairing : Pairing) : Parallel c pairing (table it) (table it')
  core : c.info it.core.info it'.core.info

/-- **Queries bound in parallel.** -/
structure Ast.Query.InParallel (it it' : Ast.Query) : Prop where
  parallel (pairing : Pairing) : Parallel c pairing (query it) (query it')
  core : c.info it.core.info it'.core.info

/-- **`FROM` clauses bound in parallel** introduce the same instances, whatever their table references
are. -/
def Ast.FromClause.InParallel (it it' : Ast.FromClause) : Prop :=
  ∀ pairing, Parallel c pairing (origin (some it)) (origin (some it'))

/-- The correspondence of parts bound in parallel. -/
abbrev Binding.parallelParts : Correspondence where
  toLikeness := c.toLikeness
  expr := Ast.Expr.InParallel c
  target := Ast.Expr.InParallel c
  key := Ast.Expr.InParallel c
  anywhere := Ast.Expr.InParallel c
  query := Ast.Query.InParallel c
  sorted := Ast.Query.InParallel c
  table := Ast.TableRef.InParallel c
  source := Ast.FromClause.InParallel c

end Parts

namespace Binding

variable {c : PassComparison} {pairing : Pairing}

/-! ## Forms made of parts bound in parallel -/

/-- Expressions that are called for. -/
theorem optionalExpr_parallel {it it' : Option Ast.Expr}
    (h : Option.Rel (Ast.Expr.InParallel c) it it') :
    Parallel c pairing (optionalExpr it) (optionalExpr it') := by
  cases h with
  | none =>
    rw [optionalExpr]
    exact .missingExpr
  | some h =>
    rw [optionalExpr, optionalExpr]
    exact h.parallel pairing

/-- Expressions that need not be there. -/
theorem exprIfAny_parallel {it it' : Option Ast.Expr} (h : Option.Rel (Ast.Expr.InParallel c) it it') :
    Parallel c pairing (exprIfAny it) (exprIfAny it') := by
  cases h with
  | none =>
    rw [exprIfAny]
    exact .pure .none
  | some h =>
    rw [exprIfAny, exprIfAny]
    exact (h.parallel pairing).bind fun _ _ _ _ h => .pure (.some h)

/-- Expressions one after the other. -/
theorem exprs_parallel {items items' : List Ast.Expr}
    (h : List.Forall₂ (Ast.Expr.InParallel c) items items') :
    Parallel c pairing (exprs items) (exprs items') := by
  induction h generalizing pairing with
  | nil =>
    rw [exprs]
    exact .pure .nil
  | cons h _ ih =>
    rw [exprs, exprs]
    exact (h.parallel pairing).bind fun _ _ _ _ h => ih.bind fun _ hle _ _ hrest =>
      .pure (.cons (Twinned.mono hle h) hrest)

/-- The arguments of a call. -/
theorem argumentList_parallel {list list' : Option Ast.Arguments}
    (h : Option.Rel (Ast.Arguments.Corresponds (parallelParts c)) list list') :
    Parallel c pairing (argumentList list) (argumentList list') := by
  cases h with
  | none =>
    rw [argumentList]
    exact .pure .nil
  | some h =>
    obtain ⟨-, hitems⟩ := h
    rw [argumentList, argumentList]
    exact exprs_parallel hitems

/-- The labels of a `CASE`, behind operands that are twins. -/
theorem caseLabels_parallel {labels labels' : List Ast.CaseLabel} {input input' : Option Bound.Expr}
    (h : List.Forall₂ (Ast.CaseLabel.Corresponds (parallelParts c)) labels labels')
    (hinput : Twin c.typed pairing input input') :
    Parallel c pairing (caseLabels input labels) (caseLabels input' labels') := by
  induction h generalizing pairing with
  | nil =>
    rw [caseLabels, caseLabels]
    exact .pure .nil
  | cons h _ ih =>
    obtain ⟨hinfo, hcondition, hresult⟩ := h
    rw [caseLabels, caseLabels]
    refine (optionalExpr_parallel hcondition).bind fun _ hle _ _ hboundCondition => ?_
    refine (Parallel.checkLabel (hcondition.imp fun _ _ h => c.span_info h.info)
      (Twinned.mono hle hinput) hboundCondition).next fun _ hle' => ?_
    refine (optionalExpr_parallel hresult).bind fun _ hle'' _ _ hboundResult => ?_
    refine (Parallel.record hinfo (Bound.Node.twin_caseLabel _ _)).next fun _ hle₃ => ?_
    exact (ih (Twinned.mono (((hle.trans hle').trans hle'').trans hle₃) hinput)).bind
      fun _ hle₄ _ _ hrest => .pure (.cons
        ⟨Twinned.mono (((hle'.trans hle'').trans hle₃).trans hle₄) hboundCondition,
          Twinned.mono (hle₃.trans hle₄) hboundResult⟩ hrest)

/-- The condition of a clause. -/
theorem conditionIfAny_parallel {it it' : Option Ast.Condition} (place : ConditionPlace)
    (h : Option.Rel (Ast.Condition.Corresponds (parallelParts c)) it it') :
    Parallel c pairing (conditionIfAny place it) (conditionIfAny place it') := by
  cases h with
  | none =>
    rw [conditionIfAny]
    exact .pure .none
  | some h =>
    obtain ⟨hinfo, hpredicate⟩ := h
    rw [conditionIfAny, conditionIfAny]
    exact (optionalExpr_parallel hpredicate).bind fun _ _ _ _ h =>
      (Parallel.checkCondition place (c.span_info hinfo) h).next
        fun _ hle => .pure (.some (Twinned.mono hle h))

/-- Table references that are called for. -/
theorem optionalTable_parallel {it it' : Option Ast.TableRef}
    (h : Option.Rel (Ast.TableRef.InParallel c) it it') :
    Parallel c pairing (optionalTable it) (optionalTable it') := by
  cases h with
  | none =>
    rw [optionalTable]
    exact .missingTable
  | some h =>
    rw [optionalTable, optionalTable]
    exact h.parallel pairing

/-- Table references one after the other. -/
theorem tables_parallel {items items' : List Ast.TableRef}
    (h : List.Forall₂ (Ast.TableRef.InParallel c) items items') :
    Parallel c pairing (tables items) (tables items') := by
  induction h generalizing pairing with
  | nil =>
    rw [tables]
    exact .pure .nil
  | cons h _ ih =>
    rw [tables, tables]
    exact (h.parallel pairing).bind fun _ _ _ _ h => ih.bind fun _ hle _ _ hrest =>
      .pure (.cons (Twinned.mono hle h) hrest)

/-- What a `FROM` clause introduces. -/
theorem origin_parallel {it it' : Option Ast.FromClause}
    (h : Option.Rel (Ast.FromClause.InParallel c) it it') :
    Parallel c pairing (origin it) (origin it') := by
  cases h with
  | none =>
    rw [origin, fromClause]
    exact .pure .nil
  | some h => exact h pairing

/-- A `GROUP BY` clause. -/
theorem groupByClause_parallel {it it' : Option Ast.GroupByClause}
    (h : Option.Rel (Ast.GroupByClause.Corresponds (parallelParts c)) it it') :
    Parallel c pairing (groupByClause it) (groupByClause it') := by
  cases h with
  | none =>
    rw [groupByClause]
    exact .pure .nil
  | some h =>
    obtain ⟨-, hkeys⟩ := h
    rw [groupByClause, groupByClause]
    exact exprs_parallel hkeys

/-- The entries of a select list, over instances that are twins. -/
theorem selectItems_parallel {items items' : List Ast.SelectItem} {instances instances' : List TableInstance}
    (h : List.Forall₂ (Ast.SelectItem.Corresponds (parallelParts c)) items items')
    (hinstances : Twin c.typed pairing instances instances') :
    Parallel c pairing (selectItems instances items) (selectItems instances' items') := by
  induction h generalizing pairing with
  | nil =>
    rw [selectItems, selectItems]
    exact .pure .nil
  | cons h _ ih =>
    cases h with
    | @column _ _ value value' _ _ hinfo hvalue hcorrelation =>
      have hname : value'.bind Ast.Expr.ownName? = value.bind Ast.Expr.ownName? := by
        cases hvalue with
        | none => rfl
        | some hvalue => exact hvalue.ownName?
      rw [selectItems, selectItems]
      exact (optionalExpr_parallel hvalue).bind fun _ hle _ _ hbound =>
        (Parallel.selectColumn hinfo hname hcorrelation hbound).bind fun _ hle' _ _ hitem =>
          (ih (Twinned.mono (hle.trans hle') hinstances)).bind fun _ hle'' _ _ hrest =>
            .pure (.cons (Twinned.mono hle'' hitem) hrest)
    | wildcard hinfo htable =>
      rw [selectItems, selectItems]
      exact (Parallel.wildcard hinfo hinstances htable).bind fun _ hle _ _ hitem =>
        (ih (Twinned.mono hle hinstances)).bind fun _ hle' _ _ hrest =>
          .pure (.cons (Twinned.mono hle' hitem) hrest)

/-- The select list of a `SELECT`. -/
theorem selectClause_parallel {it it' : Option Ast.SelectClause} {instances instances' : List TableInstance}
    (h : Option.Rel (Ast.SelectClause.Corresponds (parallelParts c)) it it')
    (hinstances : Twin c.typed pairing instances instances') :
    Parallel c pairing (selectClause instances it) (selectClause instances' it') := by
  cases h with
  | none =>
    rw [selectClause, selectClause]
    exact .pure .nil
  | some h =>
    obtain ⟨-, -, hitems⟩ := h
    rw [selectClause, selectClause]
    exact selectItems_parallel hitems hinstances

/-- The columns at one position are twins. -/
theorem columnAt?_twin {typed : TypedCatalog} {columns columns' : List QueryColumn}
    (h : Twin typed pairing columns columns') (position : Int) :
    Twin typed pairing (columnAt? columns position) (columnAt? columns' position) := by
  unfold columnAt?
  split
  · generalize (position - 1).toNat = place
    induction h generalizing place with
    | nil => exact .none
    | cons h _ ih =>
      cases place with
      | zero => exact .some h
      | succ place => exact ih place
  · exact .none

/-- The key of an `ORDER BY` entry: a position picks columns that are twins. -/
theorem orderKey_parallel {key key' : Option Ast.Expr} {columns columns' : List QueryColumn}
    (h : Option.Rel (Ast.Expr.InParallel c) key key') (hcolumns : Twin c.typed pairing columns columns') :
    Parallel c pairing (orderKey columns key) (orderKey columns' key') := by
  cases h with
  | none =>
    rw [orderKey, orderKey]
    exact .missingExpr
  | @some key key' h =>
    have hposition := h.position?
    rw [orderKey, orderKey]
    revert hposition
    generalize key.position? = position
    generalize key'.position? = position'
    intro hposition
    cases hposition with
    | none => exact h.parallel pairing
    | @some position position' hposition =>
      have hcolumn := columnAt?_twin hcolumns position.2
      dsimp only
      rw [hposition.2]
      revert hcolumn
      generalize columnAt? columns position.2 = column
      generalize columnAt? columns' position.2 = column'
      intro hcolumn
      cases hcolumn with
      | some hcolumn => exact .recordExpr h.info ⟨rfl, QueryColumn.Twins.type hcolumn, .none⟩
      | none =>
        dsimp only
        rw [Twin.length_eq hcolumns]
        exact (Parallel.report _ (c.span_token hposition.1)).next fun pairing' _ => h.parallel pairing'

/-- The entries of an `ORDER BY`. -/
theorem orderItems_parallel {items items' : List Ast.OrderItem} {columns columns' : List QueryColumn}
    (h : List.Forall₂ (Ast.OrderItem.Corresponds (parallelParts c)) items items')
    (hcolumns : Twin c.typed pairing columns columns') :
    Parallel c pairing (orderItems columns items) (orderItems columns' items') := by
  induction h generalizing pairing with
  | nil =>
    rw [orderItems, orderItems]
    exact .pure .nil
  | cons h _ ih =>
    obtain ⟨-, hkey⟩ := h
    rw [orderItems, orderItems]
    exact (orderKey_parallel hkey hcolumns).bind fun _ hle _ _ _ =>
      (ih (Twinned.mono hle hcolumns)).bind fun _ _ _ _ hrest => .pure (.cons trivial hrest)

/-- Queries that are called for. -/
theorem optionalQuery_parallel {it it' : Option Ast.Query}
    (h : Option.Rel (Ast.Query.InParallel c) it it') :
    Parallel c pairing (optionalQuery it) (optionalQuery it') := by
  cases h with
  | none =>
    rw [optionalQuery]
    exact .currentScope fun _ _ hscope => .pure ⟨Bound.Query.twin_empty, hscope⟩
  | some h =>
    rw [optionalQuery, optionalQuery]
    exact h.parallel pairing

/-- The definitions of a `WITH`, behind those before them. -/
theorem commonTables_parallel {items items' : List Ast.CommonTable} {earlier earlier' : List CommonTable}
    (h : List.Forall₂ (Ast.CommonTable.Corresponds (parallelParts c)) items items')
    (hearlier : Twin c.typed pairing earlier earlier') :
    Parallel c pairing (commonTables earlier items) (commonTables earlier' items') := by
  induction h generalizing pairing earlier earlier' with
  | nil =>
    rw [commonTables, commonTables]
    exact .pure .nil
  | @cons _ _ rest rest' h _ ih =>
    cases h with
    | @mk info info' ident ident' columns columns' query query' hinfo hident hcolumns hquery =>
      -- the definition and those behind it, once it is clear which scope its query sees
      have hdefinition : ∀ pairing', pairing ≤ pairing' → ∀ inner inner',
          Twin c.typed pairing' inner inner' → Parallel c pairing' (do
            let body ← within inner do
              recordScope info
              optionalQuery query
            let definition ← define info ident columns body.query
            return definition :: (← commonTables (earlier ++ [definition.symbol]) rest)) (do
            let body ← within inner' do
              recordScope info'
              optionalQuery query'
            let definition ← define info' ident' columns' body.query
            return definition :: (← commonTables (earlier' ++ [definition.symbol]) rest')) := by
        intro pairing' hle inner inner' hinner
        refine (Parallel.within hinner ((Parallel.recordScope info info').next fun _ _ =>
          optionalQuery_parallel hquery)).bind fun _ hle' _ _ hbody => ?_
        refine (Parallel.define hinfo hident hcolumns (ScopedQuery.Twins.query hbody)).bind
          fun pairing'' hle'' definition definition' hdefinition => ?_
        have hvisible : Twin c.typed pairing'' (earlier ++ [definition.symbol])
            (earlier' ++ [definition'.symbol]) :=
          List.rel_append (Twinned.mono ((hle.trans hle').trans hle'') hearlier) (.cons hdefinition .nil)
        exact (ih hvisible).bind fun _ hle₃ _ _ hrest =>
          .pure (.cons (Twinned.mono hle₃ hdefinition) hrest)
      have hempty : earlier'.isEmpty = earlier.isEmpty := by cases hearlier <;> rfl
      rw [commonTables, commonTables, hempty]
      split
      · exact .currentScope fun scope scope' hscope => hdefinition pairing le_rfl scope scope' hscope
      · exact (Parallel.childScope (.commonTables hearlier)).bind hdefinition

/-- The common tables of definitions that are twins. -/
theorem symbols_twin {typed : TypedCatalog} {definitions definitions' : List Bound.Definition}
    (h : Twin typed pairing definitions definitions') :
    Twin typed pairing (definitions.map Bound.Definition.symbol)
      (definitions'.map Bound.Definition.symbol) :=
  List.forall₂_map_left_iff.2 (List.forall₂_map_right_iff.2 h)

end Binding

/-! ## Expressions -/

namespace Ast.Expr.InParallel

variable {c : PassComparison} {it it' : Ast.Expr} {info info' : NodeInfo}

/-- **A form** that nothing is known of before its parts are bound. -/
theorem form (hinfo : c.info it.info it'.info)
    (hparallel : ∀ pairing, Parallel c pairing (expr it) (expr it'))
    (hcore : it.core = it) (hcore' : it'.core = it') (hname : it'.ownName? = it.ownName?)
    (hqualifier : Binding.qualifier? it = none) (hqualifier' : Binding.qualifier? it' = none)
    (hposition : it.position? = none) (hposition' : it'.position? = none) : it.InParallel c it' where
  parallel := hparallel
  info := hinfo
  core := by rw [hcore, hcore']; exact hinfo
  ownName? := hname
  qualifier? := by rw [hqualifier, hqualifier']; exact .none
  position? := by rw [hposition, hposition']; exact .none

/-- Names may stand for each other. -/
theorem name {ident ident' : Option Token} (hinfo : c.info info info')
    (hident : Option.Rel c.token ident ident') :
    (Ast.Expr.name info ident).InParallel c (.name info' ident') := by
  have halike : (Ast.Expr.name info ident).Alike c.toLikeness (.name info' ident') :=
    .name hinfo hident
  refine ⟨fun pairing => ?_, hinfo, hinfo, halike.ownName?, halike.qualifier?, .none⟩
  rw [expr, expr]
  exact (Parallel.name hident).bind fun _ _ _ _ h => .recordExpr hinfo h

/-- Literals may stand for each other. -/
theorem literal {leaf leaf' : Option Token} (hinfo : c.info info info')
    (hleaf : Option.Rel c.token leaf leaf') :
    (Ast.Expr.literal info leaf).InParallel c (.literal info' leaf') := by
  have halike : (Ast.Expr.literal info leaf).Alike c.toLikeness (.literal info' leaf') :=
    .literal hinfo hleaf
  refine ⟨fun pairing => ?_, hinfo, hinfo, rfl, .none, halike.position?⟩
  rw [expr, expr]
  exact (Parallel.literal hleaf).bind fun _ _ _ _ h => .recordExpr hinfo h

/-- Expressions in parentheses may stand for each other if those inside may. -/
theorem parenthesized {inner inner' : Option Ast.Expr} (hinfo : c.info info info')
    (hinner : Option.Rel (Ast.Expr.InParallel c) inner inner') :
    (Ast.Expr.parenthesized info inner).InParallel c (.parenthesized info' inner') := by
  refine ⟨fun pairing => ?_, hinfo, ?_, ?_, .none, .none⟩
  · rw [expr, expr]
    exact optionalExpr_parallel hinner
  · cases hinner with
    | none => exact hinfo
    | some h => exact h.core
  · cases hinner with
    | none => rfl
    | some h => exact h.ownName?

/-- Properties may stand for each other if their targets may. -/
theorem property {owner owner' : Option Ast.Expr} {ident ident' : Option Token}
    (hinfo : c.info info info') (howner : Option.Rel (Ast.Expr.InParallel c) owner owner')
    (hident : Option.Rel c.token ident ident') :
    (Ast.Expr.property info owner ident).InParallel c (.property info' owner' ident') := by
  refine form hinfo (fun pairing => ?_) rfl rfl (Likeness.map_ident_eq hident) rfl rfl rfl rfl
  have hmissing : Parallel c pairing (missingExpr >>= recordExpr info)
      (missingExpr >>= recordExpr info') := Parallel.missingExpr.bind fun _ _ _ _ h => .recordExpr hinfo h
  cases howner with
  | none =>
    rw [expr, expr]
    exact hmissing
  | @some owner owner' howner =>
    cases hident with
    | none =>
      rw [expr, expr]
      · exact hmissing
      · simp
      · simp
    | @some ident ident' hident =>
      -- what is done if the target is still to be bound
      have hundecided : ∀ pairing', Parallel c pairing' (do
          let target ← expr owner
          recordExpr info (← Binding.property target ident)) (do
          let target ← expr owner'
          recordExpr info' (← Binding.property target ident')) := fun pairing' =>
        (howner.parallel pairing').bind fun _ _ _ _ h => (Parallel.property h hident).bind
          fun _ _ _ _ h => .recordExpr hinfo h
      have hqualifier := howner.qualifier?
      rw [expr, expr]
      revert hqualifier
      generalize Binding.qualifier? owner = qualifier
      generalize Binding.qualifier? owner' = qualifier'
      intro hqualifier
      cases hqualifier with
      | none => exact hundecided pairing
      | some hqualifier =>
        refine (Parallel.qualified hqualifier.1 hqualifier.2 hident).bind
          fun pairing' _ decided decided' hdecided => ?_
        cases hdecided with
        | some h => exact .recordExpr hinfo h
        | none => exact hundecided pairing'

end Ast.Expr.InParallel

/-! ## Queries -/

namespace Ast.Query.InParallel

variable {c : PassComparison} {info info' : NodeInfo}

/-- `SELECT`s may stand for each other if their clauses may, one by one. -/
theorem select {head head' : Option SelectClause} {source source' : Option FromClause}
    {filter filter' : Option Condition} {grouping grouping' : Option GroupByClause}
    {having having' : Option Condition} (hinfo : c.info info info')
    (hhead : Option.Rel (SelectClause.Corresponds (parallelParts c)) head head')
    (hsource : Option.Rel (FromClause.InParallel c) source source')
    (hfilter : Option.Rel (Condition.Corresponds (parallelParts c)) filter filter')
    (hgrouping : Option.Rel (GroupByClause.Corresponds (parallelParts c)) grouping grouping')
    (hhaving : Option.Rel (Condition.Corresponds (parallelParts c)) having having') :
    (Ast.Query.select info head source filter grouping having).InParallel c
      (.select info' head' source' filter' grouping' having') := by
  have hdistinct : isDistinct head' = isDistinct head := by
    cases hhead with
    | none => rfl
    | some h => cases h; rfl
  have hlimit : Option.Rel (Top.Alike c.toLikeness) (rowLimit head) (rowLimit head') := by
    cases hhead with
    | none => exact .none
    | some h => cases h; assumption
  refine ⟨fun pairing => ?_, hinfo⟩
  rw [query, query, hdistinct]
  refine Parallel.bindView (·.flatMap Bound.TableRef.instances) (origin_parallel hsource)
    fun pairing' _ references references' hinstances => ?_
  dsimp only
  refine (Parallel.childScope (.tables hinstances)).bind fun _ hle _ _ hinner => ?_
  -- the clauses behind the `FROM` see its instances
  refine (Parallel.within hinner ((Parallel.recordScope info info').next fun _ hle₁ =>
    (conditionIfAny_parallel .filter hfilter).bind fun _ hle₂ _ _ _ =>
      (groupByClause_parallel hgrouping).bind fun _ hle₃ _ _ _ =>
        (conditionIfAny_parallel .having hhaving).bind fun _ hle₄ _ _ _ =>
          (selectClause_parallel hhead (Twinned.mono
            ((((hle.trans hle₁).trans hle₂).trans hle₃).trans hle₄) hinstances)).bind
              fun _ _ _ _ hitems => .pure (Bound.Query.twin_select hitems))).bind
                fun _ hle' _ _ hbound => ?_
  exact (Parallel.limit hlimit hbound).bind fun _ hle'' _ _ hlimited =>
    .recordQuery hinfo hlimited (Twinned.mono (hle'.trans hle'') hinner)

/-- Set operations may stand for each other if their operands may. -/
theorem combined {left left' : Option Ast.Query} {operator : Option SetOperator}
    {right right' : Option Ast.Query} (hinfo : c.info info info')
    (hleft : Option.Rel (Ast.Query.InParallel c) left left')
    (hright : Option.Rel (Ast.Query.InParallel c) right right') :
    (Ast.Query.combined info left operator right).InParallel c
      (.combined info' left' operator right') := by
  refine ⟨fun pairing => ?_, hinfo⟩
  rw [query, query]
  exact .currentScope fun _ _ hscope => (optionalQuery_parallel hleft).bind fun _ hle _ _ hboundLeft =>
    (optionalQuery_parallel hright).bind fun _ hle' _ _ hboundRight =>
      (Parallel.combine operator hinfo (Twinned.mono hle' (ScopedQuery.Twins.query hboundLeft))
        (ScopedQuery.Twins.query hboundRight)).bind fun _ hle'' _ _ hcombined =>
          .recordQuery hinfo hcombined (Twinned.mono ((hle.trans hle').trans hle'') hscope)

/-- Ordered queries may stand for each other if their queries and keys may. -/
theorem ordered {input input' : Option Ast.Query} {items items' : List OrderItem}
    (hinfo : c.info info info') (hinput : Option.Rel (Ast.Query.InParallel c) input input')
    (hitems : List.Forall₂ (OrderItem.Corresponds (parallelParts c)) items items') :
    (Ast.Query.ordered info input items).InParallel c (.ordered info' input' items') := by
  refine ⟨fun pairing => ?_, hinfo⟩
  rw [query, query]
  refine .currentScope fun _ _ hscope => (optionalQuery_parallel hinput).bind
    fun _ hle _ _ hbound => ?_
  have houtput := Bound.Query.Twins.output (ScopedQuery.Twins.query hbound)
  refine (Parallel.supply (.child (ScopedQuery.Twins.inner hbound) (.queryColumns houtput))).bind
    fun _ hle' _ _ hinner => ?_
  refine (Parallel.within hinner ((Parallel.recordScope info info').next fun _ hle₁ =>
    orderItems_parallel hitems (Twinned.mono (hle'.trans hle₁) houtput))).bind
      fun _ hle'' _ _ _ => ?_
  exact .recordQuery hinfo ⟨rfl, Twinned.mono (hle'.trans hle'') houtput⟩
    (Twinned.mono ((hle.trans hle').trans hle'') hscope)

/-- Queries behind a `WITH` may stand for each other if the definitions and the queries may. -/
theorem withTables {tables tables' : List Ast.CommonTable} {body body' : Option Ast.Query}
    (hinfo : c.info info info')
    (htables : List.Forall₂ (Ast.CommonTable.Corresponds (parallelParts c)) tables tables')
    (hbody : Option.Rel (Ast.Query.InParallel c) body body') :
    (Ast.Query.withTables info tables body).InParallel c (.withTables info' tables' body') := by
  refine ⟨fun pairing => ?_, hinfo⟩
  rw [query, query]
  refine .currentScope fun _ _ hscope => (commonTables_parallel htables .nil).bind
    fun _ hle _ _ hdefinitions => ?_
  refine (Parallel.childScope (.commonTables (symbols_twin hdefinitions))).bind
    fun _ hle' _ _ hinner => ?_
  refine (Parallel.within hinner ((Parallel.recordScope info info').next fun _ _ =>
    optionalQuery_parallel hbody)).bind fun _ hle'' _ _ hbound => ?_
  have houtput := Bound.Query.Twins.output (ScopedQuery.Twins.query hbound)
  exact .recordQuery hinfo ⟨rfl, houtput⟩ (Twinned.mono ((hle.trans hle').trans hle'') hscope)

/-- Queries in parentheses may stand for each other if those inside may. -/
theorem parenthesized {inner inner' : Option Ast.Query} (hinfo : c.info info info')
    (hinner : Option.Rel (Ast.Query.InParallel c) inner inner') :
    (Ast.Query.parenthesized info inner).InParallel c (.parenthesized info' inner') := by
  refine ⟨fun pairing => ?_, ?_⟩
  · rw [query, query]
    refine .currentScope fun _ _ hscope => (optionalQuery_parallel hinner).bind
      fun _ hle _ _ hbound => ?_
    have hquery := ScopedQuery.Twins.query hbound
    exact .pure ⟨hquery, Twinned.mono hle hscope⟩
  · cases hinner with
    | none => exact hinfo
    | some h => exact h.core

end Ast.Query.InParallel

/-! ## Table references -/

namespace Ast.TableRef.InParallel

variable {c : PassComparison} {info info' : NodeInfo}

/-- Joins may stand for each other if their operands and conditions may. -/
theorem joined {left left' : Option Ast.TableRef} {kind : JoinKind} {right right' : Option Ast.TableRef}
    {condition condition' : Option Condition} (hinfo : c.info info info')
    (hleft : Option.Rel (Ast.TableRef.InParallel c) left left')
    (hright : Option.Rel (Ast.TableRef.InParallel c) right right')
    (hcondition : Option.Rel (Condition.Corresponds (parallelParts c)) condition condition') :
    (Ast.TableRef.joined info left kind right condition).InParallel c
      (.joined info' left' kind right' condition') := by
  refine ⟨fun pairing => ?_, hinfo⟩
  rw [table, table]
  refine (optionalTable_parallel hleft).bind fun _ _ left left' hleft => ?_
  refine (Parallel.lateralScope kind hleft).bind fun _ hle _ _ hscope => ?_
  refine (Parallel.within hscope (optionalTable_parallel hright)).bind
    fun pairing' hle' right right' hright => ?_
  have hboth : Twin c.typed pairing' (left.instances ++ right.instances)
      (left'.instances ++ right'.instances) :=
    List.rel_append (Twinned.mono (hle.trans hle') (Bound.TableRef.Twins.instances hleft))
      (Bound.TableRef.Twins.instances hright)
  refine (Parallel.childScope (.tables hboth)).bind fun _ hle₃ _ _ hscope => ?_
  refine (Parallel.within hscope ((Parallel.recordScope info info').next fun _ _ =>
    conditionIfAny_parallel .on hcondition)).bind fun _ hle₄ _ _ _ => ?_
  exact .recordTable hinfo ⟨rfl, Twinned.mono (hle₃.trans hle₄) hboth⟩

/-- Table references in parentheses may stand for each other if those inside may. -/
theorem parenthesized {inner inner' : Option Ast.TableRef} (hinfo : c.info info info')
    (hinner : Option.Rel (Ast.TableRef.InParallel c) inner inner') :
    (Ast.TableRef.parenthesized info inner).InParallel c (.parenthesized info' inner') := by
  refine ⟨fun pairing => ?_, ?_⟩
  · rw [table, table]
    exact optionalTable_parallel hinner
  · cases hinner with
    | none => exact hinfo
    | some h => exact h.core

end Ast.TableRef.InParallel

/-! ## The congruence -/

namespace Binding

open Ast

/-- **Forms made of parts bound in parallel** are bound in parallel. -/
def parallelForms (c : PassComparison) : Congruence where
  toCorrespondence := parallelParts c
  expr_of_anywhere := id
  target_of_anywhere := id
  key_of_anywhere := id
  expr_of_target := id
  query_of_sorted := id
  behind helse hleaf h := c.follows_iff helse hleaf h.info
  expr_core h := h.core
  query_core h := h.core
  table_core h := h.core
  name := .name
  parameter hinfo hident := .form hinfo (fun _ => by
    rw [expr, expr]
    exact (Parallel.hostVariable hinfo hident).bind fun _ _ _ _ h => .recordExpr hinfo h)
    rfl rfl (Likeness.map_ident_eq hident) rfl rfl rfl rfl
  literal := .literal
  unary hinfo hoperator hoperand := .form hinfo (fun _ => by
    rw [expr, expr]
    exact (optionalExpr_parallel hoperand).bind fun _ _ _ _ h =>
      (Parallel.unary hinfo hoperator h).bind fun _ _ _ _ h => .recordExpr hinfo h)
    rfl rfl rfl rfl rfl rfl rfl
  binary hinfo hleft hoperator hright := .form hinfo (fun _ => by
    rw [expr, expr]
    exact (optionalExpr_parallel hleft).bind fun _ _ _ _ hleft =>
      (optionalExpr_parallel hright).bind fun _ hle _ _ hright =>
        (Parallel.binary _ hinfo hoperator (Twinned.mono hle hleft) hright).bind
          fun _ _ _ _ h => .recordExpr hinfo h)
    rfl rfl rfl rfl rfl rfl rfl
  parenthesized := .parenthesized
  property := .property
  method hinfo howner hident harguments := .form hinfo (fun _ => by
    rw [expr, expr]
    exact (optionalExpr_parallel howner).bind fun _ _ _ _ howner =>
      (argumentList_parallel harguments).bind fun _ hle _ _ harguments =>
        (Parallel.method hinfo hident (Twinned.mono hle howner) harguments).bind
          fun _ _ _ _ h => .recordExpr hinfo h)
    rfl rfl rfl rfl rfl rfl rfl
  call hinfo hident harguments := .form hinfo (fun _ => by
    rw [expr, expr]
    exact (argumentList_parallel harguments).bind fun _ _ _ _ harguments =>
      (Parallel.call hinfo hident harguments).bind fun _ _ _ _ h => .recordExpr hinfo h)
    rfl rfl rfl rfl rfl rfl rfl
  countAll hinfo hident := .form hinfo (fun _ => by
    rw [expr, expr]
    exact (Parallel.countAll hinfo hident).bind fun _ _ _ _ h => .recordExpr hinfo h)
    rfl rfl rfl rfl rfl rfl rfl
  cast hinfo hoperand htype := .form hinfo (fun _ => by
    rw [expr, expr]
    exact (optionalExpr_parallel hoperand).bind fun _ _ _ _ h =>
      (Parallel.cast hinfo h htype).bind fun _ _ _ _ h => .recordExpr hinfo h)
    rfl rfl rfl rfl rfl rfl rfl
  isNull hinfo hoperand := .form hinfo (fun _ => by
    rw [expr, expr]
    exact (optionalExpr_parallel hoperand).bind fun _ _ _ _ _ =>
      .recordExpr hinfo ⟨rfl, Parallel.plain rfl, .none⟩)
    rfl rfl rfl rfl rfl rfl rfl
  cases hinfo hinput hlabels hotherwise := .form hinfo (fun _ => by
    rw [expr, expr]
    exact (exprIfAny_parallel hinput).bind fun _ _ _ _ hinput =>
      (caseLabels_parallel hlabels hinput).bind fun _ _ _ _ hlabels =>
        (exprIfAny_parallel hotherwise).bind fun _ hle _ _ hotherwise =>
          (Parallel.caseOf hinfo (Twinned.mono hle hlabels) hotherwise).bind
            fun _ _ _ _ h => .recordExpr hinfo h)
    rfl rfl rfl rfl rfl rfl rfl
  subselect hinfo hbody := .form hinfo (fun _ => by
    rw [expr, expr]
    exact (optionalQuery_parallel hbody).bind fun _ _ _ _ hbody =>
      (Parallel.subselect hinfo (ScopedQuery.Twins.query hbody)).bind
        fun _ _ _ _ h => .recordExpr hinfo h)
    rfl rfl rfl rfl rfl rfl rfl
  existence hinfo hbody := .form hinfo (fun _ => by
    rw [expr, expr]
    exact (optionalQuery_parallel hbody).bind fun _ _ _ _ _ =>
      .recordExpr hinfo ⟨rfl, Parallel.plain rfl, .none⟩)
    rfl rfl rfl rfl rfl rfl rfl
  quantified hinfo hleft hoperator hbody := .form hinfo (fun _ => by
    rw [expr, expr]
    exact (optionalExpr_parallel hleft).bind fun _ _ _ _ hleft =>
      (optionalQuery_parallel hbody).bind fun _ hle _ _ hbody =>
        (Parallel.quantified _ hinfo hoperator (Twinned.mono hle hleft)
          (ScopedQuery.Twins.query hbody)).bind fun _ _ _ _ h => .recordExpr hinfo h)
    rfl rfl rfl rfl rfl rfl rfl
  named hinfo hident hcorrelation := ⟨fun _ => by
    rw [table, table]
    exact (Parallel.namedTable hident hcorrelation).bind fun _ _ _ _ h => .recordTable hinfo h, hinfo⟩
  derived hinfo hbody hident := ⟨fun _ => by
    rw [table, table]
    exact (optionalQuery_parallel hbody).bind fun _ _ _ _ hbody =>
      (Parallel.derivedTable hident (ScopedQuery.Twins.query hbody)).bind
        fun _ _ _ _ h => .recordTable hinfo h, hinfo⟩
  joined := .joined
  parenthesizedTable := .parenthesized
  fromClause _ htables pairing := by
    rw [origin, origin, fromClause, fromClause]
    exact (tables_parallel htables).bind fun _ _ _ _ h =>
      .pure (List.rel_flatMap h fun {_ _} h => Bound.TableRef.Twins.instances h)
  select := .select
  combined := .combined
  ordered := .ordered
  withTables := .withTables
  parenthesizedQuery := .parenthesized

/-! ## Passes -/

/-- **What is read alike is bound in parallel.** -/
theorem piece_parallel {c : PassComparison} {pairing : Pairing} {it it' : Piece}
    (h : it.Strict (parallelForms c).toCorrespondence it') :
    Parallel c pairing (piece it) (piece it') := by
  have hquery : ∀ {it it' : Ast.Query}, it.InParallel c it' →
      Parallel c pairing (query it >>= fun _ => pure ()) (query it' >>= fun _ => pure ()) :=
    fun h => (h.parallel pairing).bind fun _ _ _ _ _ => .pure trivial
  have hexpr : ∀ {it it' : Ast.Expr}, it.InParallel c it' →
      Parallel c pairing (expr it >>= fun _ => pure ()) (expr it' >>= fun _ => pure ()) :=
    fun h => (h.parallel pairing).bind fun _ _ _ _ _ => .pure trivial
  cases h with
  | @unit it it' hinfo hunit hexpression =>
    obtain ⟨info, body, expression⟩ := it
    obtain ⟨info', body', expression'⟩ := it'
    cases hunit with
    | some h => exact hquery h
    | none =>
      cases hexpression with
      | some h => exact hexpr h
      | none => exact .pure trivial
  | query h => exact hquery h
  | expr h => exact hexpr h
  | _ => exact .pure trivial

end Binding

end QuerySemantics
