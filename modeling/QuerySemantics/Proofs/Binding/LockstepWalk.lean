import QuerySemantics.Proofs.Binding.LockstepRules
import QuerySemantics.Proofs.Binding.Walk

/-!
# Binding alike trees in lockstep

The walk through a tree and the walk through one that is alike do the same at each node, and see
scopes that answer alike.

## Main definitions

* `Binding.lockstep`: the judgment that binding a node and any that is like it goes in lockstep.

## Main results

* `Binding.lockstep_closed`: the walk through the syntax.
* `Binding.expr_lockstep`, `Binding.table_lockstep`, `Binding.query_lockstep`: alike expressions, table
  references and queries are bound in lockstep.
-/

set_option autoImplicit false

namespace QuerySemantics

namespace Binding

variable {c : Coupling}

/-- The clause with the list of a `SELECT` decides alike whether its rows differ. -/
theorem isDistinct_eq {head head' : Option Ast.SelectClause}
    (h : Option.Rel (Ast.SelectClause.Alike c.toLikeness) head head') :
    isDistinct head' = isDistinct head := by
  cases h with
  | none => rfl
  | some h => cases h; rfl

/-- Alike clauses have alike row limits. -/
theorem rowLimit_alike {head head' : Option Ast.SelectClause}
    (h : Option.Rel (Ast.SelectClause.Alike c.toLikeness) head head') :
    Option.Rel (Ast.Top.Alike c.toLikeness) (rowLimit head) (rowLimit head') := by
  cases h with
  | none => exact .none
  | some h => cases h; assumption

/-- Alike expressions have the same name of their own. -/
theorem ownName?_eq {it it' : Option Ast.Expr} (h : Option.Rel (Ast.Expr.Alike c.toLikeness) it it') :
    it'.bind Ast.Expr.ownName? = it.bind Ast.Expr.ownName? := by
  cases h with
  | none => rfl
  | some h => exact h.ownName?

/-! ## The judgment -/

/-- **In lockstep with the head of a list**: what `all` does first for a list with `it` at its head. -/
def WithHead {α β : Type} (c : Coupling) (all : List α → BindM (List β)) (it : α) (body : BindM β) :
    Prop :=
  ∃ first, (∀ rest, all (it :: rest) = do let value ← first; return value :: (← all rest)) ∧
    ∀ scope, Lockstep c scope body first id

/-- **Binding a node in lockstep** with any that is like it. -/
def lockstep (c : Coupling) : Judgment where
  Expr it body := ∀ {it' scope}, it.Alike c.toLikeness it' → Lockstep c scope body (expr it') id
  Arguments it body := ∀ {it' scope}, it.Alike c.toLikeness it' →
    Lockstep c scope body (argumentList (some it')) id
  Label input it body := ∀ {it'}, it.Alike c.toLikeness it' → WithHead c (caseLabels input) it' body
  Condition place it body := ∀ {it' scope}, it.Alike c.toLikeness it' →
    Lockstep c scope body (conditionIfAny place (some it')) id
  Table it body := ∀ {it' scope}, it.Alike c.toLikeness it' → Lockstep c scope body (table it') id
  Source it body := ∀ {it' scope}, it.Alike c.toLikeness it' →
    Lockstep c scope body (fromClause (some it')) id
  Grouping it body := ∀ {it' scope}, it.Alike c.toLikeness it' →
    Lockstep c scope body (groupByClause (some it')) id
  Item instances it body := ∀ {it'}, it.Alike c.toLikeness it' → WithHead c (selectItems instances) it' body
  Head instances it body := ∀ {it' scope}, it.Alike c.toLikeness it' →
    Lockstep c scope body (selectClause instances (some it')) id
  Key columns it body := ∀ {it' scope}, it.Alike c.toLikeness it' →
    Lockstep c scope body (orderKey columns (some it')) id
  Entry columns it body := ∀ {it'}, it.Alike c.toLikeness it' → WithHead c (orderItems columns) it' body
  Definition earlier it body := ∀ {it'}, it.Alike c.toLikeness it' →
    ∃ first, (∀ rest, commonTables earlier (it' :: rest) = do
        let definition ← first
        return definition :: (← commonTables (earlier ++ [definition.symbol]) rest)) ∧
      ∀ scope, Lockstep c scope body first id
  Query it body := ∀ {it' scope}, it.Alike c.toLikeness it' →
    Lockstep c scope body (query it') c.liftQuery

namespace Lockstep

variable {scope : Scope}

/-! ## Parts -/

section Parts

variable {α β γ : Type} {alike : α → α → Prop}

/-- A part that may be missing, if `all` binds parts that may be missing. -/
theorem calledFor {all : Option α → BindM γ} {view : β → γ} {instead body : BindM β}
    {known : α → BindM β → Prop} {it it' : Option α} (h : CalledFor known instead it body)
    (hit : Option.Rel alike it it') (hmissing : Lockstep c scope instead (all none) view)
    (hgiven : ∀ {it it' body}, known it body → alike it it' →
      Lockstep c scope body (all (some it')) view) : Lockstep c scope body (all it') view := by
  cases h with
  | given h =>
    cases hit with
    | some hit => exact hgiven h hit
  | missing =>
    cases hit
    exact hmissing

/-- Parts one after the other, if `all` binds such parts. -/
theorem inTurn {all : List α → BindM (List β)} {known : α → BindM β → Prop} {items items' : List α}
    {body : BindM (List β)} (h : InTurn known items body) (hitems : List.Forall₂ alike items items')
    (hnil : all [] = return [])
    (hcons : ∀ {it it' first}, known it first → alike it it' → WithHead c all it' first) :
    Lockstep c scope body (all items') id := by
  induction h generalizing items' with
  | nil =>
    cases hitems
    rw [hnil]
    exact .pure _
  | cons hfirst _ ih =>
    cases hitems with
    | cons hit hrest =>
      obtain ⟨first', heq, hfirst⟩ := hcons hfirst hit
      rw [heq]
      exact (hfirst scope).bind fun _ => (ih hrest).bind fun _ => .pure _

end Parts

/-- Expressions that are called for. -/
theorem optionalExpr {it it' : Option Ast.Expr} {body : BindM Bound.Expr}
    (h : (lockstep c).OptionalExpr it body) (hit : Option.Rel (Ast.Expr.Alike c.toLikeness) it it') :
    Lockstep c scope body (optionalExpr it') id :=
  .calledFor h hit (by rw [Binding.optionalExpr]; exact .missingExpr) fun h hit => by
    rw [Binding.optionalExpr]
    exact h hit

/-- Expressions that need not be there. -/
theorem exprIfAny {it it' : Option Ast.Expr} {body : BindM (Option Bound.Expr)}
    (h : IfAny (lockstep c).Expr it body) (hit : Option.Rel (Ast.Expr.Alike c.toLikeness) it it') :
    Lockstep c scope body (exprIfAny it') id := by
  cases h with
  | given h =>
    cases hit with
    | some hit =>
      rw [Binding.exprIfAny]
      exact (h hit).bind fun _ => .pure _
  | missing =>
    cases hit
    rw [Binding.exprIfAny]
    exact .pure _

/-- Expressions one after the other. -/
theorem exprs {items items' : List Ast.Expr} {body : BindM (List Bound.Expr)}
    (h : InTurn (lockstep c).Expr items body)
    (hitems : List.Forall₂ (Ast.Expr.Alike c.toLikeness) items items') :
    Lockstep c scope body (exprs items') id :=
  .inTurn h hitems (by rw [Binding.exprs]) fun h hit =>
    ⟨_, fun _ => by rw [Binding.exprs], fun _ => h hit⟩

/-- The arguments of a call. -/
theorem argumentList {it it' : Option Ast.Arguments} {body : BindM (List Bound.Expr)}
    (h : CalledFor (lockstep c).Arguments (return []) it body)
    (hit : Option.Rel (Ast.Arguments.Alike c.toLikeness) it it') :
    Lockstep c scope body (argumentList it') id :=
  .calledFor h hit (by rw [Binding.argumentList]; exact .pure _) fun h hit => h hit

/-- The labels of a `CASE`. -/
theorem caseLabels {input : Option Bound.Expr} {items items' : List Ast.CaseLabel}
    {body : BindM (List Bound.CaseLabel)} (h : InTurn ((lockstep c).Label input) items body)
    (hitems : List.Forall₂ (Ast.CaseLabel.Alike c.toLikeness) items items') :
    Lockstep c scope body (caseLabels input items') id :=
  .inTurn h hitems (by rw [Binding.caseLabels]) fun h hit => h hit

/-- The condition of a clause. -/
theorem conditionIfAny {place : ConditionPlace} {it it' : Option Ast.Condition}
    {body : BindM (Option Bound.Expr)} (h : CalledFor ((lockstep c).Condition place) (return none) it body)
    (hit : Option.Rel (Ast.Condition.Alike c.toLikeness) it it') :
    Lockstep c scope body (conditionIfAny place it') id :=
  .calledFor h hit (by rw [Binding.conditionIfAny]; exact .pure _) fun h hit => h hit

/-- Table references that are called for. -/
theorem optionalTable {it it' : Option Ast.TableRef} {body : BindM Bound.TableRef}
    (h : (lockstep c).OptionalTable it body)
    (hit : Option.Rel (Ast.TableRef.Alike c.toLikeness) it it') :
    Lockstep c scope body (optionalTable it') id :=
  .calledFor h hit (by rw [Binding.optionalTable]; exact .missingTable) fun h hit => by
    rw [Binding.optionalTable]
    exact h hit

/-- Table references one after the other. -/
theorem tables {items items' : List Ast.TableRef} {body : BindM (List Bound.TableRef)}
    (h : InTurn (lockstep c).Table items body)
    (hitems : List.Forall₂ (Ast.TableRef.Alike c.toLikeness) items items') :
    Lockstep c scope body (tables items') id :=
  .inTurn h hitems (by rw [Binding.tables]) fun h hit =>
    ⟨_, fun _ => by rw [Binding.tables], fun _ => h hit⟩

/-- A `FROM` clause. -/
theorem fromClause {it it' : Option Ast.FromClause} {body : BindM (List Bound.TableRef)}
    (h : CalledFor (lockstep c).Source (return []) it body)
    (hit : Option.Rel (Ast.FromClause.Alike c.toLikeness) it it') :
    Lockstep c scope body (fromClause it') id :=
  .calledFor h hit (by rw [Binding.fromClause]; exact .pure _) fun h hit => h hit

/-- A `GROUP BY` clause. -/
theorem groupByClause {it it' : Option Ast.GroupByClause} {body : BindM (List Bound.Expr)}
    (h : CalledFor (lockstep c).Grouping (return []) it body)
    (hit : Option.Rel (Ast.GroupByClause.Alike c.toLikeness) it it') :
    Lockstep c scope body (groupByClause it') id :=
  .calledFor h hit (by rw [Binding.groupByClause]; exact .pure _) fun h hit => h hit

/-- The entries of a select list. -/
theorem selectItems {instances : List TableInstance} {items items' : List Ast.SelectItem}
    {body : BindM (List Bound.SelectItem)} (h : InTurn ((lockstep c).Item instances) items body)
    (hitems : List.Forall₂ (Ast.SelectItem.Alike c.toLikeness) items items') :
    Lockstep c scope body (selectItems instances items') id :=
  .inTurn h hitems (by rw [Binding.selectItems]) fun h hit => h hit

/-- The select list of a `SELECT`. -/
theorem selectClause {instances : List TableInstance} {it it' : Option Ast.SelectClause}
    {body : BindM (List Bound.SelectItem)} (h : CalledFor ((lockstep c).Head instances) (return []) it body)
    (hit : Option.Rel (Ast.SelectClause.Alike c.toLikeness) it it') :
    Lockstep c scope body (selectClause instances it') id :=
  .calledFor h hit (by rw [Binding.selectClause]; exact .pure _) fun h hit => h hit

/-- The key of an `ORDER BY` entry. -/
theorem orderKey {columns : List QueryColumn} {it it' : Option Ast.Expr} {body : BindM Bound.Expr}
    (h : CalledFor ((lockstep c).Key columns) Binding.missingExpr it body)
    (hit : Option.Rel (Ast.Expr.Alike c.toLikeness) it it') :
    Lockstep c scope body (orderKey columns it') id :=
  .calledFor h hit (by rw [Binding.orderKey]; exact .missingExpr) fun h hit => h hit

/-- The entries of an `ORDER BY`. -/
theorem orderItems {columns : List QueryColumn} {items items' : List Ast.OrderItem}
    {body : BindM (List Bound.OrderKey)} (h : InTurn ((lockstep c).Entry columns) items body)
    (hitems : List.Forall₂ (Ast.OrderItem.Alike c.toLikeness) items items') :
    Lockstep c scope body (orderItems columns items') id :=
  .inTurn h hitems (by rw [Binding.orderItems]) fun h hit => h hit

/-- The definitions of a `WITH`. -/
theorem definitions {earlier : List CommonTable} {items items' : List Ast.CommonTable}
    {body : BindM (List Bound.Definition)}
    (h : DefinedInTurn (lockstep c).Definition earlier items body)
    (hitems : List.Forall₂ (Ast.CommonTable.Alike c.toLikeness) items items') :
    Lockstep c scope body (commonTables earlier items') id := by
  induction h generalizing items' with
  | nil =>
    cases hitems
    rw [commonTables]
    exact .pure _
  | cons hfirst _ ih =>
    cases hitems with
    | cons hit hrest =>
      obtain ⟨first', heq, hfirst⟩ := hfirst hit
      rw [heq]
      exact (hfirst scope).bind fun definition => (ih definition hrest).bind fun _ => .pure _

/-- Queries that are called for. -/
theorem optionalQuery {it it' : Option Ast.Query} {body : BindM ScopedQuery}
    (h : (lockstep c).OptionalQuery it body) (hit : Option.Rel (Ast.Query.Alike c.toLikeness) it it') :
    Lockstep c scope body (optionalQuery it') c.liftQuery := by
  refine .calledFor h hit ?_ fun h hit => ?_
  · rw [Binding.optionalQuery]
    exact .currentScope (.pureView (ScopedQuery.mk .empty scope) c.liftQuery)
  · rw [Binding.optionalQuery]
    exact h hit

end Lockstep

/-! ## The rules -/

/-- Expressions without parts, in lockstep. -/
theorem lockstep_leaves : (lockstep c).Leaves where
  name _ _ _ _ h := by
    cases h with
    | name hinfo hident =>
      rw [expr]
      exact (Lockstep.name hident).bind fun _ => .recordExpr _ hinfo
  parameter _ _ _ _ h := by
    cases h with
    | parameter hinfo hident =>
      rw [expr]
      exact (Lockstep.hostVariable hinfo hident).bind fun _ => .recordExpr _ hinfo
  literal _ _ _ _ h := by
    cases h with
    | literal hinfo htoken =>
      rw [expr]
      exact (Lockstep.literal htoken).bind fun _ => .recordExpr _ hinfo
  countAll _ _ _ _ h := by
    cases h with
    | countAll hinfo hident =>
      rw [expr]
      exact (Lockstep.countAll hinfo hident).bind fun _ => .recordExpr _ hinfo
  nameless _ target _ hnone _ _ h := by
    cases h with
    | property hinfo htarget hident _ =>
      rcases hnone with rfl | rfl
      · cases htarget
        rw [expr]
        exact Lockstep.missingExpr.bind fun _ => .recordExpr _ hinfo
      · cases hident
        cases htarget with
        | none =>
          rw [expr]
          exact Lockstep.missingExpr.bind fun _ => .recordExpr _ hinfo
        | some _ =>
          rw [expr]
          · exact Lockstep.missingExpr.bind fun _ => .recordExpr _ hinfo
          · simp

/-- Operators and the conditions of clauses, in lockstep. -/
theorem lockstep_operations : (lockstep c).Operations where
  parenthesized _ _ _ hinner _ _ h := by
    cases h with
    | parenthesized _ h =>
      rw [expr]
      exact .optionalExpr hinner h
  unary _ _ _ _ hoperand _ _ h := by
    cases h with
    | unary hinfo hoperator h =>
      rw [expr]
      exact (Lockstep.optionalExpr hoperand h).bind fun _ =>
        (Lockstep.unary _ hinfo hoperator).bind fun _ => .recordExpr _ hinfo
  binary _ _ _ _ _ _ _ hleft hright _ _ h := by
    cases h with
    | binary hinfo h hoperator h' =>
      rw [expr]
      exact (Lockstep.optionalExpr hleft h).bind fun _ =>
        (Lockstep.optionalExpr hright h').bind fun _ =>
          (Lockstep.binary _ _ _ hinfo hoperator).bind fun _ => .recordExpr _ hinfo
  cast _ _ _ _ hoperand _ _ h := by
    cases h with
    | cast hinfo h htype =>
      rw [expr]
      exact (Lockstep.optionalExpr hoperand h).bind fun _ =>
        (Lockstep.cast _ hinfo htype).bind fun _ => .recordExpr _ hinfo
  isNull _ _ _ _ hoperand _ _ h := by
    cases h with
    | isNull hinfo h =>
      rw [expr]
      exact (Lockstep.optionalExpr hoperand h).bind fun _ => .recordExpr _ hinfo
  condition _ _ _ _ hpredicate _ _ h := by
    cases h with
    | mk hinfo h =>
      rw [conditionIfAny]
      exact (Lockstep.optionalExpr hpredicate h).bind fun _ =>
        (Lockstep.checkCondition _ _ (c.span_info hinfo)).bind fun _ => .pure _

/-- A `CASE` and its labels, in lockstep. -/
theorem lockstep_branches : (lockstep c).Branches where
  label input _ _ _ _ _ hcondition hresult _ h := by
    cases h with
    | @mk _ info' _ condition' _ result' hinfo h h' =>
      refine ⟨do
        let bound ← optionalExpr condition'
        checkLabel input condition' bound
        let result ← optionalExpr result'
        record info' (.caseLabel (.mk bound result))
        return .mk bound result, fun _ => by rw [caseLabels]; rfl, fun _ => ?_⟩
      exact (Lockstep.optionalExpr hcondition h).bind fun _ =>
        (Lockstep.checkLabel _ _ (h.imp fun _ _ h => c.span_info h.info)).bind fun _ =>
          (Lockstep.optionalExpr hresult h').bind fun _ =>
            (Lockstep.record _ hinfo).bind fun _ => .pure _
  cases _ _ _ _ _ _ _ hinput hlabels hotherwise _ _ h := by
    cases h with
    | cases hinfo h h' h'' =>
      rw [expr]
      exact (Lockstep.exprIfAny hinput h).bind fun input =>
        (Lockstep.caseLabels (hlabels input) h').bind fun _ =>
          (Lockstep.exprIfAny hotherwise h'').bind fun _ =>
            (Lockstep.caseOf _ _ _ hinfo).bind fun _ => .recordExpr _ hinfo

/-- What is done once it is decided whether a qualifier is a table instance. -/
theorem Lockstep.decided {scope : Scope} {info info' : NodeInfo} {rest rest' : BindM Bound.Expr}
    (hinfo : c.info info info') (hrest : Lockstep c scope rest rest' id)
    (decided : Option Bound.Expr) : Lockstep c scope
      (match decided with
        | some it => Binding.recordExpr info it
        | none => rest)
      (match decided with
        | some it => Binding.recordExpr info' it
        | none => rest') id := by
  cases decided with
  | some it => exact .recordExpr it hinfo
  | none => exact hrest

/-- Properties, methods and calls, in lockstep. -/
theorem lockstep_members : (lockstep c).Members where
  property info ident target first hnone hfirst it' scope h := by
    cases h with
    | @property _ info' _ _ _ _ hinfo htarget hident _ =>
      cases htarget with
      | some htarget =>
        cases hident with
        | some hident =>
          rw [expr, htarget.qualifier?.eq_none hnone]
          exact (hfirst htarget).bind fun _ => (Lockstep.property _ hident).bind
            fun _ => .recordExpr _ hinfo
  qualified info node token ident first hfirst it' scope h := by
    cases h with
    | @property _ info' _ _ _ _ hinfo htarget hident hqualifies =>
      cases htarget with
      | some htarget =>
        cases hident with
        | @some _ ident' hident =>
          obtain ⟨⟨node', token'⟩, hqualifier', hnode, htoken⟩ := htarget.qualifier?.exists_right rfl
          cases eq_of_qualifier? hqualifier'
          -- what is done if the target is still to be bound
          have hundecided : Lockstep c scope (do
              let target ← first
              recordExpr info (← property target ident)) (do
              let target ← expr (.name node' (some token'))
              recordExpr info' (← property target ident')) id :=
            (hfirst htarget).bind fun _ => (Lockstep.property _ hident).bind
              fun _ => .recordExpr _ hinfo
          rw [expr, hqualifier']
          rcases c.resolveInstance_lift scope (hqualifies _ _ rfl) with
            hlift | ⟨hsilent, hnone, hadmits⟩
          · exact (Lockstep.qualified hnode htoken hident hlift).bind (.decided hinfo hundecided)
          · -- the first pass makes a property of it, which is not admitted here
            have hproperty : ∀ target, Stuck c scope (do
                let symbol ← propertyNamed target.type ident
                recordExpr info (.property target symbol)) := fun target =>
              .rest fun symbol => .recordExpr (hadmits target symbol)
            exact .of_stuck (.qualified hsilent hnode hnone (.decided hinfo hundecided)
              (.rest hproperty))
  method _ _ _ _ _ _ htarget harguments _ _ h := by
    cases h with
    | method hinfo h hident h' =>
      rw [expr]
      exact (Lockstep.optionalExpr htarget h).bind fun _ =>
        (Lockstep.argumentList harguments h').bind fun _ =>
          (Lockstep.method _ _ hinfo hident).bind fun _ => .recordExpr _ hinfo
  call _ _ _ _ harguments _ _ h := by
    cases h with
    | call hinfo hident h =>
      rw [expr]
      exact (Lockstep.argumentList harguments h).bind fun _ =>
        (Lockstep.call _ hinfo hident).bind fun _ => .recordExpr _ hinfo
  arguments _ _ _ hitems _ _ h := by
    cases h with
    | mk _ h =>
      rw [argumentList]
      exact .exprs hitems h

/-- Expressions with a query in them, in lockstep. -/
theorem lockstep_subqueries : (lockstep c).Subqueries where
  subselect _ _ _ hbody _ _ h := by
    cases h with
    | subselect hinfo h =>
      rw [expr]
      exact (Lockstep.optionalQuery hbody h).bindView fun body =>
        (Lockstep.subselect body.query hinfo).bind fun _ => .recordExpr _ hinfo
  existence _ _ _ hbody _ _ h := by
    cases h with
    | existence hinfo h =>
      rw [expr]
      exact (Lockstep.optionalQuery hbody h).bindView fun _ => .recordExpr _ hinfo
  quantified _ _ _ _ _ _ _ hleft hbody _ _ h := by
    cases h with
    | quantified hinfo h hoperator h' =>
      rw [expr]
      exact (Lockstep.optionalExpr hleft h).bind fun _ =>
        (Lockstep.optionalQuery hbody h').bindView fun body =>
          (Lockstep.quantified _ _ body.query hinfo hoperator).bind fun _ => .recordExpr _ hinfo

/-- Table references, in lockstep. -/
theorem lockstep_tables : (lockstep c).Tables where
  parenthesizedTable _ _ _ hinner _ _ h := by
    cases h with
    | parenthesized _ h =>
      rw [table]
      exact .optionalTable hinner h
  named _ _ _ _ _ h := by
    cases h with
    | named hinfo hident hcorrelation =>
      rw [table]
      exact (Lockstep.namedTable hident hcorrelation).bind fun _ => .recordTable _ hinfo
  derived _ _ _ _ hbody _ _ h := by
    cases h with
    | derived hinfo h hident =>
      rw [table]
      exact (Lockstep.optionalQuery hbody h).bindView fun body =>
        (Lockstep.derivedTable body.query hident).bind fun _ => .recordTable _ hinfo
  joined _ kind _ _ _ _ _ _ hleft hright hcondition _ _ h := by
    cases h with
    | joined hinfo h h' h'' =>
      rw [table]
      exact (Lockstep.optionalTable hleft h).bind fun _ =>
        (Lockstep.lateralScope kind _).bindView fun _ =>
          (Lockstep.within (.optionalTable hright h')).bind fun _ =>
            (Lockstep.childScope _).bindView fun _ =>
              (Lockstep.within ((Lockstep.recordScope hinfo).bind fun _ =>
                .conditionIfAny hcondition h'')).bind fun _ => .recordTable _ hinfo
  source _ _ _ hitems _ _ h := by
    cases h with
    | mk _ h =>
      rw [fromClause]
      exact .tables hitems h

/-- A `SELECT` and its clauses, in lockstep. -/
theorem lockstep_selects : (lockstep c).Selects where
  column _ _ _ _ _ hvalue _ h := by
    cases h with
    | @column _ info' _ value' _ correlation' hinfo h hcorrelation =>
      refine ⟨do
        let bound ← optionalExpr value'
        selectColumn info' value' correlation' bound, fun _ => by rw [selectItems]; rfl, fun _ => ?_⟩
      exact (Lockstep.optionalExpr hvalue h).bind fun _ =>
        .selectColumn _ hinfo (ownName?_eq h) hcorrelation
  wildcard instances _ _ _ h := by
    cases h with
    | wildcard hinfo htable =>
      exact ⟨_, fun _ => by rw [selectItems], fun _ => .wildcard instances hinfo htable⟩
  head _ _ _ _ _ _ hitems _ _ h := by
    cases h with
    | mk _ _ h =>
      rw [selectClause]
      exact .selectItems hitems h
  grouping _ _ _ hkeys _ _ h := by
    cases h with
    | mk _ h =>
      rw [groupByClause]
      exact .exprs hkeys h
  select _ _ _ _ _ _ _ _ _ _ _ hsource hfilter hgrouping hhaving hhead _ _ h := by
    cases h with
    | select hinfo h h₁ h₂ h₃ h₄ =>
      rw [query]
      refine (Lockstep.fromClause hsource h₁).bind fun references => ?_
      dsimp only
      refine (Lockstep.childScope _).bindView fun inner => ?_
      rw [isDistinct_eq h]
      refine (Lockstep.within ((Lockstep.recordScope hinfo).bind fun _ =>
        (Lockstep.conditionIfAny hfilter h₂).bind fun _ =>
          (Lockstep.groupByClause hgrouping h₃).bind fun _ =>
            (Lockstep.conditionIfAny hhaving h₄).bind fun _ =>
              (Lockstep.selectClause (hhead _) h).bind fun _ => .pure _)).bind fun bound => ?_
      exact (Lockstep.limit bound (rowLimit_alike h)).bind fun _ => .recordQuery _ _ hinfo

/-- An `ORDER BY` and its entries, in lockstep. -/
theorem lockstep_orders : (lockstep c).Orders where
  key columns it first hnone hfirst it' scope h := by
    rw [orderKey, h.position?.eq_none hnone]
    exact hfirst h
  position columns info token position column hposition hcolumn it' scope h := by
    obtain ⟨⟨token', _⟩, hposition', htoken, rfl⟩ := h.position?.exists_right hposition
    rw [orderKey, hposition']
    dsimp only
    rw [hcolumn]
    exact .recordExpr _ h.info
  outside columns info token position first hposition hcolumn hfirst it' scope h := by
    obtain ⟨⟨token', _⟩, hposition', htoken, rfl⟩ := h.position?.exists_right hposition
    rw [orderKey, hposition']
    dsimp only
    rw [hcolumn]
    exact (Lockstep.report _ (c.span_token htoken)).bind fun _ => hfirst h
  entry columns _ descending _ _ hkey _ h := by
    cases h with
    | @mk _ _ _ key' _ _ h =>
      refine ⟨do
        let key ← orderKey columns key'
        return .mk key descending, fun _ => by rw [orderItems]; rfl, fun _ => ?_⟩
      exact (Lockstep.orderKey hkey h).bind fun _ => .pure _
  ordered _ _ _ _ _ hinput hitems _ _ h := by
    cases h with
    | ordered hinfo h h' =>
      rw [query]
      exact .currentScope ((Lockstep.optionalQuery hinput h).bindView fun input =>
        (Lockstep.child input.inner _).bindView fun _ =>
          (Lockstep.within ((Lockstep.recordScope hinfo).bind fun _ =>
            .orderItems (hitems input.query.output) h')).bind fun _ => .recordQuery _ _ hinfo)

/-- The other queries and the definitions of a `WITH`, in lockstep. -/
theorem lockstep_queries : (lockstep c).Queries where
  parenthesizedQuery _ _ _ hinner _ scope h := by
    cases h with
    | parenthesized _ h =>
      rw [query]
      exact .currentScope ((Lockstep.optionalQuery hinner h).bindView fun bound =>
        .pureView (ScopedQuery.mk bound.query scope) c.liftQuery)
  combined _ _ _ _ _ _ hleft hright _ _ h := by
    cases h with
    | combined hinfo h h' =>
      rw [query]
      exact .currentScope ((Lockstep.optionalQuery hleft h).bindView fun left =>
        (Lockstep.optionalQuery hright h').bindView fun right =>
          (Lockstep.combine _ left.query right.query hinfo).bind fun _ => .recordQuery _ _ hinfo)
  definition earlier info _ _ _ first hbody _ h := by
    cases h with
    | @mk _ info' _ ident' _ columns' _ body' hinfo hident hcolumns h =>
      refine ⟨do
        let scope ←
          if earlier.isEmpty then currentScope else childScope (.commonTables earlier)
        let body ← within scope do
          recordScope info'
          optionalQuery body'
        define info' ident' columns' body.query, fun _ => ?_, fun scope => ?_⟩
      · rw [commonTables]
        split <;> rfl
      have hwithin : ∀ inner, Lockstep c scope
          (within inner do recordScope info; first)
          (within (c.lift inner) do recordScope info'; optionalQuery body') c.liftQuery :=
        fun inner => .within ((Lockstep.recordScope hinfo).bind fun _ => .optionalQuery hbody h)
      split
      · exact .currentScope ((hwithin scope).bindView fun body => .define body.query hinfo hident hcolumns)
      · exact (Lockstep.childScope _).bindView fun inner =>
          (hwithin inner).bindView fun body => .define body.query hinfo hident hcolumns
  withTables _ _ _ _ _ hdefinitions hbody _ _ h := by
    cases h with
    | withTables hinfo h h' =>
      rw [query]
      exact .currentScope ((Lockstep.definitions hdefinitions h).bind fun _ =>
        (Lockstep.childScope _).bindView fun _ =>
          (Lockstep.within ((Lockstep.recordScope hinfo).bind fun _ =>
            .optionalQuery hbody h')).bindView fun _ => .recordQuery _ _ hinfo)

/-- **Alike nodes are bound in lockstep.** -/
theorem lockstep_closed : (lockstep c).Closed :=
  ⟨lockstep_leaves, lockstep_operations, lockstep_branches, lockstep_members, lockstep_subqueries,
    lockstep_tables, lockstep_selects, lockstep_orders, lockstep_queries⟩

/-! ## Alike nodes -/

section Alike

variable {scope : Scope}

/-- **Alike expressions** are bound in lockstep. -/
theorem expr_lockstep (it : Ast.Expr) {it' : Ast.Expr} (h : it.Alike c.toLikeness it') :
    Lockstep c scope (expr it) (expr it') id :=
  lockstep_closed.expr it h

/-- **Alike table references** are bound in lockstep. -/
theorem table_lockstep (it : Ast.TableRef) {it' : Ast.TableRef} (h : it.Alike c.toLikeness it') :
    Lockstep c scope (table it) (table it') id :=
  lockstep_closed.table it h

/-- Alike `FROM` clauses are bound in lockstep. -/
theorem fromClause_lockstep (it : Option Ast.FromClause) {it' : Option Ast.FromClause}
    (h : Option.Rel (Ast.FromClause.Alike c.toLikeness) it it') :
    Lockstep c scope (fromClause it) (fromClause it') id :=
  .fromClause (lockstep_closed.fromClause it) h

/-- **Alike queries** are bound in lockstep. -/
theorem query_lockstep (it : Ast.Query) {it' : Ast.Query} (h : it.Alike c.toLikeness it') :
    Lockstep c scope (query it) (query it') c.liftQuery :=
  lockstep_closed.query it h

/-- Alike queries that may be missing are bound in lockstep. -/
theorem optionalQuery_lockstep (it : Option Ast.Query) {it' : Option Ast.Query}
    (h : Option.Rel (Ast.Query.Alike c.toLikeness) it it') :
    Lockstep c scope (optionalQuery it) (optionalQuery it') c.liftQuery :=
  .optionalQuery (lockstep_closed.optionalQuery it) h

end Alike

end Binding

end QuerySemantics
