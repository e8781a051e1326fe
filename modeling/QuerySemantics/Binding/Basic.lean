import QuerySemantics.Binding.Call
import QuerySemantics.Binding.Expression
import QuerySemantics.Binding.Literal
import QuerySemantics.Binding.Query

/-!
# Binding

The walk through a query. Each function binds the parts of a node in order, applies the rule for the
node to the bound parts, and records what came out. Parentheses are looked through and get no
record.

Which scope a part is bound in is decided here:

* The `FROM` of a `SELECT` is bound in the scope around the `SELECT`; all else in it sees a new scope
  with the instances of the `FROM`.
* The right side of an inner or left join sees the instances of the left side, and the condition of
  a join those of both sides.
* An `ORDER BY` sees the output columns of its query, and behind them the scope of the `SELECT` if
  it stands directly behind one.
* The query of a common table sees the common tables before it, and the main query all of them.

## Main definitions

* `Binding.expr`, `Binding.table`, `Binding.query`: binding an expression, a table reference and a
  query.
-/

set_option autoImplicit false

namespace QuerySemantics

namespace Binding

/-- A bound query, and the scope that an `ORDER BY` directly behind it looks into. -/
structure ScopedQuery where
  query : Bound.Query
  inner : Scope

/-- Records what a query was bound to. -/
def recordQuery (info : NodeInfo) (query : Bound.Query) (inner : Scope) : BindM ScopedQuery := do
  record info (.query query)
  return ⟨query, inner⟩

/-- Whether the rows of a `SELECT` are to differ from each other. -/
def isDistinct : Option Ast.SelectClause → Bool
  | some (.mk _ distinct _ _) => distinct
  | none => false

/-- The row limit of a `SELECT`. -/
def rowLimit : Option Ast.SelectClause → Option Ast.Top
  | some (.mk _ _ top _) => top
  | none => none

mutual

/-- **Binding an expression.** -/
def expr : Ast.Expr → BindM Bound.Expr
  | .parenthesized _ inner => optionalExpr inner
  | .name info ident => do recordExpr info (← name ident)
  | .parameter info ident => do recordExpr info (← hostVariable info ident)
  | .literal info token => do recordExpr info (← literal token)
  | .unary info operator operand => do
    let operand ← optionalExpr operand
    recordExpr info (← unary info operator operand)
  | .binary info left operator negated right => do
    let left ← optionalExpr left
    let right ← optionalExpr right
    recordExpr info (← binary info operator negated left right)
  | .property info (some target) (some ident) => do
    let decided ←
      match qualifier? target with
      | some (node, token) => qualified node token ident
      | none => pure none
    match decided with
    | some it => recordExpr info it
    | none =>
      let target ← expr target
      recordExpr info (← property target ident)
  | .property info none _ | .property info _ none => do recordExpr info (← missingExpr)
  | .method info target ident arguments => do
    let target ← optionalExpr target
    let arguments ← argumentList arguments
    recordExpr info (← method info ident target arguments)
  | .call info ident arguments => do
    let arguments ← argumentList arguments
    recordExpr info (← call info ident arguments)
  | .countAll info ident => do recordExpr info (← countAll info ident)
  | .cast info operand target => do
    let operand ← optionalExpr operand
    recordExpr info (← cast info operand target)
  | .isNull info operand negated => do
    let operand ← optionalExpr operand
    recordExpr info (.isNull operand negated)
  | .cases info input labels otherwise => do
    let input ← exprIfAny input
    let labels ← caseLabels input labels
    let otherwise ← exprIfAny otherwise
    recordExpr info (← caseOf info input labels otherwise)
  | .subselect info body => do
    let body ← optionalQuery body
    recordExpr info (← subselect info body.query)
  | .existence info body => do
    let body ← optionalQuery body
    recordExpr info (.existence body.query)
  | .quantified info left operator quantifier body => do
    let left ← optionalExpr left
    let body ← optionalQuery body
    recordExpr info (← quantified info operator quantifier left body.query)

/-- Binding an expression that may be missing where one is called for. -/
def optionalExpr : Option Ast.Expr → BindM Bound.Expr
  | some it => expr it
  | none => missingExpr

/-- Binding an expression that need not be there. -/
def exprIfAny : Option Ast.Expr → BindM (Option Bound.Expr)
  | some it => do return some (← expr it)
  | none => return none

/-- Binding expressions one after the other. -/
def exprs : List Ast.Expr → BindM (List Bound.Expr)
  | [] => return []
  | it :: rest => do
    let first ← expr it
    return first :: (← exprs rest)

/-- Binding the arguments of a call. -/
def argumentList : Option Ast.Arguments → BindM (List Bound.Expr)
  | some (.mk _ items) => exprs items
  | none => return []

/-- Binding the labels of a `CASE`. -/
def caseLabels (input : Option Bound.Expr) : List Ast.CaseLabel → BindM (List Bound.CaseLabel)
  | [] => return []
  | .mk info condition result :: rest => do
    let bound ← optionalExpr condition
    checkLabel input condition bound
    let result ← optionalExpr result
    record info (.caseLabel (.mk bound result))
    return .mk bound result :: (← caseLabels input rest)

/-- Binding a condition that need not be there. -/
def conditionIfAny (place : ConditionPlace) : Option Ast.Condition → BindM (Option Bound.Expr)
  | some (.mk info predicate) => do
    let bound ← optionalExpr predicate
    checkCondition info.span place bound
    return some bound
  | none => return none

/-- **Binding a table reference.** -/
def table : Ast.TableRef → BindM Bound.TableRef
  | .parenthesized _ inner => optionalTable inner
  | .named info ident correlation => do recordTable info (← namedTable ident correlation)
  | .derived info body ident => do
    let body ← optionalQuery body
    recordTable info (← derivedTable ident body.query)
  | .joined info left kind right condition => do
    let left ← optionalTable left
    let right ← within (← lateralScope kind left) (optionalTable right)
    let both ← childScope (.tables (left.instances ++ right.instances))
    let condition ← within both do
      recordScope info
      conditionIfAny .on condition
    recordTable info (.joined left kind right condition)

/-- Binding a table reference that may be missing where one is called for. -/
def optionalTable : Option Ast.TableRef → BindM Bound.TableRef
  | some it => table it
  | none => missingTable

/-- Binding table references one after the other. -/
def tables : List Ast.TableRef → BindM (List Bound.TableRef)
  | [] => return []
  | it :: rest => do
    let first ← table it
    return first :: (← tables rest)

/-- Binding a `FROM` clause. -/
def fromClause : Option Ast.FromClause → BindM (List Bound.TableRef)
  | some (.mk _ references) => tables references
  | none => return []

/-- Binding a `GROUP BY` clause. -/
def groupByClause : Option Ast.GroupByClause → BindM (List Bound.Expr)
  | some (.mk _ keys) => exprs keys
  | none => return []

/-- Binding the entries of a select list. -/
def selectItems (instances : List TableInstance) :
    List Ast.SelectItem → BindM (List Bound.SelectItem)
  | [] => return []
  | .column info value correlation :: rest => do
    let bound ← optionalExpr value
    let item ← selectColumn info value correlation bound
    return item :: (← selectItems instances rest)
  | .wildcard info token :: rest => do
    let item ← wildcard info instances token
    return item :: (← selectItems instances rest)

/-- Binding the select list of a `SELECT`. -/
def selectClause (instances : List TableInstance) :
    Option Ast.SelectClause → BindM (List Bound.SelectItem)
  | some (.mk _ _ _ items) => selectItems instances items
  | none => return []

/-- Binding an `ORDER BY` entry behind a query with the given columns. A position refers to the
column there; one that is out of range is bound like any other number. -/
def orderKey (columns : List QueryColumn) : Option Ast.Expr → BindM Bound.Expr
  | none => missingExpr
  | some key =>
    match key.position? with
    | none => expr key
    | some (token, position) =>
      match columnAt? columns position with
      | some column => recordExpr key.info (.slot column.slot)
      | none => do
        report token.span (.orderByPosition position columns.length)
        expr key

/-- Binding the entries of an `ORDER BY`. -/
def orderItems (columns : List QueryColumn) : List Ast.OrderItem → BindM (List Bound.OrderKey)
  | [] => return []
  | .mk _ key descending :: rest => do
    let key ← orderKey columns key
    return .mk key descending :: (← orderItems columns rest)

/-- Binding the definitions of a `WITH`, where those in `earlier` stand before them. -/
def commonTables (earlier : List CommonTable) :
    List Ast.CommonTable → BindM (List Bound.Definition)
  | [] => return []
  | .mk info ident columns body :: rest => do
    let scope ←
      if earlier.isEmpty then currentScope else childScope (.commonTables earlier)
    let body ← within scope do
      recordScope info
      optionalQuery body
    let definition ← define info ident columns body.query
    return definition :: (← commonTables (earlier ++ [definition.symbol]) rest)

/-- **Binding a query.** -/
def query : Ast.Query → BindM ScopedQuery
  | .parenthesized _ inner => do
    let scope ← currentScope
    let bound ← optionalQuery inner
    return ⟨bound.query, scope⟩
  | .select info head source filter grouping having => do
    let references ← fromClause source
    let instances := references.flatMap Bound.TableRef.instances
    let inner ← childScope (.tables instances)
    let bound ← within inner do
      recordScope info
      let filter ← conditionIfAny .filter filter
      let grouping ← groupByClause grouping
      let having ← conditionIfAny .having having
      let items ← selectClause instances head
      return Bound.Query.select (isDistinct head) references filter grouping having items
    recordQuery info (← limit (rowLimit head) bound) inner
  | .combined info left operator right => do
    let scope ← currentScope
    let left ← optionalQuery left
    let right ← optionalQuery right
    recordQuery info (← combine info operator left.query right.query) scope
  | .ordered info input items => do
    let scope ← currentScope
    let input ← optionalQuery input
    let columns := input.query.output
    let inner ← supply (input.inner.child (.queryColumns columns))
    let keys ← within inner do
      recordScope info
      orderItems columns items
    recordQuery info (.ordered input.query keys) scope
  | .withTables info definitions body => do
    let scope ← currentScope
    let definitions ← commonTables [] definitions
    let inner ← childScope (.commonTables (definitions.map Bound.Definition.symbol))
    let body ← within inner do
      recordScope info
      optionalQuery body
    recordQuery info (.withTables definitions body.query) scope

/-- Binding a query that may be missing where one is called for. -/
def optionalQuery : Option Ast.Query → BindM ScopedQuery
  | some it => query it
  | none => do return ⟨.empty, ← currentScope⟩

end

end Binding

end QuerySemantics
