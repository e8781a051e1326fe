import QuerySemantics.Binding.Pass
import QuerySemantics.Binding.Reference

/-!
# Operators, conversions and conditions

The rules for expressions whose parts are bound already: which type they have, and what is reported
if the types of the parts do not fit.

## Main definitions

* `Binding.unary`, `Binding.binary`: operators.
* `Binding.cast`: a `CAST`.
* `Binding.checkCondition`: conditions are truth values.
* `Binding.mergeBranches`: the type of a `CASE`.
* `Binding.singleColumn`: the type of a subselect that stands for a value.
* `Binding.quantified`: a comparison with a subselect.
-/

set_option autoImplicit false

namespace QuerySemantics

namespace Binding

/-! ## Operators -/

/-- The type of a result, if there is one. Otherwise the problem is reported and the type is not
known. -/
def typeOrReport (span : Span) (problem : Problem) (result : Option SqlType) : BindM SqlType := do
  match result with
  | some type => return type
  | none =>
    report span problem
    return .unknown

/-- **Binding a unary operator**, with its operand bound. -/
def unary (info : NodeInfo) (token : Option Token) (operand : Bound.Expr) : BindM Bound.Expr := do
  match token.bind fun it => UnaryOperator.ofToken? it.kind with
  | none => missingExpr
  | some operator =>
    let type ← typeOrReport info.span (.operatorMismatch operator.text [operand.type])
      (operator.result? operand.type)
    return .unary operator operand type

/-- **Binding a binary operator**, with its operands bound. -/
def binary (info : NodeInfo) (token : Option Token) (negated : Bool) (left right : Bound.Expr) :
    BindM Bound.Expr := do
  match token.bind fun it => BinaryOperator.ofToken? negated it.kind with
  | none => missingExpr
  | some operator =>
    let type ← typeOrReport info.span (.operatorMismatch operator.text [left.type, right.type])
      (operator.result? left.type right.type)
    return .binary left operator right type

/-! ## Conversions -/

/-- The type that a type name denotes. Without a name, or with one that denotes nothing, the type is
not known. -/
def typeNamed (ident : Option Token) : BindM SqlType := do
  match ident with
  | none => return .unknown
  | some token =>
    typeOrReport token.span (.unresolvedName .type token.ident)
      ((← currentScope).catalog.resolveType? token.ident)

/-- **Binding a cast**, with its operand bound. -/
def cast (info : NodeInfo) (operand : Bound.Expr) (target : Option Ast.TypeName) :
    BindM Bound.Expr := do
  let type ← typeNamed (target.bind Ast.TypeName.ident)
  let conversion := Conversion.classify operand.type type
  let result ← typeOrReport info.span (.invalidCast operand.type type)
    (if conversion.isPossible then some type else none)
  return .cast operand type conversion result

/-! ## Conditions -/

/-- **Condition check**: reports a condition that is not a truth value. -/
def checkCondition (span : Span) (place : ConditionPlace) (condition : Bound.Expr) :
    BindM Unit := do
  if !condition.type.convertsTo .boolean then
    report span (.conditionNotBoolean place condition.type)

/-- **Label check**: with an operand, a `CASE` compares its labels with it; without one they are
conditions. A label that is not there is not checked. -/
def checkLabel (input : Option Bound.Expr) (written : Option Ast.Expr) (condition : Bound.Expr) :
    BindM Unit := do
  match input, written with
  | _, none => return
  | none, some written => checkCondition written.info.span .when condition
  | some input, some written =>
    if (input.type.common? condition.type).isNone then
      report written.info.span (.caseComparison input.type condition.type)

/-! ## Branches of a case -/

/-- The common type of one branch after another, or the first two types that have none. -/
def mergeFrom (type : SqlType) : List SqlType → Except (SqlType × SqlType) SqlType
  | [] => .ok type
  | branch :: rest =>
    match type.common? branch with
    | some common => mergeFrom common rest
    | none => .error (type, branch)

/-- **Type of a case**: the common type of its branches, as far as their types are known. -/
def mergeBranches (branches : List SqlType) : Except (SqlType × SqlType) SqlType :=
  match branches.filter (!·.isUnknown) with
  | [] => .ok .unknown
  | first :: rest => mergeFrom first rest

/-- The types of the branches of a case. -/
def branchTypes (labels : List Bound.CaseLabel) (otherwise : Option Bound.Expr) : List SqlType :=
  labels.map (·.result.type) ++ otherwise.toList.map Bound.Expr.type

/-- **Binding a case**, with its parts bound. -/
def caseOf (info : NodeInfo) (input : Option Bound.Expr) (labels : List Bound.CaseLabel)
    (otherwise : Option Bound.Expr) : BindM Bound.Expr := do
  match mergeBranches (branchTypes labels otherwise) with
  | .ok type => return .cases input labels otherwise type
  | .error (left, right) =>
    report info.span (.caseBranches left right)
    return .cases input labels otherwise .unknown

/-! ## Subselects -/

/-- **Single column**: the type of the only column of a query. -/
def singleColumn (span : Span) (query : Bound.Query) : BindM SqlType := do
  match query.output with
  | [column] => return column.type
  | columns =>
    report span (.subselectCount columns.length)
    return .unknown

/-- **Binding a subselect** that stands for a value, with its query bound. -/
def subselect (info : NodeInfo) (query : Bound.Query) : BindM Bound.Expr := do
  return .subselect query (← singleColumn info.span query)

/-- **Binding a comparison with a subselect**, with both sides bound. -/
def quantified (info : NodeInfo) (token : Option Token) (quantifier : Quantifier)
    (left : Bound.Expr) (query : Bound.Query) : BindM Bound.Expr := do
  let column ← singleColumn info.span query
  match token.bind fun it => BinaryOperator.comparison? it.kind with
  | none => missingExpr
  | some operator =>
    let _ ← typeOrReport info.span (.operatorMismatch operator.text [left.type, column])
      (operator.result? left.type column)
    return .quantified left operator quantifier query

end Binding

end QuerySemantics
