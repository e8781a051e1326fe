/-!
# Kinds of bound nodes

## Main definitions

* `Bound.NodeKind`: the kind of a bound node, and its identifier in listings.
-/

set_option autoImplicit false

namespace QuerySemantics

namespace Bound

/-- **Kind of a bound node.** -/
inductive NodeKind where
  | name
  | unary
  | binary
  | literal
  | parameter
  | call
  | aggregate
  | property
  | method
  | cast
  | isNull
  | caseLabel
  | cases
  | subselect
  | existence
  | quantified
  | slot
  | namedTable
  | derivedTable
  | joinedTable
  | selectColumn
  | wildcard
  | select
  | combined
  | commonTable
  | withTables
  | ordered
  | top
deriving DecidableEq, Repr, Inhabited

/-- The identifier of a kind in listings of bound nodes. -/
def NodeKind.describe : NodeKind → String
  | .name => "NameExpression"
  | .unary => "UnaryExpression"
  | .binary => "BinaryExpression"
  | .literal => "LiteralExpression"
  | .parameter => "VariableExpression"
  | .call => "FunctionInvocationExpression"
  | .aggregate => "AggregateExpression"
  | .property => "PropertyAccessExpression"
  | .method => "MethodInvocationExpression"
  | .cast => "CastExpression"
  | .isNull => "IsNullExpression"
  | .caseLabel => "CaseLabel"
  | .cases => "CaseExpression"
  | .subselect => "SingleRowSubselect"
  | .existence => "ExistsSubselect"
  | .quantified => "AllAnySubselect"
  | .slot => "ValueSlotExpression"
  | .namedTable => "NamedTableReference"
  | .derivedTable => "DerivedTableReference"
  | .joinedTable => "JoinedTableReference"
  | .selectColumn => "SelectColumn"
  | .wildcard => "WildcardSelectColumn"
  | .select => "SelectQuery"
  | .combined => "CombinedQuery"
  | .commonTable => "CommonTableExpression"
  | .withTables => "CommonTableExpressionQuery"
  | .ordered => "OrderedQuery"
  | .top => "TopQuery"

end Bound

end QuerySemantics
