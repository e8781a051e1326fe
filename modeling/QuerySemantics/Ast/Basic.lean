import QuerySemantics.Tree.Located

/-!
# Abstract syntax

Queries as the grammar sees them: each node with the pieces that its form calls for, without blanks
and punctuation. Any piece may be missing, because a query may be unfinished; a missing piece is
`none`. Every node keeps its node information, so that what is found out about it can be tied to its
place in the tree.

## Main definitions

* `Ast.Expr`, `Ast.Query`, `Ast.TableRef`: expressions, queries and table references, with the
  clauses and list entries between them.
* `Ast.Unit`: the root of a tree.
* `Ast.Expr.info` and its fellows: the node that a piece was read from.
* `Ast.Expr.core` and its fellows: what stands inside a nest of parentheses.
-/

set_option autoImplicit false

namespace QuerySemantics

/-- **Set operator** between two queries. -/
inductive SetOperator where
  | union
  | unionAll
  | intersect
  | except
deriving DecidableEq, Repr, Inhabited

/-- The identifier of a set operator in listings of nodes. -/
def SetOperator.describe : SetOperator → String
  | .union => "Union"
  | .unionAll => "UnionAll"
  | .intersect => "Intersect"
  | .except => "Except"

/-- **Kind of join** of two table references. -/
inductive JoinKind where
  | inner
  | leftOuter
  | rightOuter
  | fullOuter
  | cross
deriving DecidableEq, Repr, Inhabited

/-- The identifier of a kind of join in listings of nodes. -/
def JoinKind.describe : JoinKind → String
  | .inner => "Inner"
  | .leftOuter => "LeftOuter"
  | .rightOuter => "RightOuter"
  | .fullOuter => "FullOuter"
  | .cross => "Cross"

/-- **Quantifier** of a comparison with a subselect. -/
inductive Quantifier where
  | all
  | any
deriving DecidableEq, Repr, Inhabited

/-- The identifier of a quantifier in listings of nodes. -/
def Quantifier.describe : Quantifier → String
  | .all => "All"
  | .any => "Any"

namespace Ast

/-! ## Leaves -/

/-- The name after a select column or a table, with or without `AS`. -/
structure Alias where
  info : NodeInfo
  ident : Option Token

/-- A row limit: `TOP n`, possibly with ties. -/
structure Top where
  info : NodeInfo
  value : Option Token
  withTies : Bool

/-- The name of a type. -/
structure TypeName where
  info : NodeInfo
  ident : Option Token

/-- The column names of a common table. -/
structure ColumnNames where
  info : NodeInfo
  idents : List Token

/-! ## Expressions, table references and queries -/

mutual

/-- **Expression.** -/
inductive Expr where
  | name (info : NodeInfo) (ident : Option Token)
  | parameter (info : NodeInfo) (ident : Option Token)
  | literal (info : NodeInfo) (token : Option Token)
  | unary (info : NodeInfo) (operator : Option Token) (operand : Option Expr)
  | binary (info : NodeInfo) (left : Option Expr) (operator : Option Token) (negated : Bool)
      (right : Option Expr)
  | parenthesized (info : NodeInfo) (inner : Option Expr)
  | property (info : NodeInfo) (target : Option Expr) (ident : Option Token)
  | method (info : NodeInfo) (target : Option Expr) (ident : Option Token)
      (arguments : Option Arguments)
  | call (info : NodeInfo) (ident : Option Token) (arguments : Option Arguments)
  | countAll (info : NodeInfo) (ident : Option Token)
  | cast (info : NodeInfo) (operand : Option Expr) (target : Option TypeName)
  | isNull (info : NodeInfo) (operand : Option Expr) (negated : Bool)
  | cases (info : NodeInfo) (input : Option Expr) (labels : List CaseLabel)
      (otherwise : Option Expr)
  | subselect (info : NodeInfo) (query : Option Query)
  | existence (info : NodeInfo) (query : Option Query)
  | quantified (info : NodeInfo) (left : Option Expr) (operator : Option Token)
      (quantifier : Quantifier) (query : Option Query)

/-- The arguments of a call, between parentheses. -/
inductive Arguments where
  | mk (info : NodeInfo) (items : List Expr)

/-- One `WHEN … THEN …` of a `CASE`. -/
inductive CaseLabel where
  | mk (info : NodeInfo) (condition result : Option Expr)

/-- A condition: a `WHERE`, `HAVING` or `ON` with what follows it. -/
inductive Condition where
  | mk (info : NodeInfo) (predicate : Option Expr)

/-- **Table reference** in a `FROM` clause. -/
inductive TableRef where
  | named (info : NodeInfo) (ident : Option Token) (correlation : Option Alias)
  | derived (info : NodeInfo) (query : Option Query) (ident : Option Token)
  | joined (info : NodeInfo) (left : Option TableRef) (kind : JoinKind) (right : Option TableRef)
      (condition : Option Condition)
  | parenthesized (info : NodeInfo) (inner : Option TableRef)

/-- One entry of a select list. -/
inductive SelectItem where
  | column (info : NodeInfo) (value : Option Expr) (correlation : Option Alias)
  | wildcard (info : NodeInfo) (table : Option Token)

/-- The head of a `SELECT`, up to its `FROM`. -/
inductive SelectClause where
  | mk (info : NodeInfo) (distinct : Bool) (top : Option Top) (items : List SelectItem)

/-- The table references of a `SELECT`. -/
inductive FromClause where
  | mk (info : NodeInfo) (tables : List TableRef)

/-- The grouping expressions of a `SELECT`. -/
inductive GroupByClause where
  | mk (info : NodeInfo) (keys : List Expr)

/-- One entry of an `ORDER BY`. -/
inductive OrderItem where
  | mk (info : NodeInfo) (key : Option Expr) (descending : Bool)

/-- One `name (columns) AS (query)` of a `WITH`. -/
inductive CommonTable where
  | mk (info : NodeInfo) (ident : Option Token) (columns : Option ColumnNames)
      (query : Option Query)

/-- **Query.** -/
inductive Query where
  | select (info : NodeInfo) (head : Option SelectClause) (source : Option FromClause)
      (filter : Option Condition) (grouping : Option GroupByClause) (having : Option Condition)
  | combined (info : NodeInfo) (left : Option Query) (operator : Option SetOperator)
      (right : Option Query)
  | ordered (info : NodeInfo) (input : Option Query) (items : List OrderItem)
  | withTables (info : NodeInfo) (tables : List CommonTable) (body : Option Query)
  | parenthesized (info : NodeInfo) (inner : Option Query)

end

/-- **Root of a tree**: one query or one expression. -/
structure Unit where
  info : NodeInfo
  query : Option Query
  expression : Option Expr

/-! ## Where the pieces stand -/

/-- The node of an expression. -/
def Expr.info : Expr → NodeInfo
  | .name info _ | .parameter info _ | .literal info _ | .unary info _ _ | .binary info _ _ _ _
  | .parenthesized info _ | .property info _ _ | .method info _ _ _ | .call info _ _
  | .countAll info _ | .cast info _ _ | .isNull info _ _ | .cases info _ _ _ | .subselect info _
  | .existence info _ | .quantified info _ _ _ _ => info

/-- The node of an argument list. -/
def Arguments.info : Arguments → NodeInfo
  | .mk info _ => info

/-- The node of a `CASE` label. -/
def CaseLabel.info : CaseLabel → NodeInfo
  | .mk info _ _ => info

/-- The node of a condition. -/
def Condition.info : Condition → NodeInfo
  | .mk info _ => info

/-- The node of a table reference. -/
def TableRef.info : TableRef → NodeInfo
  | .named info _ _ | .derived info _ _ | .joined info _ _ _ _ | .parenthesized info _ => info

/-- The node of a select list entry. -/
def SelectItem.info : SelectItem → NodeInfo
  | .column info _ _ | .wildcard info _ => info

/-- The node of a select clause. -/
def SelectClause.info : SelectClause → NodeInfo
  | .mk info _ _ _ => info

/-- The node of a `FROM` clause. -/
def FromClause.info : FromClause → NodeInfo
  | .mk info _ => info

/-- The node of a `GROUP BY` clause. -/
def GroupByClause.info : GroupByClause → NodeInfo
  | .mk info _ => info

/-- The node of an `ORDER BY` entry. -/
def OrderItem.info : OrderItem → NodeInfo
  | .mk info _ _ => info

/-- The node of a common table. -/
def CommonTable.info : CommonTable → NodeInfo
  | .mk info _ _ _ => info

/-- The node of a query. -/
def Query.info : Query → NodeInfo
  | .select info _ _ _ _ _ | .combined info _ _ _ | .ordered info _ _ | .withTables info _ _
  | .parenthesized info _ => info

/-! ## Looking through parentheses -/

mutual

/-- The expression inside all parentheses around it. Parentheses with nothing inside stay. -/
def Expr.core : Expr → Expr
  | .parenthesized info inner => Expr.coreOr (.parenthesized info inner) inner
  | other => other

/-- The core of an expression, or `fallback` where there is none. -/
def Expr.coreOr (fallback : Expr) : Option Expr → Expr
  | some inner => inner.core
  | none => fallback

end

mutual

/-- The table reference inside all parentheses around it. -/
def TableRef.core : TableRef → TableRef
  | .parenthesized info inner => TableRef.coreOr (.parenthesized info inner) inner
  | other => other

/-- The core of a table reference, or `fallback` where there is none. -/
def TableRef.coreOr (fallback : TableRef) : Option TableRef → TableRef
  | some inner => inner.core
  | none => fallback

end

mutual

/-- The query inside all parentheses around it. -/
def Query.core : Query → Query
  | .parenthesized info inner => Query.coreOr (.parenthesized info inner) inner
  | other => other

/-- The core of a query, or `fallback` where there is none. -/
def Query.coreOr (fallback : Query) : Option Query → Query
  | some inner => inner.core
  | none => fallback

end

end Ast

end QuerySemantics
