import QuerySemantics.Ast.Basic
import QuerySemantics.Bound.Operator
import QuerySemantics.Scope.Symbol

/-!
# Bound trees

What binding makes of a query: every name is a symbol and every expression has a type. A bound tree
is always whole: what is missing in the query, or could not be resolved, is there as a bad symbol or
an empty query.

## Main definitions

* `Bound.Expr`, `Bound.Query`, `Bound.TableRef`: bound expressions, queries and table references.
* `Bound.Expr.type`, `Bound.Expr.symbol?`: the type of an expression and what it refers to.
* `Bound.TableRef.instances`: the table instances that a table reference introduces.
* `Bound.Query.output`: the columns that a query puts out.
* `Bound.Node`: any bound node.
-/

set_option autoImplicit false

namespace QuerySemantics

namespace Bound

/-- One column that a `*` stands for: a column of an instance, and the column put out for it. -/
structure ExpandedColumn where
  owner : TableInstance
  input : InstanceColumn
  output : QueryColumn
deriving Inhabited

mutual

/-- **Bound expression.** -/
inductive Expr where
  /-- A reference by name. -/
  | name (symbol : Symbol)
  /-- A reference to a variable of the host application. -/
  | parameter (symbol : Symbol)
  | literal (value : Value) (type : SqlType)
  | unary (operator : UnaryOperator) (operand : Expr) (type : SqlType)
  | binary (left : Expr) (operator : BinaryOperator) (right : Expr) (type : SqlType)
  | call (symbol : Symbol) (arguments : List Expr) (type : SqlType)
  /-- A call of an aggregate; without an argument it counts rows. -/
  | aggregate (symbol : Symbol) (argument : Option Expr) (type : SqlType)
  | property (target : Expr) (symbol : Symbol)
  | method (target : Expr) (symbol : Symbol) (arguments : List Expr)
  /-- A conversion to `target`; its type is unknown if there is no conversion. -/
  | cast (operand : Expr) (target : SqlType) (conversion : Conversion) (type : SqlType)
  | isNull (operand : Expr) (negated : Bool)
  | cases (input : Option Expr) (labels : List CaseLabel) (otherwise : Option Expr)
      (type : SqlType)
  | subselect (query : Query) (type : SqlType)
  | existence (query : Query)
  | quantified (left : Expr) (operator : BinaryOperator) (quantifier : Quantifier) (query : Query)
  /-- A reference to an output column by its position. -/
  | slot (slot : ValueSlot)

/-- One `WHEN … THEN …` of a bound `CASE`. -/
inductive CaseLabel where
  | mk (condition result : Expr)

/-- **Bound table reference.** -/
inductive TableRef where
  | named (table : TableInstance)
  | derived (table : TableInstance) (query : Query)
  | joined (left : TableRef) (kind : JoinKind) (right : TableRef) (condition : Option Expr)

/-- One entry of a bound select list. -/
inductive SelectItem where
  | column (value : Expr) (column : QueryColumn)
  /-- A `*`, or one qualified by a table instance. -/
  | wildcard (table : Option TableInstance) (columns : List ExpandedColumn)

/-- One entry of a bound `ORDER BY`. -/
inductive OrderKey where
  | mk (key : Expr) (descending : Bool)

/-- One definition of a bound `WITH`. -/
inductive Definition where
  | mk (symbol : CommonTable) (query : Query)

/-- **Bound query.** -/
inductive Query where
  | select (distinct : Bool) (tables : List TableRef) (filter : Option Expr)
      (grouping : List Expr) (having : Option Expr) (items : List SelectItem)
  | combined (left : Query) (operator : SetOperator) (right : Query) (output : List QueryColumn)
  | ordered (input : Query) (keys : List OrderKey)
  | withTables (definitions : List Definition) (body : Query)
  | top (input : Query) (limit : Nat) (withTies : Bool)

end

/-! ## Expressions -/

namespace Expr

/-- **Type** of an expression. -/
def type : Expr → SqlType
  | .name symbol | .parameter symbol | .property _ symbol | .method _ symbol _ => symbol.type
  | .literal _ type | .unary _ _ type | .binary _ _ _ type | .call _ _ type
  | .aggregate _ _ type | .cast _ _ _ type | .cases _ _ _ type | .subselect _ type => type
  | .isNull _ _ | .existence _ | .quantified _ _ _ _ => .boolean
  | .slot it => it.type

/-- **Symbol** that an expression refers to, for those that refer to one. -/
def symbol? : Expr → Option Symbol
  | .name symbol | .parameter symbol | .call symbol _ _ | .aggregate symbol _ _
  | .property _ symbol | .method _ symbol _ => some symbol
  | _ => none

/-- The kind of an expression. -/
def kind : Expr → NodeKind
  | .name _ => .name
  | .parameter _ => .parameter
  | .literal _ _ => .literal
  | .unary _ _ _ => .unary
  | .binary _ _ _ _ => .binary
  | .call _ _ _ => .call
  | .aggregate _ _ _ => .aggregate
  | .property _ _ => .property
  | .method _ _ _ => .method
  | .cast _ _ _ _ => .cast
  | .isNull _ _ => .isNull
  | .cases _ _ _ _ => .cases
  | .subselect _ _ => .subselect
  | .existence _ => .existence
  | .quantified _ _ _ _ => .quantified
  | .slot _ => .slot

/-- The conversion that a `CAST` performs. -/
def conversion? : Expr → Option Conversion
  | .cast _ _ conversion _ => some conversion
  | _ => none

end Expr

namespace CaseLabel

/-- What is checked or compared. -/
def condition : CaseLabel → Expr
  | .mk condition _ => condition

/-- What the `CASE` yields. -/
def result : CaseLabel → Expr
  | .mk _ result => result

end CaseLabel

/-! ## Table references -/

namespace TableRef

/-- **Instances** that a table reference introduces, from left to right. -/
def instances : TableRef → List TableInstance
  | .named table => [table]
  | .derived table _ => [table]
  | .joined left _ right _ => left.instances ++ right.instances

/-- The kind of a table reference. -/
def kind : TableRef → NodeKind
  | .named _ => .namedTable
  | .derived _ _ => .derivedTable
  | .joined _ _ _ _ => .joinedTable

end TableRef

/-! ## Queries -/

/-- The output columns of one entry of a select list. -/
def SelectItem.output : SelectItem → List QueryColumn
  | .column _ it => [it]
  | .wildcard _ columns => columns.map (·.output)

/-- The common table that a definition defines. -/
def Definition.symbol : Definition → CommonTable
  | .mk symbol _ => symbol

namespace Query

/-- The query without columns, which stands for one that is missing. -/
def empty : Query :=
  .select false [] none [] none []

/-- **Output columns** of a query, in order. -/
def output : Query → List QueryColumn
  | .select _ _ _ _ _ items => items.flatMap SelectItem.output
  | .combined _ _ _ output => output
  | .ordered input _ => input.output
  | .withTables _ body => body.output
  | .top input _ _ => input.output

/-- The kind of a query. -/
def kind : Query → NodeKind
  | .select _ _ _ _ _ _ => .select
  | .combined _ _ _ _ => .combined
  | .ordered _ _ => .ordered
  | .withTables _ _ => .withTables
  | .top _ _ _ => .top

end Query

/-! ## Nodes -/

/-- **Bound node**: what binding found out about one node of a tree. -/
inductive Node where
  | expr (expr : Expr)
  | query (query : Query)
  | table (table : TableRef)
  | selectItem (item : SelectItem)
  | caseLabel (label : CaseLabel)
  | definition (definition : Definition)

namespace Node

/-- The kind of a bound node. -/
def kind : Node → NodeKind
  | .expr it => it.kind
  | .query it => it.kind
  | .table it => it.kind
  | .selectItem (.column _ _) => .selectColumn
  | .selectItem (.wildcard _ _) => .wildcard
  | .caseLabel _ => .caseLabel
  | .definition _ => .commonTable

/-- The expression, of a node that is one. -/
def expr? : Node → Option Expr
  | .expr it => some it
  | _ => none

/-- The query, of a node that is one. -/
def query? : Node → Option Query
  | .query it => some it
  | _ => none

/-- The table reference, of a node that is one. -/
def table? : Node → Option TableRef
  | .table it => some it
  | _ => none

/-- **Declared symbol**: the table instance of a table reference, the table of a definition, the
output column of a select list entry, or the instance that qualifies a `*`. -/
def declared? : Node → Option Symbol
  | .table (.named it) => some (.tableInstance it)
  | .table (.derived it _) => some (.tableInstance it)
  | .definition it => some (.commonTable it.symbol)
  | .selectItem (.column _ it) => some (.queryColumn it)
  | .selectItem (.wildcard qualifier _) => qualifier.map .tableInstance
  | _ => none

end Node

end Bound

end QuerySemantics
