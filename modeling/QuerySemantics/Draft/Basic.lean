import QuerySemantics.Ast.Basic
import QuerySemantics.Bound.Operator

/-!
# Drafts of queries

Queries as values, for writing them in programs. A draft says what a query consists of and nothing
about blanks and punctuation; it is always whole.

## Main definitions

* `Draft.Expr`, `Draft.Query`, `Draft.Table`: drafts of expressions, queries and table references,
  with the list entries between them.
* `Draft.Table.labelled`, `Draft.Table.on`: giving a table a name, and a join a condition.
-/

set_option autoImplicit false

namespace QuerySemantics

namespace Draft

/-- **Comparison**: an operator that may stand before `ALL` and `ANY`. -/
abbrev Comparison :=
  { operator : BinaryOperator // operator.isComparison = true }

/-- **Direction** of an `ORDER BY` entry, if it is written out. -/
inductive Direction where
  | unwritten
  | ascending
  | descending
deriving DecidableEq, Repr, Inhabited

/-- A row limit, as it is written. -/
structure Limit where
  text : String
  withTies : Bool
deriving DecidableEq, Repr, Inhabited

mutual

/-- **Draft of an expression.** -/
inductive Expr where
  | name (ident : String)
  | parameter (ident : String)
  /-- A numeral, as it is written. -/
  | number (text : String)
  | string (value : String)
  | boolean (value : Bool)
  | null
  | parenthesized (inner : Expr)
  | unary (operator : UnaryOperator) (operand : Expr)
  | binary (left : Expr) (operator : BinaryOperator) (right : Expr)
  | property (target : Expr) (ident : String)
  | method (target : Expr) (ident : String) (arguments : List Expr)
  | call (ident : String) (arguments : List Expr)
  | countAll
  | cast (operand : Expr) (target : String)
  | isNull (operand : Expr) (negated : Bool)
  | cases (input : Option Expr) (labels : List CaseLabel) (otherwise : Option Expr)
  | subselect (query : Query)
  | existence (query : Query)
  | quantified (left : Expr) (operator : Comparison) (quantifier : Quantifier) (query : Query)

/-- Draft of a `WHEN … THEN …`. -/
inductive CaseLabel where
  | mk (condition result : Expr)

/-- **Draft of a select list entry.** -/
inductive Column where
  | value (value : Expr) (label : Option String)
  | star
  | starOf (table : String)

/-- **Draft of a table reference.** -/
inductive Table where
  | byName (ident : String) (label : Option String)
  | derived (query : Query) (label : String)
  | joined (left : Table) (kind : JoinKind) (right : Table) (condition : Option Expr)
  | parenthesized (inner : Table)

/-- Draft of an `ORDER BY` entry. -/
inductive OrderItem where
  | mk (key : Expr) (direction : Direction)

/-- Draft of a definition in a `WITH`. -/
inductive Definition where
  | mk (ident : String) (columns : Option (List String)) (query : Query)

/-- **Draft of a query.** -/
inductive Query where
  | select (distinct : Bool) (top : Option Limit) (columns : List Column) (tables : List Table)
      (filter : Option Expr) (grouping : List Expr) (having : Option Expr)
  | combined (left : Query) (operator : SetOperator) (right : Query)
  | ordered (input : Query) (items : List OrderItem)
  | withTables (definitions : List Definition) (body : Query)
  | parenthesized (inner : Query)

end

/-- `NULL` stands where an expression of a draft is missing. -/
instance : Inhabited Expr := ⟨.null⟩

/-- A table without a name stands where a table of a draft is missing. -/
instance : Inhabited Table := ⟨.byName "" none⟩

/-- An empty `SELECT` stands where a query of a draft is missing. -/
instance : Inhabited Query := ⟨.select false none [] [] none [] none⟩

/-- An integer literal. -/
def Expr.integer (value : Int) : Expr :=
  .number (toString value)

/-- A column of a table, both by name. -/
def Expr.qualified (table column : String) : Expr :=
  .property (.name table) column

namespace Table

/-- Gives a table an alias. Only references by name take one; others stay as they are. -/
def labelled (label : String) : Table → Table
  | .byName ident _ => .byName ident (some label)
  | other => other

/-- Gives a join a condition. What is no join stays as it is. -/
def on (condition : Expr) : Table → Table
  | .joined left kind right _ => .joined left kind right (some condition)
  | other => other

end Table

/-- **Draft**: a query or an expression. -/
inductive Whole where
  | query (query : Query)
  | expr (expr : Expr)
deriving Inhabited

end Draft

end QuerySemantics
