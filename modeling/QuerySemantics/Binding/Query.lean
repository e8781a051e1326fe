import QuerySemantics.Binding.Table
import QuerySemantics.Number.Integer

/-!
# Parts of queries

The rules for queries whose parts are bound already: names and types of output columns, row limits,
set operations, positions in an `ORDER BY`, and the tables of a `WITH`.

## Main definitions

* `Ast.Expr.ownName?`: the name that a select column takes from its expression.
* `Binding.selectColumn`, `Binding.wildcard`: the entries of a select list.
* `Binding.limit`: a row limit.
* `Binding.mergeColumns`: the output of a set operation.
* `Ast.Expr.position?`, `Binding.columnAt?`: positions in an `ORDER BY`.
* `Binding.define`: a definition of a `WITH`.
-/

set_option autoImplicit false

namespace QuerySemantics

/-! ## Select lists -/

/-- **Own name** of an expression, as a select column without alias takes it: that of a name, a
property or a variable, possibly in parentheses. -/
def Ast.Expr.ownName? (written : Ast.Expr) : Option String :=
  match written.core with
  | .name _ ident | .property _ _ ident | .parameter _ ident => ident.map Token.ident
  | _ => none

namespace Binding

/-- The name of a select column: its alias, else the own name of its expression, else nothing. -/
def columnName (written : Option Ast.Expr) (correlation : Option Ast.Alias) : String :=
  ((aliasName? correlation).or (written.bind Ast.Expr.ownName?)).getD ""

/-- **Binding a select column**, with its expression bound. -/
def selectColumn (info : NodeInfo) (written : Option Ast.Expr) (correlation : Option Ast.Alias)
    (value : Bound.Expr) : BindM Bound.SelectItem := do
  let column ← supply (QueryColumn.create (columnName written correlation) value.type)
  record info (.selectItem (.column value column))
  return .column value column

/-- New output columns for columns of an instance. -/
def expandColumns (owner : TableInstance) :
    List InstanceColumn → Supply (List Bound.ExpandedColumn)
  | [] => pure []
  | column :: rest => do
    let output ← QueryColumn.create column.name column.type
    let columns ← expandColumns owner rest
    return ⟨owner, column, output⟩ :: columns

/-- New output columns for all columns of instances. -/
def expand : List TableInstance → Supply (List Bound.ExpandedColumn)
  | [] => pure []
  | table :: rest => do
    let columns ← expandColumns table table.columns
    return columns ++ (← expand rest)

/-- The instance that qualifies a `*`. Only the instances of the same `FROM` are looked at. -/
def qualifier (instances : List TableInstance) (token : Token) : BindM (Option TableInstance) := do
  let name := token.ident
  match Matching.select (← caseSensitive) TableInstance.name name instances with
  | [table] => return some table
  | [] =>
    report token.span (.unresolvedName .table name)
    return none
  | candidates =>
    report token.span (.ambiguousReference name (candidates.map TableInstance.name))
    return none

/-- The columns that a `*` stands for: all columns of all instances, or of the one that qualifies
it. -/
def wildcardItem (instances : List TableInstance) (token : Option Token) :
    BindM Bound.SelectItem := do
  match token with
  | none => return .wildcard none (← supply (expand instances))
  | some token =>
    let table ← qualifier instances token
    return .wildcard table (← supply (expand table.toList))

/-- **Binding a wildcard.** -/
def wildcard (info : NodeInfo) (instances : List TableInstance) (token : Option Token) :
    BindM Bound.SelectItem := do
  let item ← wildcardItem instances token
  record info (.selectItem item)
  return item

/-! ## Row limits -/

/-- The row limit that a text denotes: a natural number of 64 bits. -/
def rowLimit? (text : String) : Option Nat :=
  (Integer.unsigned? text).filter (· < Nat.pow 2 64)

/-- The value of a row limit. One that is not a number is reported and counts as zero, as does one
that is not there. -/
def limitValue (token : Option Token) : BindM Nat := do
  match token with
  | none => return 0
  | some token =>
    match rowLimit? token.text with
    | some rows => return rows
    | none =>
      report token.span (.invalidLimit token.text)
      return 0

/-- **Binding a row limit** around a bound query. -/
def limit (top : Option Ast.Top) (query : Bound.Query) : BindM Bound.Query := do
  match top with
  | none => return query
  | some top => return .top query (← limitValue top.value) top.withTies

/-! ## Set operations -/

/-- The type of a column of a set operation. Types without a common type are reported. -/
def mergeType (span : Span) (ordinal : Nat) (left right : SqlType) : BindM SqlType := do
  match left.common? right with
  | some type => return type
  | none =>
    report span (.setOperationTypes ordinal left right)
    return .unknown

/-- New output columns for pairs of columns, with the names of the left ones. The pairs are counted
from `ordinal` on. -/
def mergePairs (span : Span) : Nat → List (QueryColumn × QueryColumn) → BindM (List QueryColumn)
  | _, [] => return []
  | ordinal, (left, right) :: rest => do
    let type ← mergeType span ordinal left.type right.type
    let column ← supply (QueryColumn.create left.name type)
    return column :: (← mergePairs span (ordinal + 1) rest)

/-- New output columns with the shape of old ones. -/
def copyColumns : List QueryColumn → Supply (List QueryColumn)
  | [] => pure []
  | column :: rest => do
    let copy ← QueryColumn.create column.name column.type
    return copy :: (← copyColumns rest)

/-- **Output of a set operation**: the names of the left side with the common types of both. Sides
with different numbers of columns are reported, and the left one decides. -/
def mergeColumns (span : Span) (left right : List QueryColumn) : BindM (List QueryColumn) := do
  if left.length = right.length then mergePairs span 0 (left.zip right)
  else
    report span (.setOperationCount left.length right.length)
    supply (copyColumns left)

/-- **Binding a set operation**, with both sides bound. A missing operator counts as `UNION`. -/
def combine (info : NodeInfo) (operator : Option SetOperator) (left right : Bound.Query) :
    BindM Bound.Query := do
  let output ← mergeColumns info.span left.output right.output
  return .combined left (operator.getD .union) right output

end Binding

/-! ## Positions -/

/-- **Position**: the number that an `ORDER BY` entry consists of, if it is a number of 64 bits
without fraction or exponent and without parentheses. -/
def Ast.Expr.position? : Ast.Expr → Option (Token × Int)
  | .literal _ (some token) =>
    if token.kind = .numericLiteral then (Integer.signedFitting? 64 token.text).map (token, ·)
    else none
  | _ => none

namespace Binding

/-- The column at a position, counted from one. -/
def columnAt? (columns : List QueryColumn) (position : Int) : Option QueryColumn :=
  if 1 ≤ position then columns[(position - 1).toNat]? else none

/-! ## Tables of a `WITH` -/

/-- The shape of a common table: the types of its query, with the names of the list as far as it
goes. -/
def renamed : List String → List (String × SqlType) → List (String × SqlType)
  | name :: names, (_, type) :: shape => (name, type) :: renamed names shape
  | _, shape => shape

/-- Reports a column name list that is longer or shorter than the output of its query. -/
def checkNames (list : Option Ast.ColumnNames) (query : Bound.Query) : BindM Unit := do
  match list with
  | none => return
  | some list =>
    if list.idents.length ≠ query.output.length then
      report list.info.span (.columnNameCount list.idents.length query.output.length)

/-- **Binding a definition**, with its query bound. -/
def define (info : NodeInfo) (ident : Option Token) (list : Option Ast.ColumnNames)
    (query : Bound.Query) : BindM Bound.Definition := do
  checkNames list query
  let names := (list.toList.flatMap Ast.ColumnNames.idents).map Token.ident
  let table ← supply (CommonTable.create ((ident.map Token.ident).getD "")
    (renamed names (QueryColumn.shape query.output)) query.kind query.output)
  record info (.definition (.mk table query))
  return .mk table query

end Binding

end QuerySemantics
