import QuerySemantics.Ast.Basic
import QuerySemantics.Tree.Basic

/-!
# Reading trees

The abstract syntax of a tree. Each node is read from the readings of its children: a piece of a node
is the first child that can stand for it, wherever it stands, so that a tree with pieces missing,
doubled or out of place is read as well.

## Main definitions

* `Piece`: what a node or token is read as.
* `Piece.ofNode`: the reading of a node, given the readings of its children.
* `Located.piece`: the reading of a tree.
-/

set_option autoImplicit false

namespace QuerySemantics

open Ast

/-- **Piece**: the reading of one element of a tree. -/
inductive Piece where
  | token (token : Token)
  | unit (unit : Ast.Unit)
  | expr (expr : Expr)
  | query (query : Query)
  | table (table : TableRef)
  | selectClause (clause : SelectClause)
  | top (top : Top)
  | selectItem (item : SelectItem)
  | aliasClause (name : Alias)
  | fromClause (clause : FromClause)
  | condition (condition : Condition)
  | groupBy (clause : GroupByClause)
  | orderItem (item : OrderItem)
  | commonTable (table : CommonTable)
  | columnNames (names : ColumnNames)
  | arguments (arguments : Arguments)
  | typeName (name : TypeName)
  | caseLabel (label : CaseLabel)
  | other (info : NodeInfo)

namespace Piece

/-! ## Choosing among the pieces of a node -/

/-- The token, of a token. -/
def token? : Piece → Option Token
  | .token leaf => some leaf
  | _ => none

/-- The expression, of a piece that is one. -/
def expr? : Piece → Option Expr
  | .expr it => some it
  | _ => none

/-- The query, of a piece that is one. -/
def query? : Piece → Option Query
  | .query it => some it
  | _ => none

/-- The table reference, of a piece that is one. -/
def table? : Piece → Option TableRef
  | .table it => some it
  | _ => none

/-- The select clause, of a piece that is one. -/
def selectClause? : Piece → Option SelectClause
  | .selectClause it => some it
  | _ => none

/-- The row limit, of a piece that is one. -/
def top? : Piece → Option Top
  | .top it => some it
  | _ => none

/-- The select list entry, of a piece that is one. -/
def selectItem? : Piece → Option SelectItem
  | .selectItem it => some it
  | _ => none

/-- The alias, of a piece that is one. -/
def alias? : Piece → Option Alias
  | .aliasClause it => some it
  | _ => none

/-- The `FROM` clause, of a piece that is one. -/
def fromClause? : Piece → Option FromClause
  | .fromClause it => some it
  | _ => none

/-- The condition of the given kind, of a piece that is one. -/
def condition? (kind : Kind) : Piece → Option Condition
  | .condition it => if it.info.kind = kind then some it else none
  | _ => none

/-- The `GROUP BY` clause, of a piece that is one. -/
def groupBy? : Piece → Option GroupByClause
  | .groupBy it => some it
  | _ => none

/-- The `ORDER BY` entry, of a piece that is one. -/
def orderItem? : Piece → Option OrderItem
  | .orderItem it => some it
  | _ => none

/-- The common table, of a piece that is one. -/
def commonTable? : Piece → Option CommonTable
  | .commonTable it => some it
  | _ => none

/-- The column name list, of a piece that is one. -/
def columnNames? : Piece → Option ColumnNames
  | .columnNames it => some it
  | _ => none

/-- The argument list, of a piece that is one. -/
def arguments? : Piece → Option Arguments
  | .arguments it => some it
  | _ => none

/-- The type name, of a piece that is one. -/
def typeName? : Piece → Option TypeName
  | .typeName it => some it
  | _ => none

/-- The `CASE` label, of a piece that is one. -/
def caseLabel? : Piece → Option CaseLabel
  | .caseLabel it => some it
  | _ => none

/-- The first token of a kind among the pieces of a node. -/
def tokenOf? (kind : Kind) (pieces : List Piece) : Option Token :=
  (pieces.filterMap token?).find? (·.kind == kind)

/-- Whether a node has a token of a kind of its own. -/
def hasToken (kind : Kind) (pieces : List Piece) : Bool :=
  (tokenOf? kind pieces).isSome

/-- The first token of a node that is not trivia. -/
def leadingToken? (pieces : List Piece) : Option Token :=
  (pieces.filterMap token?).find? (!·.kind.isTrivia)

/-- The operator between two operands: `NOT LIKE` is known by its `LIKE`. -/
def infixToken? (pieces : List Piece) : Option Token :=
  (pieces.filterMap token?).find? fun leaf =>
    !leaf.kind.isTrivia && leaf.kind != .notKeyword

/-- The first expression among the pieces of a node. -/
def expression? (pieces : List Piece) : Option Expr :=
  pieces.findSome? expr?

/-- The second expression among the pieces of a node. -/
def secondExpression? (pieces : List Piece) : Option Expr :=
  (pieces.filterMap expr?)[1]?

/-- The operand of a `CASE` whose labels are compared with it: an expression before the labels. -/
def caseInput? (pieces : List Piece) : Option Expr :=
  expression? (pieces.takeWhile fun piece => piece.caseLabel?.isNone)

/-- The expression that starts at or after the end of the first `ELSE`. -/
def caseElse? (pieces : List Piece) : Option Expr := do
  let keyword ← tokenOf? .elseKeyword pieces
  (pieces.filterMap expr?).find? fun it => keyword.stop ≤ it.info.start

/-- The set operator that the tokens of a node spell. -/
def setOperator? (pieces : List Piece) : Option SetOperator :=
  if hasToken .unionKeyword pieces then
    if hasToken .allKeyword pieces then some .unionAll else some .union
  else if hasToken .intersectKeyword pieces then some .intersect
  else if hasToken .exceptKeyword pieces then some .except
  else none

/-- The kind of join that the tokens of a node spell; without any of them it is an inner join. -/
def joinKind (pieces : List Piece) : JoinKind :=
  if hasToken .crossKeyword pieces then .cross
  else if hasToken .leftKeyword pieces then .leftOuter
  else if hasToken .rightKeyword pieces then .rightOuter
  else if hasToken .fullKeyword pieces then .fullOuter
  else .inner

/-! ## Readings -/

/-- **Reading of a node**, given the readings of its children. -/
def ofNode (info : NodeInfo) (pieces : List Piece) : Piece :=
  let ident := tokenOf? .identifier pieces
  match info.kind with
  | .compilationUnit => .unit ⟨info, pieces.findSome? query?, expression? pieces⟩
  | .selectQuery =>
    .query (.select info (pieces.findSome? selectClause?) (pieces.findSome? fromClause?)
      (pieces.findSome? (condition? .whereClause)) (pieces.findSome? groupBy?)
      (pieces.findSome? (condition? .havingClause)))
  | .selectClause =>
    .selectClause (.mk info (hasToken .distinctKeyword pieces) (pieces.findSome? top?)
      (pieces.filterMap selectItem?))
  | .topClause => .top ⟨info, tokenOf? .numericLiteral pieces, hasToken .tiesKeyword pieces⟩
  | .expressionSelectColumn =>
    .selectItem (.column info (expression? pieces) (pieces.findSome? alias?))
  | .wildcardSelectColumn => .selectItem (.wildcard info ident)
  | .aliasClause => .aliasClause ⟨info, ident⟩
  | .fromClause => .fromClause (.mk info (pieces.filterMap table?))
  | .whereClause | .havingClause | .joinCondition => .condition (.mk info (expression? pieces))
  | .groupByClause => .groupBy (.mk info (pieces.filterMap expr?))
  | .orderedQuery =>
    .query (.ordered info (pieces.findSome? query?) (pieces.filterMap orderItem?))
  | .orderByColumn =>
    .orderItem (.mk info (expression? pieces) (hasToken .descKeyword pieces))
  | .combinedQuery =>
    .query (.combined info (pieces.findSome? query?) (setOperator? pieces)
      (pieces.filterMap query?)[1]?)
  | .parenthesizedQuery => .query (.parenthesized info (pieces.findSome? query?))
  | .commonTableExpressionQuery =>
    .query (.withTables info (pieces.filterMap commonTable?) (pieces.findSome? query?))
  | .commonTableExpression =>
    .commonTable (.mk info ident (pieces.findSome? columnNames?) (pieces.findSome? query?))
  | .columnNameList =>
    .columnNames ⟨info, (pieces.filterMap token?).filter (·.kind == .identifier)⟩
  | .namedTableReference => .table (.named info ident (pieces.findSome? alias?))
  | .derivedTableReference => .table (.derived info (pieces.findSome? query?) ident)
  | .joinedTableReference =>
    .table (.joined info (pieces.findSome? table?) (joinKind pieces) (pieces.filterMap table?)[1]?
      (pieces.findSome? (condition? .joinCondition)))
  | .parenthesizedTableReference => .table (.parenthesized info (pieces.findSome? table?))
  | .nameExpression => .expr (.name info ident)
  | .variableExpression => .expr (.parameter info ident)
  | .literalExpression => .expr (.literal info (leadingToken? pieces))
  | .unaryExpression => .expr (.unary info (leadingToken? pieces) (expression? pieces))
  | .binaryExpression =>
    .expr (.binary info (expression? pieces) (infixToken? pieces) (hasToken .notKeyword pieces)
      (secondExpression? pieces))
  | .parenthesizedExpression => .expr (.parenthesized info (expression? pieces))
  | .propertyAccessExpression => .expr (.property info (expression? pieces) ident)
  | .methodInvocationExpression =>
    .expr (.method info (expression? pieces) ident (pieces.findSome? arguments?))
  | .functionInvocationExpression => .expr (.call info ident (pieces.findSome? arguments?))
  | .countAllExpression => .expr (.countAll info ident)
  | .argumentList => .arguments (.mk info (pieces.filterMap expr?))
  | .castExpression => .expr (.cast info (expression? pieces) (pieces.findSome? typeName?))
  | .typeReference => .typeName ⟨info, ident⟩
  | .isNullExpression => .expr (.isNull info (expression? pieces) (hasToken .notKeyword pieces))
  | .caseExpression =>
    .expr (.cases info (caseInput? pieces) (pieces.filterMap caseLabel?) (caseElse? pieces))
  | .caseLabel => .caseLabel (.mk info (expression? pieces) (secondExpression? pieces))
  | .singleRowSubselect => .expr (.subselect info (pieces.findSome? query?))
  | .existsSubselect => .expr (.existence info (pieces.findSome? query?))
  | .allAnySubselect =>
    .expr (.quantified info (expression? pieces) (leadingToken? pieces)
      (if hasToken .allKeyword pieces then .all else .any) (pieces.findSome? query?))
  | _ => .other info

end Piece

namespace Located

mutual

/-- **Reading of a tree.** -/
def piece : Located → Piece
  | .token leaf => .token leaf
  | .node info children => .ofNode info (pieces children)

/-- The readings of several trees. -/
def pieces : List Located → List Piece
  | [] => []
  | part :: rest => part.piece :: pieces rest

end

/-- The reading of several trees is the list of their readings. -/
theorem pieces_eq_map (parts : List Located) : pieces parts = parts.map piece := by
  induction parts with
  | nil => rfl
  | cons part rest ih => simp [pieces, ih]

/-- **Inside parentheses**: the node that stands for a node when parentheses are looked through. -/
def coreInfo (part : Located) (info : NodeInfo) : NodeInfo :=
  match part.piece with
  | .expr it => it.core.info
  | .query it => it.core.info
  | .table it => it.core.info
  | _ => info

end Located

end QuerySemantics
