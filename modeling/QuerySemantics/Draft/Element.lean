import QuerySemantics.Draft.Basic
import QuerySemantics.Text.Quoted
import QuerySemantics.Tree.Element

/-!
# Elements of drafts

The tree of a draft, with all its tokens but without blanks between them.

## Main definitions

* `Element.fixed`: the token of a reserved word or a punctuation mark.
* `UnaryOperator.kind`, `BinaryOperator.kinds`: the tokens of an operator.
* `Draft.Expr.element`, `Draft.Query.element`, `Draft.Table.element`: the trees of drafts.
-/

set_option autoImplicit false

namespace QuerySemantics

/-! ## Tokens -/

/-- The fixed text of a reserved word or a punctuation mark. -/
def Kind.fixedText (kind : Kind) : String :=
  (kind.keywordText?.or kind.punctuation?).getD ""

/-- **Fixed token** of a reserved word or a punctuation mark. -/
def Element.fixed (kind : Kind) : Element :=
  .token kind kind.fixedText

/-- An identifier token. -/
def Element.identifier (text : String) : Element :=
  .token .identifier text

/-- The token of a unary operator. -/
def UnaryOperator.kind : UnaryOperator → Kind
  | .identity => .plus
  | .negate => .minus
  | .complement => .tilde
  | .logicalNot => .notKeyword

/-- **Tokens of a binary operator.** -/
def BinaryOperator.kinds : BinaryOperator → List Kind
  | .add => [.plus]
  | .subtract => [.minus]
  | .multiply => [.star]
  | .divide => [.slash]
  | .modulus => [.percent]
  | .bitAnd => [.ampersand]
  | .bitOr => [.bar]
  | .bitXor => [.caret]
  | .equal => [.equals]
  | .notEqual => [.notEquals]
  | .less => [.less]
  | .lessOrEqual => [.lessOrEqual]
  | .greater => [.greater]
  | .greaterOrEqual => [.greaterOrEqual]
  | .logicalAnd => [.andKeyword]
  | .logicalOr => [.orKeyword]
  | .like => [.likeKeyword]
  | .notLike => [.notKeyword, .likeKeyword]

/-- The tokens of a set operator. -/
def SetOperator.kinds : SetOperator → List Kind
  | .union => [.unionKeyword]
  | .unionAll => [.unionKeyword, .allKeyword]
  | .intersect => [.intersectKeyword]
  | .except => [.exceptKeyword]

/-- The tokens between the sides of a join. -/
def JoinKind.kinds : JoinKind → List Kind
  | .inner => [.innerKeyword, .joinKeyword]
  | .leftOuter => [.leftKeyword, .outerKeyword, .joinKeyword]
  | .rightOuter => [.rightKeyword, .outerKeyword, .joinKeyword]
  | .fullOuter => [.fullKeyword, .outerKeyword, .joinKeyword]
  | .cross => [.crossKeyword, .joinKeyword]

/-- The token of a quantifier. -/
def Quantifier.kind : Quantifier → Kind
  | .all => .allKeyword
  | .any => .anyKeyword

namespace Draft

/-- Fixed tokens one after the other. -/
def words (kinds : List Kind) : List Element :=
  kinds.map .fixed

/-- Elements separated by commas. -/
def separated (elements : List Element) : List Element :=
  elements.intersperse (.fixed .comma)

/-- Elements between parentheses. -/
def enclosed (elements : List Element) : List Element :=
  .fixed .openParen :: elements ++ [.fixed .closeParen]

/-- A literal of one token. -/
def literal (token : Element) : Element :=
  .node .literalExpression [token]

/-- The row limit of a `SELECT`. -/
def limitElement (limit : Limit) : Element :=
  .node .topClause (.fixed .topKeyword :: .token .numericLiteral limit.text ::
    (if limit.withTies then words [.withKeyword, .tiesKeyword] else []))

/-- A clause, unless it has no entries. -/
def clauseElements (kind : Kind) (leading : List Kind) : List Element → List Element
  | [] => []
  | entries => [.node kind (words leading ++ separated entries)]

/-- The column names of a common table, if they are given. -/
def columnNames : Option (List String) → List Element
  | none => []
  | some idents => [.node .columnNameList (enclosed (separated (idents.map .identifier)))]

/-- The direction of an `ORDER BY` entry. -/
def Direction.elements : Direction → List Element
  | .unwritten => []
  | .ascending => words [.ascKeyword]
  | .descending => words [.descKeyword]

/-! ## Trees -/

mutual

/-- **Tree of an expression.** -/
def Expr.element : Expr → Element
  | .name ident => .node .nameExpression [.identifier ident]
  | .parameter ident => .node .variableExpression [.fixed .atSign, .identifier ident]
  | .number text => literal (.token .numericLiteral text)
  | .string value => literal (.token .stringLiteral (Quoted.stringLiteral value))
  | .boolean value => literal (.fixed (if value then .trueKeyword else .falseKeyword))
  | .null => literal (.fixed .nullKeyword)
  | .parenthesized inner => .node .parenthesizedExpression (enclosed [inner.element])
  | .unary operator operand =>
    .node .unaryExpression [.fixed operator.kind, operand.element]
  | .binary left operator right =>
    .node .binaryExpression (left.element :: words operator.kinds ++ [right.element])
  | .property target ident =>
    .node .propertyAccessExpression [target.element, .fixed .dot, .identifier ident]
  | .method target ident arguments =>
    .node .methodInvocationExpression
      [target.element, .fixed .dot, .identifier ident,
        .node .argumentList (enclosed (separated (exprElements arguments)))]
  | .call ident arguments =>
    .node .functionInvocationExpression
      [.identifier ident, .node .argumentList (enclosed (separated (exprElements arguments)))]
  | .countAll => .node .countAllExpression (.identifier "COUNT" :: enclosed [.fixed .star])
  | .cast operand target =>
    .node .castExpression (.fixed .castKeyword :: enclosed
      [operand.element, .fixed .asKeyword, .node .typeReference [.identifier target]])
  | .isNull operand negated =>
    .node .isNullExpression (operand.element :: words
      (if negated then [.isKeyword, .notKeyword, .nullKeyword] else [.isKeyword, .nullKeyword]))
  | .cases input labels otherwise =>
    .node .caseExpression (.fixed .caseKeyword :: clauseIfAny [] input ++ labelElements labels ++
      clauseIfAny [.elseKeyword] otherwise ++ words [.endKeyword])
  | .subselect query => .node .singleRowSubselect (enclosed [query.element])
  | .existence query =>
    .node .existsSubselect (.fixed .existsKeyword :: enclosed [query.element])
  | .quantified left operator quantifier query =>
    .node .allAnySubselect (left.element :: words (operator.1.kinds ++ [quantifier.kind]) ++
      enclosed [query.element])

/-- The trees of expressions. -/
def exprElements : List Expr → List Element
  | [] => []
  | it :: rest => it.element :: exprElements rest

/-- An expression that need not be there, behind the words that come with it. -/
def clauseIfAny (leading : List Kind) : Option Expr → List Element
  | none => []
  | some it => words leading ++ [it.element]

/-- The trees of the labels of a `CASE`. -/
def labelElements : List CaseLabel → List Element
  | [] => []
  | .mk condition result :: rest =>
    .node .caseLabel
      [.fixed .whenKeyword, condition.element, .fixed .thenKeyword, result.element] ::
      labelElements rest

/-- A condition that need not be there, as a clause that begins with a word. -/
def conditionElements (kind leading : Kind) : Option Expr → List Element
  | none => []
  | some it => [.node kind [.fixed leading, it.element]]

/-- The trees of select list entries. -/
def columnElements : List Column → List Element
  | [] => []
  | .value it none :: rest => .node .expressionSelectColumn [it.element] :: columnElements rest
  | .value it (some label) :: rest =>
    .node .expressionSelectColumn
      [it.element, .node .aliasClause [.fixed .asKeyword, .identifier label]] ::
      columnElements rest
  | .star :: rest => .node .wildcardSelectColumn [.fixed .star] :: columnElements rest
  | .starOf name :: rest =>
    .node .wildcardSelectColumn [.identifier name, .fixed .dot, .fixed .star] ::
      columnElements rest

/-- **Tree of a table reference.** -/
def Table.element : Table → Element
  | .byName ident none => .node .namedTableReference [.identifier ident]
  | .byName ident (some label) =>
    .node .namedTableReference [.identifier ident, .node .aliasClause [.identifier label]]
  | .derived query label =>
    .node .derivedTableReference
      (enclosed [query.element] ++ [.fixed .asKeyword, .identifier label])
  | .joined left kind right condition =>
    .node .joinedTableReference (left.element :: words kind.kinds ++
      right.element :: conditionElements .joinCondition .onKeyword condition)
  | .parenthesized inner => .node .parenthesizedTableReference (enclosed [inner.element])

/-- The trees of table references. -/
def tableElements : List Table → List Element
  | [] => []
  | it :: rest => it.element :: tableElements rest

/-- The trees of `ORDER BY` entries. -/
def orderElements : List OrderItem → List Element
  | [] => []
  | .mk key direction :: rest =>
    .node .orderByColumn (key.element :: direction.elements) :: orderElements rest

/-- The trees of the definitions of a `WITH`. -/
def definitionElements : List Definition → List Element
  | [] => []
  | .mk ident columns query :: rest =>
    .node .commonTableExpression (.identifier ident :: columnNames columns ++
      .fixed .asKeyword :: enclosed [query.element]) :: definitionElements rest

/-- **Tree of a query.** -/
def Query.element : Query → Element
  | .select distinct top columns tables filter grouping having =>
    .node .selectQuery
      (.node .selectClause (words (if distinct then [.selectKeyword, .distinctKeyword]
          else [.selectKeyword]) ++ top.toList.map limitElement ++
          separated (columnElements columns)) ::
        clauseElements .fromClause [.fromKeyword] (tableElements tables) ++
        conditionElements .whereClause .whereKeyword filter ++
        clauseElements .groupByClause [.groupKeyword, .byKeyword] (exprElements grouping) ++
        conditionElements .havingClause .havingKeyword having)
  | .combined left operator right =>
    .node .combinedQuery (left.element :: words operator.kinds ++ [right.element])
  | .ordered input items =>
    .node .orderedQuery (input.element :: words [.orderKeyword, .byKeyword] ++
      separated (orderElements items))
  | .withTables definitions body =>
    .node .commonTableExpressionQuery (.fixed .withKeyword ::
      separated (definitionElements definitions) ++ [body.element])
  | .parenthesized inner => .node .parenthesizedQuery (enclosed [inner.element])

end

/-- The tree of a draft. -/
def Whole.element : Whole → Element
  | .query it => it.element
  | .expr it => it.element

end Draft

end QuerySemantics
