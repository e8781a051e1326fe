/-!
# Kinds of tree elements

The kinds of nodes and tokens of a syntax tree. A kind also has a number: its place in the order of
this list.

## Main definitions

* `Kind`: the kind of a node or token.
* `Kind.number`, `Kind.ofNumber`: kinds as numbers.
* `Kind.isTrivia`, `Kind.isReserved`, `Kind.punctuation?`: classes of tokens.
* `Kind.ofKeyword?`, `Kind.keywordText?`: reserved words.
-/

set_option autoImplicit false

namespace QuerySemantics

/-- **Kind** of a node or token. -/
inductive Kind where
  | compilationUnit
  | selectQuery
  | selectClause
  | topClause
  | expressionSelectColumn
  | wildcardSelectColumn
  | aliasClause
  | fromClause
  | whereClause
  | groupByClause
  | havingClause
  | orderedQuery
  | orderByColumn
  | combinedQuery
  | parenthesizedQuery
  | commonTableExpressionQuery
  | commonTableExpression
  | columnNameList
  | namedTableReference
  | derivedTableReference
  | joinedTableReference
  | joinCondition
  | parenthesizedTableReference
  | nameExpression
  | variableExpression
  | literalExpression
  | unaryExpression
  | binaryExpression
  | parenthesizedExpression
  | propertyAccessExpression
  | methodInvocationExpression
  | functionInvocationExpression
  | countAllExpression
  | argumentList
  | castExpression
  | typeReference
  | isNullExpression
  | caseExpression
  | caseLabel
  | singleRowSubselect
  | existsSubselect
  | allAnySubselect
  | identifier
  | numericLiteral
  | stringLiteral
  | allKeyword
  | andKeyword
  | anyKeyword
  | asKeyword
  | ascKeyword
  | byKeyword
  | caseKeyword
  | castKeyword
  | crossKeyword
  | descKeyword
  | distinctKeyword
  | elseKeyword
  | endKeyword
  | exceptKeyword
  | existsKeyword
  | falseKeyword
  | fromKeyword
  | fullKeyword
  | groupKeyword
  | havingKeyword
  | innerKeyword
  | intersectKeyword
  | isKeyword
  | joinKeyword
  | leftKeyword
  | likeKeyword
  | notKeyword
  | nullKeyword
  | onKeyword
  | orKeyword
  | orderKeyword
  | outerKeyword
  | rightKeyword
  | selectKeyword
  | someKeyword
  | thenKeyword
  | tiesKeyword
  | topKeyword
  | trueKeyword
  | unionKeyword
  | whenKeyword
  | whereKeyword
  | withKeyword
  | openParen
  | closeParen
  | comma
  | dot
  | atSign
  | star
  | plus
  | minus
  | slash
  | percent
  | ampersand
  | bar
  | caret
  | tilde
  | equals
  | notEquals
  | less
  | lessOrEqual
  | greater
  | greaterOrEqual
  | whitespace
  | lineComment
  | blockComment
  | error
deriving DecidableEq, Repr, Inhabited

namespace Kind

/-- Every kind, in the order of the numbers. -/
def all : List Kind :=
  [.compilationUnit, .selectQuery, .selectClause, .topClause, .expressionSelectColumn,
    .wildcardSelectColumn, .aliasClause, .fromClause, .whereClause, .groupByClause, .havingClause,
    .orderedQuery, .orderByColumn, .combinedQuery, .parenthesizedQuery,
    .commonTableExpressionQuery, .commonTableExpression, .columnNameList, .namedTableReference,
    .derivedTableReference, .joinedTableReference, .joinCondition, .parenthesizedTableReference,
    .nameExpression, .variableExpression, .literalExpression, .unaryExpression, .binaryExpression,
    .parenthesizedExpression, .propertyAccessExpression, .methodInvocationExpression,
    .functionInvocationExpression, .countAllExpression, .argumentList, .castExpression,
    .typeReference, .isNullExpression, .caseExpression, .caseLabel, .singleRowSubselect,
    .existsSubselect, .allAnySubselect, .identifier, .numericLiteral, .stringLiteral, .allKeyword,
    .andKeyword, .anyKeyword, .asKeyword, .ascKeyword, .byKeyword, .caseKeyword, .castKeyword,
    .crossKeyword, .descKeyword, .distinctKeyword, .elseKeyword, .endKeyword, .exceptKeyword,
    .existsKeyword, .falseKeyword, .fromKeyword, .fullKeyword, .groupKeyword, .havingKeyword,
    .innerKeyword, .intersectKeyword, .isKeyword, .joinKeyword, .leftKeyword, .likeKeyword,
    .notKeyword, .nullKeyword, .onKeyword, .orKeyword, .orderKeyword, .outerKeyword, .rightKeyword,
    .selectKeyword, .someKeyword, .thenKeyword, .tiesKeyword, .topKeyword, .trueKeyword,
    .unionKeyword, .whenKeyword, .whereKeyword, .withKeyword, .openParen, .closeParen, .comma,
    .dot, .atSign, .star, .plus, .minus, .slash, .percent, .ampersand, .bar, .caret, .tilde,
    .equals, .notEquals, .less, .lessOrEqual, .greater, .greaterOrEqual, .whitespace, .lineComment,
    .blockComment, .error]

/-- The identifier of a kind in listings of trees. -/
def name : Kind → String
  | .compilationUnit => "CompilationUnit"
  | .selectQuery => "SelectQuery"
  | .selectClause => "SelectClause"
  | .topClause => "TopClause"
  | .expressionSelectColumn => "ExpressionSelectColumn"
  | .wildcardSelectColumn => "WildcardSelectColumn"
  | .aliasClause => "Alias"
  | .fromClause => "FromClause"
  | .whereClause => "WhereClause"
  | .groupByClause => "GroupByClause"
  | .havingClause => "HavingClause"
  | .orderedQuery => "OrderedQuery"
  | .orderByColumn => "OrderByColumn"
  | .combinedQuery => "CombinedQuery"
  | .parenthesizedQuery => "ParenthesizedQuery"
  | .commonTableExpressionQuery => "CommonTableExpressionQuery"
  | .commonTableExpression => "CommonTableExpression"
  | .columnNameList => "ColumnNameList"
  | .namedTableReference => "NamedTableReference"
  | .derivedTableReference => "DerivedTableReference"
  | .joinedTableReference => "JoinedTableReference"
  | .joinCondition => "JoinCondition"
  | .parenthesizedTableReference => "ParenthesizedTableReference"
  | .nameExpression => "NameExpression"
  | .variableExpression => "VariableExpression"
  | .literalExpression => "LiteralExpression"
  | .unaryExpression => "UnaryExpression"
  | .binaryExpression => "BinaryExpression"
  | .parenthesizedExpression => "ParenthesizedExpression"
  | .propertyAccessExpression => "PropertyAccessExpression"
  | .methodInvocationExpression => "MethodInvocationExpression"
  | .functionInvocationExpression => "FunctionInvocationExpression"
  | .countAllExpression => "CountAllExpression"
  | .argumentList => "ArgumentList"
  | .castExpression => "CastExpression"
  | .typeReference => "TypeReference"
  | .isNullExpression => "IsNullExpression"
  | .caseExpression => "CaseExpression"
  | .caseLabel => "CaseLabel"
  | .singleRowSubselect => "SingleRowSubselect"
  | .existsSubselect => "ExistsSubselect"
  | .allAnySubselect => "AllAnySubselect"
  | .identifier => "Identifier"
  | .numericLiteral => "NumericLiteral"
  | .stringLiteral => "StringLiteral"
  | .allKeyword => "AllKeyword"
  | .andKeyword => "AndKeyword"
  | .anyKeyword => "AnyKeyword"
  | .asKeyword => "AsKeyword"
  | .ascKeyword => "AscKeyword"
  | .byKeyword => "ByKeyword"
  | .caseKeyword => "CaseKeyword"
  | .castKeyword => "CastKeyword"
  | .crossKeyword => "CrossKeyword"
  | .descKeyword => "DescKeyword"
  | .distinctKeyword => "DistinctKeyword"
  | .elseKeyword => "ElseKeyword"
  | .endKeyword => "EndKeyword"
  | .exceptKeyword => "ExceptKeyword"
  | .existsKeyword => "ExistsKeyword"
  | .falseKeyword => "FalseKeyword"
  | .fromKeyword => "FromKeyword"
  | .fullKeyword => "FullKeyword"
  | .groupKeyword => "GroupKeyword"
  | .havingKeyword => "HavingKeyword"
  | .innerKeyword => "InnerKeyword"
  | .intersectKeyword => "IntersectKeyword"
  | .isKeyword => "IsKeyword"
  | .joinKeyword => "JoinKeyword"
  | .leftKeyword => "LeftKeyword"
  | .likeKeyword => "LikeKeyword"
  | .notKeyword => "NotKeyword"
  | .nullKeyword => "NullKeyword"
  | .onKeyword => "OnKeyword"
  | .orKeyword => "OrKeyword"
  | .orderKeyword => "OrderKeyword"
  | .outerKeyword => "OuterKeyword"
  | .rightKeyword => "RightKeyword"
  | .selectKeyword => "SelectKeyword"
  | .someKeyword => "SomeKeyword"
  | .thenKeyword => "ThenKeyword"
  | .tiesKeyword => "TiesKeyword"
  | .topKeyword => "TopKeyword"
  | .trueKeyword => "TrueKeyword"
  | .unionKeyword => "UnionKeyword"
  | .whenKeyword => "WhenKeyword"
  | .whereKeyword => "WhereKeyword"
  | .withKeyword => "WithKeyword"
  | .openParen => "LParen"
  | .closeParen => "RParen"
  | .comma => "Comma"
  | .dot => "Dot"
  | .atSign => "At"
  | .star => "Star"
  | .plus => "Plus"
  | .minus => "Minus"
  | .slash => "Slash"
  | .percent => "Percent"
  | .ampersand => "Ampersand"
  | .bar => "Bar"
  | .caret => "Caret"
  | .tilde => "Tilde"
  | .equals => "Equals"
  | .notEquals => "NotEquals"
  | .less => "Less"
  | .lessOrEqual => "LessOrEqual"
  | .greater => "Greater"
  | .greaterOrEqual => "GreaterOrEqual"
  | .whitespace => "Whitespace"
  | .lineComment => "LineComment"
  | .blockComment => "BlockComment"
  | .error => "Error"

/-- The kind with a given identifier. -/
def ofName? (name : String) : Option Kind :=
  all.find? (·.name == name)

/-- **Number** of a kind. -/
def number (kind : Kind) : Nat :=
  all.idxOf kind

/-- **Kind of a number**; a number beyond the last kind stands for an error. -/
def ofNumber (number : Nat) : Kind :=
  all.getD number .error

/-- Whether tokens of the kind carry no meaning: blanks and comments. -/
def isTrivia : Kind → Bool
  | .whitespace | .lineComment | .blockComment => true
  | _ => false

/-- The reserved words with their kinds, in upper case. -/
def keywords : List (Kind × String) :=
  [(.allKeyword, "ALL"), (.andKeyword, "AND"), (.anyKeyword, "ANY"), (.asKeyword, "AS"),
    (.ascKeyword, "ASC"), (.byKeyword, "BY"), (.caseKeyword, "CASE"), (.castKeyword, "CAST"),
    (.crossKeyword, "CROSS"), (.descKeyword, "DESC"), (.distinctKeyword, "DISTINCT"),
    (.elseKeyword, "ELSE"), (.endKeyword, "END"), (.exceptKeyword, "EXCEPT"),
    (.existsKeyword, "EXISTS"), (.falseKeyword, "FALSE"), (.fromKeyword, "FROM"),
    (.fullKeyword, "FULL"), (.groupKeyword, "GROUP"), (.havingKeyword, "HAVING"),
    (.innerKeyword, "INNER"), (.intersectKeyword, "INTERSECT"), (.isKeyword, "IS"),
    (.joinKeyword, "JOIN"), (.leftKeyword, "LEFT"), (.likeKeyword, "LIKE"), (.notKeyword, "NOT"),
    (.nullKeyword, "NULL"), (.onKeyword, "ON"), (.orKeyword, "OR"), (.orderKeyword, "ORDER"),
    (.outerKeyword, "OUTER"), (.rightKeyword, "RIGHT"), (.selectKeyword, "SELECT"),
    (.someKeyword, "SOME"), (.thenKeyword, "THEN"), (.tiesKeyword, "TIES"), (.topKeyword, "TOP"),
    (.trueKeyword, "TRUE"), (.unionKeyword, "UNION"), (.whenKeyword, "WHEN"),
    (.whereKeyword, "WHERE"), (.withKeyword, "WITH")]

/-- **Text of a reserved word**, in upper case. -/
def keywordText? (kind : Kind) : Option String :=
  (keywords.find? (·.1 == kind)).map (·.2)

/-- Whether the kind is that of a reserved word. -/
def isReserved (kind : Kind) : Bool :=
  kind.keywordText?.isSome

/-- **Reserved word**: the kind that a text is reserved for, ignoring the case of ASCII letters. -/
def ofKeyword? (text : String) : Option Kind :=
  let upper := text.map Char.toUpper
  (keywords.find? (·.2 == upper)).map (·.1)

/-- **Punctuation**: the fixed text of punctuation and operator tokens. -/
def punctuation? : Kind → Option String
  | .openParen => some "("
  | .closeParen => some ")"
  | .comma => some ","
  | .dot => some "."
  | .atSign => some "@"
  | .star => some "*"
  | .plus => some "+"
  | .minus => some "-"
  | .slash => some "/"
  | .percent => some "%"
  | .ampersand => some "&"
  | .bar => some "|"
  | .caret => some "^"
  | .tilde => some "~"
  | .equals => some "="
  | .notEquals => some "<>"
  | .less => some "<"
  | .lessOrEqual => some "<="
  | .greater => some ">"
  | .greaterOrEqual => some ">="
  | _ => none

end Kind

end QuerySemantics
