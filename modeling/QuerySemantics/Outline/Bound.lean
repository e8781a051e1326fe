import QuerySemantics.Bound.Basic
import QuerySemantics.Outline.Symbol

/-!
# Outlines of bound trees

Each bound node is shown with its kind, the type of an expression, and its parts from left to right.
A query shows its output columns last.

## Main definitions

* `Bound.Expr.outline`, `Bound.TableRef.outline`, `Bound.Query.outline`: the outlines of bound trees.
* `Bound.Node.outline`: the outline of any bound node.
-/

set_option autoImplicit false

namespace QuerySemantics

namespace Bound

/-- The outline of a table instance. -/
def instanceOutline (table : TableInstance) : Outline :=
  .symbol (.tableInstance table)

/-- The outline of a column that a `*` stands for. -/
def ExpandedColumn.outline (column : ExpandedColumn) : Outline :=
  .list [.symbol (.instanceColumn column.owner column.input), .symbol (.queryColumn column.output)]

/-- The labelled parts of a definition. -/
def definitionParts (symbol : CommonTable) : List (String × Outline) :=
  [("symbol", .symbol (.commonTable symbol))]

/-- The outline of a query with the given parts, followed by its output columns. -/
def queryOutline (query : Query) (parts : List (String × Outline)) : Outline :=
  .boundNode query.kind none (parts ++ [("output", .queryColumns query.output)])

mutual

/-- **Outline of an expression.** -/
def Expr.outline : Expr → Outline
  | .name symbol => .boundNode .name symbol.type [("symbol", .symbol symbol)]
  | .parameter symbol => .boundNode .parameter symbol.type [("symbol", .symbol symbol)]
  | .literal value type => .boundNode .literal type [("value", .text value.describe)]
  | .unary operator operand type =>
    .boundNode .unary type [("operator", .text operator.describe), ("operand", operand.outline)]
  | .binary left operator right type =>
    .boundNode .binary type
      [("operator", .text operator.describe), ("left", left.outline), ("right", right.outline)]
  | .call symbol arguments type =>
    .boundNode .call type
      [("symbol", .symbol symbol), ("arguments", .list (Expr.outlines arguments))]
  | .aggregate symbol argument type =>
    .boundNode .aggregate type
      [("symbol", .symbol symbol), ("argument", Expr.outline? argument)]
  | .property target symbol =>
    .boundNode .property symbol.type [("target", target.outline), ("symbol", .symbol symbol)]
  | .method target symbol arguments =>
    .boundNode .method symbol.type
      [("target", target.outline), ("symbol", .symbol symbol),
        ("arguments", .list (Expr.outlines arguments))]
  | .cast operand target conversion type =>
    .boundNode .cast type
      [("expression", operand.outline), ("target", .type target),
        ("conversion", .text conversion.describe)]
  | .isNull operand negated =>
    .boundNode .isNull SqlType.boolean
      [("expression", operand.outline), ("negated", .flag negated)]
  | .cases input labels otherwise type =>
    .boundNode .cases type
      [("input", Expr.outline? input), ("labels", .list (CaseLabel.outlines labels)),
        ("otherwise", Expr.outline? otherwise)]
  | .subselect query type => .boundNode .subselect type [("query", query.outline)]
  | .existence query => .boundNode .existence SqlType.boolean [("query", query.outline)]
  | .quantified left operator quantifier query =>
    .boundNode .quantified SqlType.boolean
      [("left", left.outline), ("operator", .text operator.describe),
        ("quantifier", .text quantifier.describe), ("query", query.outline)]
  | .slot it => .boundNode .slot it.type [("slot", .slot it)]

/-- The outlines of several expressions. -/
def Expr.outlines : List Expr → List Outline
  | [] => []
  | it :: rest => it.outline :: Expr.outlines rest

/-- The outline of an expression that need not be there. -/
def Expr.outline? : Option Expr → Outline
  | none => .missing
  | some it => it.outline

/-- The outline of a `CASE` label. -/
def CaseLabel.outline : CaseLabel → Outline
  | .mk condition result =>
    .boundNode .caseLabel none [("when", condition.outline), ("then", result.outline)]

/-- The outlines of several `CASE` labels. -/
def CaseLabel.outlines : List CaseLabel → List Outline
  | [] => []
  | it :: rest => it.outline :: CaseLabel.outlines rest

/-- **Outline of a table reference.** -/
def TableRef.outline : TableRef → Outline
  | .named table => .boundNode .namedTable none [("instance", instanceOutline table)]
  | .derived table query =>
    .boundNode .derivedTable none
      [("instance", instanceOutline table), ("query", query.outline)]
  | .joined left kind right condition =>
    .boundNode .joinedTable none
      [("join", .text kind.describe), ("left", left.outline), ("right", right.outline),
        ("condition", Expr.outline? condition),
        ("instances", .ofList instanceOutline (left.instances ++ right.instances))]

/-- The outlines of several table references. -/
def TableRef.outlines : List TableRef → List Outline
  | [] => []
  | it :: rest => it.outline :: TableRef.outlines rest

/-- The outline of an entry of a select list. -/
def SelectItem.outline : SelectItem → Outline
  | .column value column =>
    .boundNode .selectColumn none
      [("expression", value.outline), ("column", .symbol (.queryColumn column))]
  | .wildcard table columns =>
    .boundNode .wildcard none
      [("table", .ofOption instanceOutline table),
        ("columns", .ofList ExpandedColumn.outline columns)]

/-- The outlines of several entries of a select list. -/
def SelectItem.outlines : List SelectItem → List Outline
  | [] => []
  | it :: rest => it.outline :: SelectItem.outlines rest

/-- The outlines of the entries of an `ORDER BY`. -/
def OrderKey.outlines : List OrderKey → List Outline
  | [] => []
  | .mk key descending :: rest =>
    .group [("expression", key.outline), ("descending", .flag descending)] ::
      OrderKey.outlines rest

/-- The outlines of the definitions of a `WITH`. -/
def Definition.outlines : List Definition → List Outline
  | [] => []
  | .mk symbol query :: rest =>
    .group (definitionParts symbol ++ [("query", query.outline)]) :: Definition.outlines rest

/-- **Outline of a query.** -/
def Query.outline : Query → Outline
  | .select distinct tables filter grouping having items =>
    queryOutline (.select distinct tables filter grouping having items)
      [("distinct", .flag distinct), ("from", .list (TableRef.outlines tables)),
        ("where", Expr.outline? filter), ("group_by", .list (Expr.outlines grouping)),
        ("having", Expr.outline? having), ("select", .list (SelectItem.outlines items))]
  | .combined left operator right output =>
    queryOutline (.combined left operator right output)
      [("operator", .text operator.describe), ("left", left.outline), ("right", right.outline)]
  | .ordered input keys =>
    queryOutline (.ordered input keys)
      [("input", input.outline), ("columns", .list (OrderKey.outlines keys))]
  | .withTables definitions body =>
    queryOutline (.withTables definitions body)
      [("ctes", .list (Definition.outlines definitions)), ("query", body.outline)]
  | .top input limit withTies =>
    queryOutline (.top input limit withTies)
      [("input", input.outline), ("limit", .text (toString limit)), ("with_ties", .flag withTies)]

end

/-- **Outline of a bound node.** -/
def Node.outline : Node → Outline
  | .expr it => it.outline
  | .query it => it.outline
  | .table it => it.outline
  | .selectItem it => it.outline
  | .caseLabel it => it.outline
  | .definition (.mk symbol _) => .boundNode .commonTable none (definitionParts symbol)

end Bound

end QuerySemantics
