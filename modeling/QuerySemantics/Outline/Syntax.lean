import QuerySemantics.Ast.Read
import QuerySemantics.Outline.Basic

/-!
# Outlines of syntax nodes

The pieces that were read from one node, by label. A piece that is a node itself is referred to, not
shown.

## Main definitions

* `Piece.parts?`: the pieces of a node, by label.
-/

set_option autoImplicit false

namespace QuerySemantics

namespace Outline

/-- A piece of a node that need not be there, referred to by its node. -/
def piece {α : Type} (info : α → NodeInfo) : Option α → Outline :=
  ofOption (.syntaxNode ∘ info)

/-- Pieces of a node, referred to by their nodes. -/
def pieces {α : Type} (info : α → NodeInfo) : List α → Outline :=
  ofList (.syntaxNode ∘ info)

/-- A token that need not be there. -/
def leaf : Option Token → Outline :=
  ofOption .token

end Outline

open Ast Outline

/-- The pieces of an expression, by label. -/
def Ast.Expr.parts : Ast.Expr → List (String × Outline)
  | .name _ ident | .parameter _ ident | .countAll _ ident => [("name", leaf ident)]
  | .literal _ it => [("token", leaf it)]
  | .unary _ operator operand => [("operator", leaf operator), ("operand", piece Expr.info operand)]
  | .binary _ left operator negated right =>
    [("left", piece Expr.info left), ("operator", leaf operator), ("negated", .flag negated),
      ("right", piece Expr.info right)]
  | .parenthesized _ inner => [("expression", piece Expr.info inner)]
  | .property _ target ident => [("target", piece Expr.info target), ("name", leaf ident)]
  | .method _ target ident arguments =>
    [("target", piece Expr.info target), ("name", leaf ident),
      ("arguments", piece Arguments.info arguments)]
  | .call _ ident arguments =>
    [("name", leaf ident), ("arguments", piece Arguments.info arguments)]
  | .cast _ operand target =>
    [("expression", piece Expr.info operand), ("type", piece TypeName.info target)]
  | .isNull _ operand negated =>
    [("expression", piece Expr.info operand), ("negated", .flag negated)]
  | .cases _ input labels otherwise =>
    [("input", piece Expr.info input), ("labels", pieces CaseLabel.info labels),
      ("else", piece Expr.info otherwise)]
  | .subselect _ query | .existence _ query => [("query", piece Query.info query)]
  | .quantified _ left operator quantifier query =>
    [("left", piece Expr.info left), ("operator", leaf operator),
      ("quantifier", .text quantifier.describe), ("query", piece Query.info query)]

/-- The pieces of a table reference, by label. -/
def Ast.TableRef.parts : Ast.TableRef → List (String × Outline)
  | .named _ ident correlation =>
    [("name", leaf ident), ("alias", piece Alias.info correlation)]
  | .derived _ query ident => [("query", piece Query.info query), ("name", leaf ident)]
  | .joined _ left kind right condition =>
    [("left", piece TableRef.info left), ("right", piece TableRef.info right),
      ("join", .text kind.describe), ("condition", piece Condition.info condition)]
  | .parenthesized _ inner => [("table", piece TableRef.info inner)]

/-- The pieces of a query, by label. -/
def Ast.Query.parts : Ast.Query → List (String × Outline)
  | .select _ head source filter grouping having =>
    [("select", piece SelectClause.info head), ("from", piece FromClause.info source),
      ("where", piece Condition.info filter), ("group_by", piece GroupByClause.info grouping),
      ("having", piece Condition.info having)]
  | .combined _ left operator right =>
    [("left", piece Query.info left), ("right", piece Query.info right),
      ("operator", ofOption (.text ∘ SetOperator.describe) operator)]
  | .ordered _ input items =>
    [("query", piece Query.info input), ("columns", pieces OrderItem.info items)]
  | .withTables _ tables body =>
    [("ctes", pieces Ast.CommonTable.info tables), ("query", piece Query.info body)]
  | .parenthesized _ inner => [("query", piece Query.info inner)]

/-- **Pieces of a node**, by label; `none` for a node that is read as nothing in particular. -/
def Piece.parts? : Piece → Option (List (String × Outline))
  | .token _ | .other _ => none
  | .unit it =>
    some [("query", piece Query.info it.query), ("expression", piece Expr.info it.expression)]
  | .expr it => some it.parts
  | .query it => some it.parts
  | .table it => some it.parts
  | .selectClause (.mk _ distinct limit items) =>
    some [("distinct", .flag distinct), ("top", piece Top.info limit),
      ("columns", pieces SelectItem.info items)]
  | .top it => some [("value", leaf it.value), ("with_ties", .flag it.withTies)]
  | .selectItem (.column _ value correlation) =>
    some [("expression", piece Expr.info value), ("alias", piece Alias.info correlation)]
  | .selectItem (.wildcard _ qualifier) => some [("table", leaf qualifier)]
  | .aliasClause it => some [("name", leaf it.ident)]
  | .fromClause (.mk _ tables) => some [("tables", pieces TableRef.info tables)]
  | .condition (.mk _ predicate) => some [("predicate", piece Expr.info predicate)]
  | .groupBy (.mk _ keys) => some [("expressions", pieces Expr.info keys)]
  | .orderItem (.mk _ key descending) =>
    some [("expression", piece Expr.info key), ("descending", .flag descending)]
  | .commonTable (.mk _ ident names definition) =>
    some [("name", leaf ident), ("columns", piece ColumnNames.info names),
      ("query", piece Query.info definition)]
  | .columnNames it => some [("names", ofList .token it.idents)]
  | .arguments (.mk _ items) => some [("arguments", pieces Expr.info items)]
  | .typeName it => some [("name", leaf it.ident)]
  | .caseLabel (.mk _ test result) =>
    some [("when", piece Expr.info test), ("then", piece Expr.info result)]

end QuerySemantics
