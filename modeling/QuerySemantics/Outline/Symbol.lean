import QuerySemantics.Outline.Basic

/-!
# Outlines of symbols

What there is to know about a symbol besides its kind, name and type.

## Main definitions

* `Symbol.parts`: the parts of a symbol, by label.
-/

set_option autoImplicit false

namespace QuerySemantics

namespace Outline

/-- Columns of tables. -/
def columns (items : List Column) : Outline :=
  ofList (.symbol ∘ .column) items

/-- Columns that a query puts out. -/
def queryColumns (items : List QueryColumn) : Outline :=
  ofList (.symbol ∘ .queryColumn) items

/-- Parameters of functions and methods. -/
def parameters (items : List Parameter) : Outline :=
  ofList (.symbol ∘ .parameter) items

end Outline

/-- The parts of an aggregate signature, by label. -/
def AggregateSignature.parts : AggregateSignature → List (String × Outline)
  | .any returns => [("sig", .text "Any"), ("returns", .type returns)]
  | .numeric => [("sig", .text "Numeric")]
  | .sameAsArgument => [("sig", .text "SameAsArgument")]
  | .fixed parameter returns =>
    [("sig", .text "Fixed"), ("parameter", .type parameter), ("returns", .type returns)]

/-- **Parts of a symbol**, by label. -/
def Symbol.parts : Symbol → List (String × Outline)
  | .bad _ _ | .badTable _ | .parameter _ => []
  | .column it => [("ordinal", .number it.ordinal)]
  | .schemaTable it => [("columns", .columns it.columns)]
  | .derivedTable it => [("columns", .columns it.columns)]
  | .tableInstance it =>
    [("table", .symbol it.source.symbol), ("table_name", .text it.source.name),
      ("columns", .ofList .symbol it.columnSymbols)]
  | .instanceColumn owner it =>
    [("column", .symbol (.column it.column)), ("instance", .symbol (.tableInstance owner)),
      ("slot", .slot it.slot)]
  | .queryColumn it => [("slot", .slot it.slot)]
  | .commonTable it =>
    [("columns", .columns it.columns), ("query", .text it.kind.describe),
      ("output", .queryColumns it.output)]
  | .hostVariable it => [("value", .text it.value.describe)]
  | .function it => [("params", .parameters it.parameters)]
  | .method it => [("host", .type it.host), ("params", .parameters it.parameters)]
  | .aggregate it => [("signature", .group it.signature.parts)]
  | .property it => [("host", .type it.host)]

end QuerySemantics
