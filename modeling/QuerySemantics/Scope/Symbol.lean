import QuerySemantics.Catalog.Variable
import QuerySemantics.Scope.Instance

/-!
# Symbols

What a name in a query can refer to. A symbol is the same as another exactly when they have the same
identity.

## Main definitions

* `Symbol`: any symbol; `Symbol.id`, `Symbol.name`, `Symbol.type`, `Symbol.kind`.
* `SymbolKind`: the kinds of symbols.
* `Symbol.display`: a symbol as messages show it.
-/

set_option autoImplicit false

namespace QuerySemantics

/-- **Kind of symbol.** -/
inductive SymbolKind where
  | bad
  | badTable
  | column
  | schemaTable
  | derivedTable
  | tableInstance
  | instanceColumn
  | queryColumn
  | commonTable
  | parameter
  | hostVariable
  | function
  | aggregate
  | method
  | property
deriving DecidableEq, Repr, Inhabited

namespace SymbolKind

/-- Every kind of symbol. -/
def all : List SymbolKind :=
  [.bad, .badTable, .column, .schemaTable, .derivedTable, .tableInstance, .instanceColumn,
    .queryColumn, .commonTable, .parameter, .hostVariable, .function, .aggregate, .method,
    .property]

/-- Whether the kind is that of a name that did not resolve. -/
def isBad : SymbolKind → Bool
  | .bad | .badTable => true
  | _ => false

/-- The kind in words. -/
def words : SymbolKind → String
  | .bad => "unresolved symbol"
  | .badTable => "unresolved table"
  | .column => "column"
  | .schemaTable => "table"
  | .derivedTable => "derived table"
  | .tableInstance => "table instance"
  | .instanceColumn => "column"
  | .queryColumn => "query column"
  | .commonTable => "common table expression"
  | .hostVariable => "variable"
  | .parameter => "parameter"
  | .function => "function"
  | .aggregate => "aggregate"
  | .method => "method"
  | .property => "property"

/-- The identifier of a kind in listings of symbols. -/
def describe : SymbolKind → String
  | .bad => "BadSymbol"
  | .badTable => "BadTable"
  | .column => "Column"
  | .schemaTable => "SchemaTable"
  | .derivedTable => "DerivedTable"
  | .tableInstance => "TableInstance"
  | .instanceColumn => "TableColumnInstance"
  | .queryColumn => "QueryColumnInstance"
  | .commonTable => "CommonTableExpression"
  | .hostVariable => "Variable"
  | .parameter => "Parameter"
  | .function => "Function"
  | .aggregate => "Aggregate"
  | .method => "Method"
  | .property => "Property"

end SymbolKind

/-- **Symbol.** A name that did not resolve refers to a bad symbol. The column of a table instance
comes with the instance that it belongs to. -/
inductive Symbol where
  | bad (id : SymbolId) (name : String)
  | badTable (table : BadTable)
  | column (column : Column)
  | schemaTable (table : SchemaTable)
  | derivedTable (table : DerivedTable)
  | tableInstance (table : TableInstance)
  | instanceColumn (owner : TableInstance) (column : InstanceColumn)
  | queryColumn (column : QueryColumn)
  | commonTable (table : CommonTable)
  | hostVariable (it : Variable)
  | parameter (it : Parameter)
  | function (it : Function)
  | aggregate (it : Aggregate)
  | method (it : Method)
  | property (it : Property)
deriving Inhabited

namespace Symbol

/-- **Identity** of a symbol. -/
def id : Symbol → SymbolId
  | .bad id _ => id
  | .badTable it => it.id
  | .column it => it.id
  | .schemaTable it => it.id
  | .derivedTable it => it.id
  | .tableInstance it => it.id
  | .instanceColumn _ it => it.id
  | .queryColumn it => it.id
  | .commonTable it => it.id
  | .hostVariable it => it.id
  | .parameter it => it.id
  | .function it => it.id
  | .aggregate it => it.id
  | .method it => it.id
  | .property it => it.id

/-- **Name** of a symbol. -/
def name : Symbol → String
  | .bad _ name => name
  | .badTable it => it.name
  | .column it => it.name
  | .schemaTable it => it.name
  | .derivedTable it => it.name
  | .tableInstance it => it.name
  | .instanceColumn _ it => it.name
  | .queryColumn it => it.name
  | .commonTable it => it.name
  | .hostVariable it => it.name
  | .parameter it => it.name
  | .function it => it.name
  | .aggregate it => it.name
  | .method it => it.name
  | .property it => it.name

/-- **Kind** of a symbol. -/
def kind : Symbol → SymbolKind
  | .bad _ _ => .bad
  | .badTable _ => .badTable
  | .column _ => .column
  | .schemaTable _ => .schemaTable
  | .derivedTable _ => .derivedTable
  | .tableInstance _ => .tableInstance
  | .instanceColumn _ _ => .instanceColumn
  | .queryColumn _ => .queryColumn
  | .commonTable _ => .commonTable
  | .hostVariable _ => .hostVariable
  | .parameter _ => .parameter
  | .function _ => .function
  | .aggregate _ => .aggregate
  | .method _ => .method
  | .property _ => .property

/-- **Type** of the value that a symbol denotes. Tables and their instances denote rows, which are
objects. Functions and methods have the type of their result, and an aggregate as far as that is
known. What did not resolve has no known type. -/
def type : Symbol → SqlType
  | .bad _ _ | .badTable _ => .unknown
  | .schemaTable _ | .derivedTable _ | .tableInstance _ | .commonTable _ => .object
  | .column it => it.type
  | .instanceColumn _ it => it.type
  | .queryColumn it => it.type
  | .hostVariable it => it.type
  | .parameter it => it.type
  | .function it => it.returns
  | .aggregate it => it.signature.declared
  | .method it => it.returns
  | .property it => it.type

/-- Symbols are compared by identity. -/
instance : BEq Symbol := ⟨fun a b => a.id == b.id⟩

/-- Whether the symbol stands for a name that did not resolve. -/
def isBad (symbol : Symbol) : Bool :=
  symbol.kind.isBad

/-- The table instance, of a symbol that is one. -/
def tableInstance? : Symbol → Option TableInstance
  | .tableInstance it => some it
  | _ => none

/-- **Display**: the kind in words and the name in quotes. -/
def display (symbol : Symbol) : String :=
  symbol.kind.words ++ " '" ++ symbol.name ++ "'"

/-- How a symbol is named among the candidates of an ambiguous name. -/
def candidate : Symbol → String
  | .instanceColumn owner it => owner.name ++ "." ++ it.name
  | other => other.display

end Symbol

/-- The symbol of the table that an instance is an occurrence of. -/
def TableSource.symbol : TableSource → Symbol
  | .schema table => .schemaTable table
  | .derived table => .derivedTable table
  | .common table => .commonTable table
  | .bad table => .badTable table

/-- The symbols of the columns of an instance. -/
def TableInstance.columnSymbols (table : TableInstance) : List Symbol :=
  table.columns.map (.instanceColumn table)

end QuerySemantics
