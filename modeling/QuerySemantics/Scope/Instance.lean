import QuerySemantics.Bound.Kind
import QuerySemantics.Catalog.Symbol

/-!
# Table instances and query columns

Symbols that exist within one query only. Each occurrence of a table in a `FROM` clause is an
instance of it with columns of its own, so that a table joined with itself has two columns of each
name. Every column that a query computes has a slot for the value of the current row.

## Main definitions

* `ValueSlot`, `QueryColumn`: slots, and the columns that a query puts out.
* `TableSource`: what a table reference can refer to.
* `TableInstance`, `InstanceColumn`: an occurrence of a table, and its columns.
* `TableInstance.create`: a new instance, with one column for each column of its source.
-/

set_option autoImplicit false

namespace QuerySemantics

/-! ## Columns of queries -/

/-- **Value slot**: a register for one value of the current row. -/
structure ValueSlot where
  id : SymbolId
  name : String
  type : SqlType
deriving Inhabited

/-- **Query column**: a column that a query puts out. -/
structure QueryColumn where
  id : SymbolId
  name : String
  slot : ValueSlot
deriving Inhabited

namespace QueryColumn

/-- The type of the values in a query column. -/
def type (column : QueryColumn) : SqlType :=
  column.slot.type

/-- A new query column with a slot of its own. -/
def create (name : String) (type : SqlType) : Supply QueryColumn := do
  let slot ← Supply.fresh
  return ⟨← Supply.fresh, name, ⟨slot, name, type⟩⟩

/-- The names and types of query columns. -/
def shape (columns : List QueryColumn) : List (String × SqlType) :=
  columns.map fun column => (column.name, column.type)

end QueryColumn

/-! ## Sources of tables -/

/-- **Derived table**: the shape of a query in a `FROM` clause. -/
structure DerivedTable where
  id : SymbolId
  name : String
  columns : List Column
deriving Inhabited

/-- **Common table**: a table that a `WITH` clause defines, with the kind and the output of the query
that defines it. -/
structure CommonTable where
  id : SymbolId
  name : String
  columns : List Column
  kind : Bound.NodeKind
  output : List QueryColumn
deriving Inhabited

/-- A new derived table with columns of the given names and types. -/
def DerivedTable.create (name : String) (shape : List (String × SqlType)) : Supply DerivedTable := do
  let id ← Supply.fresh
  return ⟨id, name, ← Column.list shape⟩

/-- A new common table with columns of the given names and types, over a query of the given kind and
output. -/
def CommonTable.create (name : String) (shape : List (String × SqlType)) (kind : Bound.NodeKind)
    (output : List QueryColumn) : Supply CommonTable := do
  let id ← Supply.fresh
  return ⟨id, name, ← Column.list shape, kind, output⟩

/-- **Missing table**: stands for a table that is not there. It has no columns. -/
structure BadTable where
  id : SymbolId
  name : String
deriving Inhabited

/-- **Source of a table instance.** -/
inductive TableSource where
  | schema (table : SchemaTable)
  | derived (table : DerivedTable)
  | common (table : CommonTable)
  | bad (table : BadTable)
deriving Inhabited

namespace TableSource

/-- The name of the table. -/
def name : TableSource → String
  | .schema table => table.name
  | .derived table => table.name
  | .common table => table.name
  | .bad table => table.name

/-- The columns of the table. -/
def columns : TableSource → List Column
  | .schema table => table.columns
  | .derived table => table.columns
  | .common table => table.columns
  | .bad _ => []

/-- Whether the table is missing. -/
def isBad : TableSource → Bool
  | .bad _ => true
  | _ => false

end TableSource

/-! ## Instances -/

/-- **Instance column**: a column of one occurrence of a table. -/
structure InstanceColumn where
  id : SymbolId
  column : Column
  slot : ValueSlot
deriving Inhabited

namespace InstanceColumn

/-- The name of an instance column is that of the table's column. -/
def name (column : InstanceColumn) : String :=
  column.column.name

/-- The type of an instance column is that of the table's column. -/
def type (column : InstanceColumn) : SqlType :=
  column.column.type

end InstanceColumn

/-- **Table instance**: one occurrence of a table, under the name that the occurrence gives it. -/
structure TableInstance where
  id : SymbolId
  name : String
  source : TableSource
  columns : List InstanceColumn
deriving Inhabited

namespace TableInstance

/-- New columns for an instance called `name`, one for each of the given columns. -/
def createColumns (name : String) : List Column → Supply (List InstanceColumn)
  | [] => pure []
  | column :: rest => do
    let id ← Supply.fresh
    let slot ← Supply.fresh
    let columns ← createColumns name rest
    return ⟨id, column, ⟨slot, name ++ "." ++ column.name, column.type⟩⟩ :: columns

/-- **New instance** of a table. -/
def create (name : String) (source : TableSource) : Supply TableInstance := do
  let id ← Supply.fresh
  return ⟨id, name, source, ← createColumns name source.columns⟩

end TableInstance

end QuerySemantics
