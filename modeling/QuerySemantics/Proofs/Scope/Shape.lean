import QuerySemantics.Binding.Query
import QuerySemantics.Proofs.Catalog.Known

/-!
# Names and types of new columns

The columns of a table pass their names and types on, from a query to the table that it defines, from
a table to its instances, and from an instance to the output columns that a `*` stands for.

## Main definitions

* `Column.shape`: the names and types of columns.

## Main results

* `Supply.Gives.derivedTable_shape`, `Supply.Gives.commonTable_shape`: the table of a query.
* `Supply.Gives.tableInstance_shape`: an instance of a table.
* `Supply.Gives.expand_shape`: the output columns for instances.
-/

set_option autoImplicit false

namespace QuerySemantics

/-- The names and types of columns. -/
def Column.shape (columns : List Column) : List (String × SqlType) :=
  columns.map fun column => (column.name, column.type)

/-- The names and types of the columns of an instance. -/
def TableInstance.shape (table : TableInstance) : List (String × SqlType) :=
  Column.shape (table.columns.map InstanceColumn.column)

namespace Supply.Gives

/-- New columns have the names and types that are given. -/
theorem columns_shape (ordinal : Nat) (shape : List (String × SqlType)) :
    Gives (Column.listFrom ordinal shape) fun made => Column.shape made = shape := by
  induction shape generalizing ordinal with
  | nil => exact .pure rfl
  | cons entry rest ih =>
    exact any.bind fun _ _ => (ih _).bind fun _ h => .pure (congrArg (entry :: ·) h)

/-- **The table of a query** in a `FROM` clause. -/
theorem derivedTable_shape (name : String) (shape : List (String × SqlType)) :
    Gives (DerivedTable.create name shape) fun table => Column.shape table.columns = shape :=
  any.bind fun _ _ => (columns_shape 0 shape).bind fun _ h => .pure h

/-- **The table of a query** in a `WITH` clause. -/
theorem commonTable_shape (name : String) (shape : List (String × SqlType)) (kind : Bound.NodeKind)
    (output : List QueryColumn) :
    Gives (CommonTable.create name shape kind output) fun table =>
      table.name = name ∧ Column.shape table.columns = shape :=
  any.bind fun _ _ => (columns_shape 0 shape).bind fun _ h => .pure ⟨rfl, h⟩

/-- New columns of an instance are columns of its table. -/
theorem instanceColumns_column (name : String) (columns : List Column) :
    Gives (TableInstance.createColumns name columns) fun made =>
      made.map InstanceColumn.column = columns := by
  induction columns with
  | nil => exact .pure rfl
  | cons column rest ih =>
    exact any.bind fun _ _ => any.bind fun _ _ => ih.bind fun _ h =>
      .pure (congrArg (column :: ·) h)

/-- **An instance** has the columns of its table. -/
theorem tableInstance_shape (name : String) (source : TableSource) :
    Gives (TableInstance.create name source) fun table =>
      table.shape = Column.shape source.columns :=
  any.bind fun _ _ => (instanceColumns_column name source.columns).bind fun _ h =>
    .pure (congrArg Column.shape h)

/-- New output columns for columns of an instance have their names and types. -/
theorem expandColumns_shape (owner : TableInstance) (columns : List InstanceColumn) :
    Gives (Binding.expandColumns owner columns) fun made =>
      QueryColumn.shape (made.map (·.output)) = Column.shape (columns.map InstanceColumn.column) := by
  induction columns with
  | nil => exact .pure rfl
  | cons column rest ih =>
    have houtput : Gives (QueryColumn.create column.name column.type) fun output =>
        (output.name, output.type) = (column.name, column.type) :=
      any.bind fun _ _ => any.bind fun _ _ => .pure rfl
    refine houtput.bind fun output houtput => ih.bind fun made h => .pure ?_
    change (output.name, output.type) :: QueryColumn.shape _ = _
    rw [houtput, h]
    rfl

/-- **The output columns for instances** have the names and types of their columns. -/
theorem expand_shape (instances : List TableInstance) :
    Gives (Binding.expand instances) fun made =>
      QueryColumn.shape (made.map (·.output)) = instances.flatMap TableInstance.shape := by
  induction instances with
  | nil => exact .pure rfl
  | cons table rest ih =>
    refine (expandColumns_shape table table.columns).bind fun made hmade => ih.bind fun others h => ?_
    refine .pure ?_
    change QueryColumn.shape (made.map (·.output)) = table.shape at hmade
    rw [List.flatMap_cons, ← h, ← hmade]
    simp only [QueryColumn.shape, List.map_append]

end Supply.Gives

end QuerySemantics
