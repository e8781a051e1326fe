import QuerySemantics.Catalog.Basic

/-!
# Sample catalogs

Two catalogs to try queries on: one with a single table, and a small sales schema with functions,
aggregates, variables and a host type that has members.

## Main definitions

* `Catalog.orders`, `Catalog.sales`.
-/

set_option autoImplicit false

namespace QuerySemantics

namespace Catalog

/-- The catalog with a table `Orders(Id INT, Total DECIMAL)` and nothing else. -/
def orders : Supply Catalog := do
  let catalog ← empty
  let table ← SchemaTable.create "Orders" [("Id", .int32), ("Total", .decimal)]
  return { catalog with tables := [table] }

/-- The host type of customer locations. -/
def point : HostType :=
  ⟨"Point", []⟩

/-- The tables of the sales catalog. -/
def salesTables : List (String × List (String × SqlType)) :=
  [("Orders",
      [("Id", .int32), ("CustomerId", .int32), ("Total", .decimal), ("OrderDate", .dateTime),
        ("Notes", .string)]),
   ("Customers",
      [("Id", .int32), ("Name", .string), ("City", .string), ("Location", .host point)])]

/-- The functions of the sales catalog: name, parameters and result. -/
def salesFunctions : List (String × List (String × SqlType) × SqlType) :=
  [("ABS", [("value", .int32)], .int32),
   ("ABS", [("value", .float64)], .float64),
   ("ABS", [("value", .decimal)], .decimal),
   ("LEN", [("text", .string)], .int32),
   ("ROUND", [("value", .float64), ("digits", .int32)], .float64),
   ("NOW", [], .dateTime)]

/-- **Sales**: orders and customers, overloaded functions, the standard aggregates, two variables,
points with properties and methods, and a length that strings get anew at each question. -/
def sales : Supply Catalog := do
  let catalog ← empty
  let tables ← salesTables.mapM fun (name, shape) => SchemaTable.create name shape
  let functions ← salesFunctions.mapM fun (name, parameters, returns) =>
    Function.create name parameters returns
  let aggregates ← Aggregate.standard.mapM fun (name, signature) =>
    Aggregate.create name signature
  let threshold ← Variable.create "Threshold" .int32
  let city ← Variable.create "City" .string
  let x ← Property.create (.host point) "X" .float64
  let y ← Property.create (.host point) "Y" .float64
  let distance ← Method.create (.host point) "DistanceTo" [("other", .host point)] .float64
  let scale ← Method.create (.host point) "Scale" [("factor", .float64)] (.host point)
  return { catalog with
    tables, functions, aggregates
    hostVariables := [threshold, city]
    hostTypes := [point]
    methods := Registry.empty.register (.host point) (.fixed [distance, scale])
    properties := (Registry.empty.register (.host point) (.fixed [x, y])).register .string
      (.fresh [⟨"Length", .int32⟩]) }

end Catalog

end QuerySemantics
