import QuerySemantics.Catalog.Members
import QuerySemantics.Catalog.Variable
import QuerySemantics.Text.Matching

/-!
# Catalogs

The catalog that queries are bound against. A catalog never changes; replacing a part of it gives a
catalog with an identity of its own.

## Main definitions

* `Catalog`: tables, functions, aggregates, variables, host types and member providers.
* `Catalog.resolveType?`: the type that a type name in a query denotes.
* `Catalog.withTables` and its fellows: a catalog with one part replaced.
-/

set_option autoImplicit false

namespace QuerySemantics

/-- **Catalog**: what the host application declares. -/
structure Catalog where
  id : SymbolId
  tables : List SchemaTable
  functions : List Function
  aggregates : List Aggregate
  hostVariables : List Variable
  hostTypes : List HostType
  methods : Registry MethodProvider
  properties : Registry PropertyProvider
deriving Inhabited

namespace Catalog

/-- A new catalog that declares nothing. -/
def empty : Supply Catalog := do
  return ⟨← Supply.fresh, [], [], [], [], [], .empty, .empty⟩

/-- **Type of a name** as written in a `CAST`: a primitive type, else a host type, ignoring the case
of ASCII letters. -/
def resolveType? (catalog : Catalog) (name : String) : Option SqlType :=
  match SqlType.ofName? name with
  | some type => some type
  | none =>
    (catalog.hostTypes.find? fun host =>
      Matching.equalIgnoringAsciiCase host.name name).map .host

/-! ## Replacing parts -/

/-- The catalog with other tables. -/
def withTables (catalog : Catalog) (tables : List SchemaTable) : Supply Catalog := do
  return { catalog with id := ← Supply.fresh, tables }

/-- The catalog with other functions. -/
def withFunctions (catalog : Catalog) (functions : List Function) : Supply Catalog := do
  return { catalog with id := ← Supply.fresh, functions }

/-- The catalog with other aggregates. -/
def withAggregates (catalog : Catalog) (aggregates : List Aggregate) : Supply Catalog := do
  return { catalog with id := ← Supply.fresh, aggregates }

/-- The catalog with other variables. -/
def withHostVariables (catalog : Catalog) (hostVariables : List Variable) : Supply Catalog := do
  return { catalog with id := ← Supply.fresh, hostVariables }

/-- The catalog with other host types. -/
def withHostTypes (catalog : Catalog) (hostTypes : List HostType) : Supply Catalog := do
  return { catalog with id := ← Supply.fresh, hostTypes }

/-- The catalog with other method providers. -/
def withMethods (catalog : Catalog) (methods : Registry MethodProvider) : Supply Catalog := do
  return { catalog with id := ← Supply.fresh, methods }

/-- The catalog with other property providers. -/
def withProperties (catalog : Catalog) (properties : Registry PropertyProvider) :
    Supply Catalog := do
  return { catalog with id := ← Supply.fresh, properties }

end Catalog

end QuerySemantics
