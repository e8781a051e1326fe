import QuerySemantics.Value.Conversion

/-!
# Catalog symbols

What a catalog declares: tables with columns, functions, aggregates, and the methods and properties
of types. Every symbol has an identity of its own, taken from a supply of fresh numbers, so two
symbols that read alike are still two symbols.

## Main definitions

* `SymbolId`, `Supply`, `Supply.fresh`: identities and where they come from.
* `Column`, `SchemaTable`, `Parameter`, `Function`, `Method`, `Property`: symbols.
* `Aggregate`, `AggregateSignature.returns?`: aggregates and the type of their results.
-/

set_option autoImplicit false

namespace QuerySemantics

/-! ## Identities -/

/-- **Identity** of a symbol. -/
abbrev SymbolId := Nat

/-- **Supply**: a computation that takes fresh identities. -/
abbrev Supply := StateM SymbolId

/-- The next fresh identity. -/
def Supply.fresh : Supply SymbolId :=
  fun next => (next, next + 1)

/-! ## Tables -/

/-- **Column** of a table, known within it by its place. -/
structure Column where
  id : SymbolId
  name : String
  type : SqlType
  ordinal : Nat
deriving Inhabited

/-- New columns with the given names and types, placed in this order from `ordinal` on. -/
def Column.listFrom : Nat → List (String × SqlType) → Supply (List Column)
  | _, [] => pure []
  | ordinal, (name, type) :: rest => do
    let id ← Supply.fresh
    let columns ← listFrom (ordinal + 1) rest
    return ⟨id, name, type, ordinal⟩ :: columns

/-- New columns with the given names and types. -/
def Column.list (shape : List (String × SqlType)) : Supply (List Column) :=
  Column.listFrom 0 shape

/-- **Schema table**: a table that the catalog declares. -/
structure SchemaTable where
  id : SymbolId
  name : String
  columns : List Column
deriving Inhabited

/-- A new table with columns of the given names and types. -/
def SchemaTable.create (name : String) (shape : List (String × SqlType)) : Supply SchemaTable := do
  let id ← Supply.fresh
  return ⟨id, name, ← Column.list shape⟩

/-! ## Functions -/

/-- **Parameter** of a function or method. -/
structure Parameter where
  id : SymbolId
  name : String
  type : SqlType
deriving Inhabited

/-- New parameters with the given names and types. -/
def Parameter.list : List (String × SqlType) → Supply (List Parameter)
  | [] => pure []
  | (name, type) :: rest => do
    let id ← Supply.fresh
    let parameters ← list rest
    return ⟨id, name, type⟩ :: parameters

/-- **Function**: a scalar function that is called by its name. -/
structure Function where
  id : SymbolId
  name : String
  parameters : List Parameter
  returns : SqlType
deriving Inhabited

/-- A new function. -/
def Function.create (name : String) (parameters : List (String × SqlType)) (returns : SqlType) :
    Supply Function := do
  let id ← Supply.fresh
  return ⟨id, name, ← Parameter.list parameters, returns⟩

/-! ## Aggregates -/

/-- **Signature of an aggregate**: what it accepts and produces. -/
inductive AggregateSignature where
  /-- Accepts any argument and produces a fixed type. -/
  | any (returns : SqlType)
  /-- Accepts a number and produces its type. -/
  | numeric
  /-- Accepts any argument and produces its type. -/
  | sameAsArgument
  /-- Accepts one type and produces another. -/
  | fixed (parameter returns : SqlType)
deriving Inhabited

namespace AggregateSignature

/-- **Result type** for an argument, or `none` if the argument is not accepted. -/
def returns? (signature : AggregateSignature) (argument : SqlType) : Option SqlType :=
  match signature with
  | .any returns => some returns
  | .numeric =>
    if argument.isUnknown then some .unknown
    else if argument.isNumeric then some argument
    else none
  | .sameAsArgument => some argument
  | .fixed parameter returns => if argument.convertsTo parameter then some returns else none

/-- The result type as far as it is known without an argument. -/
def declared : AggregateSignature → SqlType
  | .any returns => returns
  | .fixed _ returns => returns
  | .numeric | .sameAsArgument => .unknown

end AggregateSignature

/-- **Aggregate**: a function over a group of rows. -/
structure Aggregate where
  id : SymbolId
  name : String
  signature : AggregateSignature
deriving Inhabited

namespace Aggregate

/-- A new aggregate. -/
def create (name : String) (signature : AggregateSignature) : Supply Aggregate := do
  return ⟨← Supply.fresh, name, signature⟩

/-- The aggregates that catalogs usually declare, by name. -/
def standard : List (String × AggregateSignature) :=
  [("COUNT", .any .int32), ("SUM", .numeric), ("AVG", .numeric), ("MIN", .sameAsArgument),
    ("MAX", .sameAsArgument)]

end Aggregate

/-! ## Members -/

/-- **Method** of values of a type. -/
structure Method where
  id : SymbolId
  name : String
  host : SqlType
  parameters : List Parameter
  returns : SqlType
deriving Inhabited

/-- A new method. -/
def Method.create (host : SqlType) (name : String) (parameters : List (String × SqlType))
    (returns : SqlType) : Supply Method := do
  let id ← Supply.fresh
  return ⟨id, name, host, ← Parameter.list parameters, returns⟩

/-- **Property** of values of a type. -/
structure Property where
  id : SymbolId
  name : String
  host : SqlType
  type : SqlType
deriving Inhabited

/-- A new property. -/
def Property.create (host : SqlType) (name : String) (type : SqlType) : Supply Property := do
  return ⟨← Supply.fresh, name, host, type⟩

end QuerySemantics
