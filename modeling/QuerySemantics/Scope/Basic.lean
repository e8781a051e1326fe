import QuerySemantics.Catalog.Basic
import QuerySemantics.Scope.Symbol
import QuerySemantics.Text.Quoted

/-!
# Scopes

A scope is what names can refer to at some place of a query: a chain of links, innermost first, over
the catalog. A name refers to what the nearest link with any candidate offers. Links and the root
have identities, so that two scopes that offer the same can be told apart.

## Main definitions

* `Frame`, `Link`, `Scope`: what one link offers, a link, and a chain of links.
* `Scope.visible`: every visible symbol, nearest first.
* `Resolution`: the outcome of looking a name up.
* `Scope.resolveInstance`, `Scope.resolveValue`: looking up table instances and values.
* `Scope.commonTable?` and its fellows: looking up the rest.
-/

set_option autoImplicit false

namespace QuerySemantics

/-! ## The chain -/

/-- **Frame**: what one link of a scope makes visible. -/
inductive Frame where
  /-- The table instances of a `FROM` clause or a join. -/
  | tables (instances : List TableInstance)
  /-- The tables that a `WITH` clause defines. -/
  | commonTables (tables : List CommonTable)
  /-- The columns that a query puts out, for its `ORDER BY`. -/
  | queryColumns (columns : List QueryColumn)
deriving Inhabited

/-- **Link** of a scope: a frame with an identity. -/
structure Link where
  id : SymbolId
  frame : Frame
deriving Inhabited

/-- **Scope**: links from the innermost outwards, over a catalog. -/
structure Scope where
  rootId : SymbolId
  catalog : Catalog
  links : List Link
deriving Inhabited

namespace Frame

/-- The symbols that a frame declares. -/
def symbols : Frame → List Symbol
  | .tables instances => instances.map .tableInstance
  | .commonTables defined => defined.map .commonTable
  | .queryColumns columns => columns.map .queryColumn

/-- The table instances that a frame offers under a name. -/
def instancesNamed (frame : Frame) (caseSensitive : Bool) (name : String) : List TableInstance :=
  match frame with
  | .tables instances => Matching.select caseSensitive TableInstance.name name instances
  | _ => []

/-- The values that a frame offers under a name: query columns, or the columns of its instances, or
else the instances themselves. -/
def valuesNamed (frame : Frame) (caseSensitive : Bool) (name : String) : List Symbol :=
  match frame with
  | .queryColumns columns =>
    (Matching.select caseSensitive QueryColumn.name name columns).map .queryColumn
  | .tables instances =>
    match Matching.select caseSensitive Symbol.name name
        (instances.flatMap TableInstance.columnSymbols) with
    | [] => (Matching.select caseSensitive TableInstance.name name instances).map .tableInstance
    | found => found
  | .commonTables _ => []

/-- The common tables that a frame offers under a name. -/
def commonTablesNamed (frame : Frame) (caseSensitive : Bool) (name : String) :
    List CommonTable :=
  match frame with
  | .commonTables defined => Matching.select caseSensitive CommonTable.name name defined
  | _ => []

/-- A frame as shown in listings of scopes. -/
def describe : Frame → String
  | .tables instances => "Tables" ++ Quoted.listing (instances.map TableInstance.name)
  | .commonTables defined =>
    "CommonTableExpressions" ++ Quoted.listing (defined.map CommonTable.name)
  | .queryColumns columns => "QueryColumns" ++ Quoted.listing (columns.map QueryColumn.name)

end Frame

namespace Scope

/-- The scope that offers nothing but the catalog. -/
def root (catalog : Catalog) : Supply Scope := do
  return ⟨← Supply.fresh, catalog, []⟩

/-- **Child**: the scope with a new innermost link. -/
def child (scope : Scope) (frame : Frame) : Supply Scope := do
  return { scope with links := ⟨← Supply.fresh, frame⟩ :: scope.links }

/-- The identity of a scope is that of its innermost link. -/
def id (scope : Scope) : SymbolId :=
  match scope.links with
  | [] => scope.rootId
  | link :: _ => link.id

/-- The scope around a scope. -/
def parent? (scope : Scope) : Option Scope :=
  match scope.links with
  | [] => none
  | _ :: rest => some { scope with links := rest }

/-- The number of links, the root included. -/
def depth (scope : Scope) : Nat :=
  scope.links.length + 1

/-- The symbols that the catalog makes visible everywhere: tables, functions and variables. -/
def rootSymbols (catalog : Catalog) : List Symbol :=
  catalog.tables.map .schemaTable ++ catalog.functions.map .function ++
    catalog.hostVariables.map .hostVariable

/-- The symbols that the innermost link declares. -/
def localSymbols (scope : Scope) : List Symbol :=
  match scope.links with
  | [] => rootSymbols scope.catalog
  | link :: _ => link.frame.symbols

/-- **Visible symbols**, nearest first. -/
def visible (scope : Scope) : List Symbol :=
  scope.links.flatMap (·.frame.symbols) ++ rootSymbols scope.catalog

/-- The kind of the innermost link, as shown in listings of scopes. -/
def kindText (scope : Scope) : String :=
  match scope.links with
  | [] => "Root"
  | ⟨_, .tables _⟩ :: _ => "Tables"
  | ⟨_, .commonTables _⟩ :: _ => "CommonTableExpressions"
  | ⟨_, .queryColumns _⟩ :: _ => "QueryColumns"

/-- A scope as shown in listings, innermost link first. -/
def describe (scope : Scope) : String :=
  Quoted.bracketed (scope.links.map (·.frame.describe) ++ [Quoted.escaped "Root"])

end Scope

/-! ## Looking names up -/

/-- **Resolution**: the outcome of looking a name up. Several candidates of one link make it
ambiguous. -/
inductive Resolution (α : Type) where
  | found (it : α)
  | ambiguous (candidates : List α)
  | notFound

namespace Resolution

variable {α : Type}

/-- The resolution of a name with the given candidates. -/
def ofCandidates : List α → Resolution α
  | [] => .notFound
  | [it] => .found it
  | several => .ambiguous several

/-- What was found, if the name is not ambiguous. -/
def found? : Resolution α → Option α
  | .found it => some it
  | _ => none

/-- Whether there was no candidate at all. -/
def isNotFound : Resolution α → Bool
  | .notFound => true
  | _ => false

end Resolution

namespace Scope

/-- The candidates of the nearest link that has any. -/
def nearest {α : Type} (candidates : Frame → List α) : List Link → List α
  | [] => []
  | link :: rest =>
    match candidates link.frame with
    | [] => nearest candidates rest
    | found => found

/-- **Table instances** by name. -/
def resolveInstance (scope : Scope) (caseSensitive : Bool) (name : String) :
    Resolution TableInstance :=
  .ofCandidates (nearest (·.instancesNamed caseSensitive name) scope.links)

/-- **Values** by unqualified name: columns of queries in an `ORDER BY`, columns of table instances,
or table instances themselves. -/
def resolveValue (scope : Scope) (caseSensitive : Bool) (name : String) : Resolution Symbol :=
  .ofCandidates (nearest (·.valuesNamed caseSensitive name) scope.links)

/-- **Common tables** by name: the first of the nearest `WITH` that has any. -/
def commonTable? (scope : Scope) (caseSensitive : Bool) (name : String) : Option CommonTable :=
  (nearest (·.commonTablesNamed caseSensitive name) scope.links).head?

/-- **Schema tables** by name. -/
def schemaTable? (scope : Scope) (caseSensitive : Bool) (name : String) : Option SchemaTable :=
  (Matching.select caseSensitive SchemaTable.name name scope.catalog.tables).head?

/-- **Functions** by name, all overloads. -/
def functionsNamed (scope : Scope) (caseSensitive : Bool) (name : String) : List Function :=
  Matching.select caseSensitive Function.name name scope.catalog.functions

/-- **Aggregates** by name. -/
def aggregate? (scope : Scope) (caseSensitive : Bool) (name : String) : Option Aggregate :=
  (Matching.select caseSensitive Aggregate.name name scope.catalog.aggregates).head?

/-- **Variables** by name. -/
def hostVariable? (scope : Scope) (caseSensitive : Bool) (name : String) : Option Variable :=
  (Matching.select caseSensitive Variable.name name scope.catalog.hostVariables).head?

end Scope

end QuerySemantics
