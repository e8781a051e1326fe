import QuerySemantics.Proofs.Catalog.Known
import QuerySemantics.Proofs.Scope.Offered

/-!
# Sound scopes

A scope is sound if no table that it offers is missing and no column that it offers is of an unknown
type. What a name refers to in a sound scope then is no placeholder.

## Main definitions

* `TableSource.Sound`, `TableInstance.Sound`: tables that are there, with columns of known types.
* `Symbol.Sound`: a symbol that stands for something.
* `Scope.Sound`: a scope that offers nothing else, over a catalog with known types.

## Main results

* `Supply.Gives.tableInstance`, `Supply.Gives.derivedTable`, `Supply.Gives.commonTable`: new tables
  and instances are sound where what they are made from is.
* `Scope.Sound.push`: a sound scope stays sound behind a sound link.
* `Scope.Sound.resolveValue`, `Scope.Sound.resolveInstance`, `Scope.Sound.commonTable?`: what names
  refer to is sound.
-/

set_option autoImplicit false

namespace QuerySemantics

/-! ## Tables and their columns -/

/-- **Known columns**: columns that a query puts out, all of a known type. -/
def QueryColumn.AllKnown (columns : List QueryColumn) : Prop :=
  ∀ column ∈ columns, column.type.Known

/-- **A sound source**: a table that is there, with columns of known types. -/
structure TableSource.Sound (source : TableSource) : Prop where
  present : source.isBad = false
  columns : ∀ column ∈ source.columns, column.type.Known

/-- **A sound instance**: an occurrence of a table that is there, with columns of known types. -/
structure TableInstance.Sound (table : TableInstance) : Prop where
  present : table.source.isBad = false
  columns : ∀ column ∈ table.columns, column.type.Known

/-- **A sound common table**: one with columns of known types. -/
def CommonTable.Sound (table : CommonTable) : Prop :=
  ∀ column ∈ table.columns, column.type.Known

/-- **A sound symbol**: it stands neither for a name that did not resolve nor for a table that is
not there or an occurrence of one. -/
def Symbol.Sound : Symbol → Prop
  | .bad _ _ | .badTable _ => False
  | .tableInstance table | .instanceColumn table _ => table.Sound
  | _ => True

/-- The shape of known columns has known types. -/
theorem QueryColumn.AllKnown.shape {columns : List QueryColumn} (h : AllKnown columns) :
    ∀ entry ∈ QueryColumn.shape columns, entry.2.Known := by
  intro entry hentry
  obtain ⟨column, hcolumn, rfl⟩ := List.mem_map.1 hentry
  exact h column hcolumn

/-- A renamed shape has the types of the old one. -/
theorem Binding.known_of_mem_renamed {names : List String} {shape : List (String × SqlType)}
    (h : ∀ entry ∈ shape, entry.2.Known) : ∀ entry ∈ renamed names shape, entry.2.Known := by
  induction names generalizing shape with
  | nil => simpa only [renamed] using h
  | cons name names ih =>
    cases shape with
    | nil => simp [renamed]
    | cons first rest =>
      intro entry hentry
      rcases List.mem_cons.1 hentry with rfl | hentry
      · exact h first List.mem_cons_self
      · exact ih (fun other hother => h other (List.mem_cons_of_mem _ hother)) entry hentry

namespace Supply.Gives

/-- New columns have the types that are given. -/
theorem columns {shape : List (String × SqlType)} (ordinal : Nat)
    (h : ∀ entry ∈ shape, entry.2.Known) :
    Gives (Column.listFrom ordinal shape) fun made => ∀ column ∈ made, column.type.Known := by
  induction shape generalizing ordinal with
  | nil => exact .pure (by simp)
  | cons entry rest ih =>
    have hrest := ih (ordinal + 1) fun other hother => h other (List.mem_cons_of_mem _ hother)
    refine any.bind fun id _ => hrest.bind fun made hmade => .pure fun column hcolumn => ?_
    rcases List.mem_cons.1 hcolumn with rfl | hcolumn
    · exact h entry List.mem_cons_self
    · exact hmade column hcolumn

/-- A derived table has columns of the types that are given. -/
theorem derivedTable {name : String} {shape : List (String × SqlType)}
    (h : ∀ entry ∈ shape, entry.2.Known) :
    Gives (DerivedTable.create name shape) fun table => (TableSource.derived table).Sound :=
  any.bind fun _ _ => (columns 0 h).bind fun _ hmade => .pure ⟨rfl, hmade⟩

/-- A common table has columns of the types that are given. -/
theorem commonTable {name : String} {shape : List (String × SqlType)} {kind : Bound.NodeKind}
    {output : List QueryColumn} (h : ∀ entry ∈ shape, entry.2.Known) :
    Gives (CommonTable.create name shape kind output) CommonTable.Sound :=
  any.bind fun _ _ => (columns 0 h).bind fun _ hmade => .pure hmade

/-- The columns of an instance have the types of the columns of its table. -/
theorem instanceColumns (name : String) {columns : List Column}
    (h : ∀ column ∈ columns, column.type.Known) :
    Gives (TableInstance.createColumns name columns) fun made =>
      ∀ column ∈ made, column.type.Known := by
  induction columns with
  | nil => exact .pure (by simp)
  | cons first rest ih =>
    have hrest := ih fun other hother => h other (List.mem_cons_of_mem _ hother)
    refine any.bind fun id _ => any.bind fun slot _ => hrest.bind fun made hmade => ?_
    refine .pure fun column hcolumn => ?_
    rcases List.mem_cons.1 hcolumn with rfl | hcolumn
    · exact h first List.mem_cons_self
    · exact hmade column hcolumn

/-- **An instance** of a sound source is sound. -/
theorem tableInstance {name : String} {source : TableSource} (h : source.Sound) :
    Gives (TableInstance.create name source) TableInstance.Sound :=
  any.bind fun _ _ => (instanceColumns name h.columns).bind fun _ hmade => .pure ⟨h.present, hmade⟩

/-- A new query column has the type that is given. -/
theorem queryColumn (name : String) (type : SqlType) :
    Gives (QueryColumn.create name type) (·.type = type) :=
  any.bind fun _ _ => any.bind fun _ _ => .pure rfl

end Supply.Gives

/-! ## Scopes -/

/-- **A sound frame**: its tables are there and its columns are of known types. -/
def Frame.Sound : Frame → Prop
  | .tables instances => ∀ table ∈ instances, table.Sound
  | .commonTables defined => ∀ table ∈ defined, table.Sound
  | .queryColumns columns => QueryColumn.AllKnown columns

/-- **A sound scope**: sound links over a catalog with known types. -/
structure Scope.Sound (scope : Scope) : Prop where
  catalog : scope.catalog.Known
  links : ∀ link ∈ scope.links, link.frame.Sound

namespace Scope.Sound

variable {scope : Scope}

/-- The scope of a catalog with known types is sound. -/
theorem root {id : SymbolId} {catalog : Catalog} (h : catalog.Known) :
    Scope.Sound ⟨id, catalog, []⟩ :=
  ⟨h, by simp⟩

/-- **A sound link** may be put in front. -/
theorem push (h : scope.Sound) {id : SymbolId} {frame : Frame} (hframe : frame.Sound) :
    (scope.push id frame).Sound := by
  refine ⟨h.catalog, fun link hlink => ?_⟩
  rcases List.mem_cons.1 hlink with rfl | hlink
  · exact hframe
  · exact h.links link hlink

/-- The values that a sound frame offers are sound and of known types. -/
theorem valuesNamed {frame : Frame} (h : frame.Sound) {cased : Bool} {name : String}
    {symbol : Symbol} (hsymbol : symbol ∈ frame.valuesNamed cased name) :
    symbol.Sound ∧ symbol.type.Known := by
  cases frame with
  | tables instances =>
    rw [Frame.valuesNamed] at hsymbol
    split at hsymbol
    · obtain ⟨table, htable, rfl⟩ := List.mem_map.1 hsymbol
      exact ⟨h table (Matching.mem_of_mem_select htable), fun h => by cases h⟩
    · obtain ⟨table, htable, hcolumn⟩ := List.mem_flatMap.1 (Matching.mem_of_mem_select hsymbol)
      obtain ⟨column, hmem, rfl⟩ := List.mem_map.1 hcolumn
      exact ⟨h table htable, (h table htable).columns column hmem⟩
  | commonTables defined => simp [Frame.valuesNamed] at hsymbol
  | queryColumns columns =>
    obtain ⟨column, hcolumn, rfl⟩ := List.mem_map.1 hsymbol
    exact ⟨trivial, h column (Matching.mem_of_mem_select hcolumn)⟩

/-- **Values** that names refer to are sound and of known types. -/
theorem resolveValue (h : scope.Sound) {cased : Bool} {name : String} {symbol : Symbol}
    (hfound : scope.resolveValue cased name = .found symbol) : symbol.Sound ∧ symbol.type.Known := by
  obtain ⟨link, hlink, hsymbol⟩ := exists_of_mem_nearest (mem_of_ofCandidates hfound)
  exact valuesNamed (h.links link hlink) hsymbol

/-- **Table instances** that names refer to are sound. -/
theorem resolveInstance (h : scope.Sound) {cased : Bool} {name : String} {table : TableInstance}
    (hfound : scope.resolveInstance cased name = .found table) : table.Sound := by
  obtain ⟨⟨id, frame⟩, hlink, htable⟩ := exists_of_mem_nearest (mem_of_ofCandidates hfound)
  have hframe := h.links _ hlink
  cases frame with
  | tables instances => exact hframe table (Matching.mem_of_mem_select htable)
  | commonTables _ | queryColumns _ => simp [Frame.instancesNamed] at htable

/-- **Common tables** that names refer to are sound sources. -/
theorem commonTable? (h : scope.Sound) {cased : Bool} {name : String} {table : CommonTable}
    (hfound : scope.commonTable? cased name = some table) : (TableSource.common table).Sound := by
  obtain ⟨⟨id, frame⟩, hlink, htable⟩ := exists_of_mem_nearest (List.mem_of_head? hfound)
  have hframe := h.links _ hlink
  cases frame with
  | commonTables defined => exact ⟨rfl, hframe table (Matching.mem_of_mem_select htable)⟩
  | tables _ | queryColumns _ => simp [Frame.commonTablesNamed] at htable

/-- **Schema tables** that names refer to are sound sources. -/
theorem schemaTable? (h : scope.Sound) {cased : Bool} {name : String} {table : SchemaTable}
    (hfound : scope.schemaTable? cased name = some table) : (TableSource.schema table).Sound :=
  ⟨rfl, h.catalog.tables table (Matching.mem_of_mem_select (List.mem_of_head? hfound))⟩

/-- **Functions** that names refer to have known types. -/
theorem functionsNamed (h : scope.Sound) {cased : Bool} {name : String} {it : Function}
    (hfound : it ∈ scope.functionsNamed cased name) : it.Known :=
  h.catalog.functions it (Matching.mem_of_mem_select hfound)

/-- **Aggregates** that names refer to have known types. -/
theorem aggregate? (h : scope.Sound) {cased : Bool} {name : String} {it : Aggregate}
    (hfound : scope.aggregate? cased name = some it) : it.signature.Known :=
  h.catalog.aggregates it (Matching.mem_of_mem_select (List.mem_of_head? hfound))

/-- **Variables** that names refer to have known types. -/
theorem hostVariable? (h : scope.Sound) {cased : Bool} {name : String} {it : Variable}
    (hfound : scope.hostVariable? cased name = some it) : it.type.Known :=
  h.catalog.hostVariables it (Matching.mem_of_mem_select (List.mem_of_head? hfound))

end Scope.Sound

end QuerySemantics
