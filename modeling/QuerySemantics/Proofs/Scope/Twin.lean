import Mathlib.Order.BooleanAlgebra.Basic
import QuerySemantics.Binding.Pass
import QuerySemantics.Proofs.Catalog.Steady

/-!
# Twins

Two passes over one tree take different identities if they begin with different ones, or if one of them
has members at hand already. What they make is then the same but for identities: each identity of the one
pass has its counterpart in the other.

## Main definitions

* `Pairing`: which identities of two passes go together; `Pairing.Bounded`: it is one to one.
* `TypedCatalog`, `SteadySetting`: what two passes have in common.
* `Twinned`, `Twin`: what is the same but for identities that go together.

## Main results

* `Twinned.mono`: twins stay twins when more identities go together.
* `Scope.resolveValue_twin`, `Scope.resolveInstance_twin`, `Scope.commonTable?_twin`: names refer to twins.
-/

set_option autoImplicit false

namespace QuerySemantics

/-- **Pairing** of the identities of two passes. -/
abbrev Pairing := SymbolId → SymbolId → Prop

/-- **One to one**: identities are the same if those that go with them are. -/
def Pairing.OneToOne (pairing : Pairing) : Prop :=
  ∀ id id' other other', pairing id id' → pairing other other' → (id = other ↔ id' = other')

/-- **Bounded**: only identities that were taken go together, one to one. -/
structure Pairing.Bounded (pairing : Pairing) (next next' : SymbolId) : Prop where
  below : ∀ id id', pairing id id' → id < next ∧ id' < next'
  one : pairing.OneToOne

/-- More identities may be taken than go together. -/
theorem Pairing.Bounded.later {pairing : Pairing} {next next' last last' : SymbolId}
    (h : pairing.Bounded next next') (hle : next ≤ last) (hle' : next' ≤ last') :
    pairing.Bounded last last' :=
  ⟨fun _ _ hpair => ⟨(h.below _ _ hpair).1.trans_le hle, (h.below _ _ hpair).2.trans_le hle'⟩, h.one⟩

/-- **Typed catalog** of two passes: the catalog that both work over, and which types symbols may have. -/
structure TypedCatalog where
  catalog : Catalog
  Settled : SqlType → Prop
  settled_of_host? {type : SqlType} : type.host? = none → Settled type
  tables : ∀ table ∈ catalog.tables, ∀ column ∈ table.columns, Settled column.type
  functions : ∀ it ∈ catalog.functions, Settled it.returns
  aggregates : ∀ it ∈ catalog.aggregates, Settled it.signature.declared
  hostVariables : ∀ it ∈ catalog.hostVariables, Settled it.type
  hostTypes : ∀ it ∈ catalog.hostTypes, Settled (.host it)

/-- **The catalog over which symbols may have any type.** -/
def Catalog.anyTyped (catalog : Catalog) : TypedCatalog where
  catalog := catalog
  Settled _ := True
  settled_of_host? _ := trivial
  tables _ _ _ _ := trivial
  functions _ _ := trivial
  aggregates _ _ := trivial
  hostVariables _ _ := trivial
  hostTypes _ _ := trivial

/-- **Steady setting** of two passes: a catalog that answers the same each time, and options without a limit
for diagnostics. -/
structure SteadySetting where
  options : Binding.Options
  catalog : Catalog
  bases : String → List String
  steady : catalog.Steady bases
  unlimited : options.maxDiagnostics = none

/-- **The typed catalog of a steady setting**: symbols have settled types. -/
def SteadySetting.typed (setting : SteadySetting) : TypedCatalog where
  catalog := setting.catalog
  Settled type := type.Settled setting.bases
  settled_of_host? := SqlType.settled_of_host?
  tables := setting.steady.tables
  functions := setting.steady.functions
  aggregates := setting.steady.aggregates
  hostVariables := setting.steady.hostVariables
  hostTypes := setting.steady.hostTypes

/-- A steady setting stands for its typed catalog. -/
instance : Coe SteadySetting TypedCatalog :=
  ⟨SteadySetting.typed⟩

/-- **Twinned**: a type whose values may be the same but for identities. -/
class Twinned (α : Type) where
  Twin : TypedCatalog → Pairing → α → α → Prop
  mono : ∀ {typed : TypedCatalog} {pairing pairing' : Pairing} {it other : α}, pairing ≤ pairing' →
    Twin typed pairing it other → Twin typed pairing' it other

export Twinned (Twin)

/-! ## Containers -/

/-- There is only one value without content. -/
instance : Twinned Unit := ⟨fun _ _ _ _ => True, fun _ h => h⟩

/-- Identities are twins if they are paired. -/
instance : Twinned SymbolId := ⟨fun _ pairing it other => pairing it other, fun hle => hle _ _⟩

/-- Lists are twins if they are so member by member. -/
instance {α : Type} [Twinned α] : Twinned (List α) :=
  ⟨fun typed pairing => List.Forall₂ (Twin typed pairing),
    fun hle => List.Forall₂.imp fun _ _ => Twinned.mono hle⟩

/-- Optional values are twins if they are both missing, or both there and twins. -/
instance {α : Type} [Twinned α] : Twinned (Option α) where
  Twin typed pairing := Option.Rel (Twin typed pairing)
  mono hle h := by
    cases h with
    | none => exact .none
    | some h => exact .some (Twinned.mono hle h)

/-- Pairs are twins if their components are. -/
instance {α β : Type} [Twinned α] [Twinned β] : Twinned (α × β) :=
  ⟨fun typed pairing it other => Twin typed pairing it.1 other.1 ∧ Twin typed pairing it.2 other.2,
    fun hle h => ⟨Twinned.mono hle h.1, Twinned.mono hle h.2⟩⟩

/-- Types are their own twins, if symbols may have them. -/
instance : Twinned SqlType :=
  ⟨fun typed _ it other => other = it ∧ typed.Settled it, fun _ h => h⟩

variable (typed : TypedCatalog) (pairing : Pairing)

/-! ## Columns -/

/-- Slots are twins if their identities are paired, and name and type are the same. -/
structure ValueSlot.Twins (it other : ValueSlot) : Prop where
  id : Twin typed pairing it.id other.id
  name : other.name = it.name
  type : Twin typed pairing it.type other.type

/-- Slots may be twins. -/
instance : Twinned ValueSlot :=
  ⟨ValueSlot.Twins, fun hle h => ⟨Twinned.mono hle h.id, h.name, h.type⟩⟩

/-- Output columns are twins if their slots are. -/
structure QueryColumn.Twins (it other : QueryColumn) : Prop where
  id : Twin typed pairing it.id other.id
  name : other.name = it.name
  slot : Twin typed pairing it.slot other.slot

/-- Output columns may be twins. -/
instance : Twinned QueryColumn :=
  ⟨QueryColumn.Twins, fun hle h => ⟨Twinned.mono hle h.id, h.name, Twinned.mono hle h.slot⟩⟩

/-- Columns of tables are known by their place. -/
structure Column.Twins (it other : Column) : Prop where
  name : other.name = it.name
  type : Twin typed pairing it.type other.type
  ordinal : other.ordinal = it.ordinal

/-- Columns of tables may be twins. -/
instance : Twinned Column :=
  ⟨Column.Twins, fun _ h => ⟨h.name, h.type, h.ordinal⟩⟩

/-- Columns of instances are twins if the columns of the tables and their slots are. -/
structure InstanceColumn.Twins (it other : InstanceColumn) : Prop where
  id : Twin typed pairing it.id other.id
  column : Twin typed pairing it.column other.column
  slot : Twin typed pairing it.slot other.slot

/-- Columns of instances may be twins. -/
instance : Twinned InstanceColumn :=
  ⟨InstanceColumn.Twins, fun hle h =>
    ⟨Twinned.mono hle h.id, Twinned.mono hle h.column, Twinned.mono hle h.slot⟩⟩

/-! ## Tables -/

/-- Derived tables are twins if their columns are. -/
structure DerivedTable.Twins (it other : DerivedTable) : Prop where
  id : Twin typed pairing it.id other.id
  name : other.name = it.name
  columns : Twin typed pairing it.columns other.columns

/-- Derived tables may be twins. -/
instance : Twinned DerivedTable :=
  ⟨DerivedTable.Twins, fun hle h => ⟨Twinned.mono hle h.id, h.name, Twinned.mono hle h.columns⟩⟩

/-- Common tables are twins if their columns and those of their queries are. -/
structure CommonTable.Twins (it other : CommonTable) : Prop where
  id : Twin typed pairing it.id other.id
  name : other.name = it.name
  columns : Twin typed pairing it.columns other.columns
  kind : other.kind = it.kind
  output : Twin typed pairing it.output other.output

/-- Common tables may be twins. -/
instance : Twinned CommonTable :=
  ⟨CommonTable.Twins, fun hle h =>
    ⟨Twinned.mono hle h.id, h.name, Twinned.mono hle h.columns, h.kind, Twinned.mono hle h.output⟩⟩

/-- Tables that cannot be resolved are twins if they are called by one name. -/
structure BadTable.Twins (it other : BadTable) : Prop where
  id : Twin typed pairing it.id other.id
  name : other.name = it.name

/-- Tables that cannot be resolved may be twins. -/
instance : Twinned BadTable :=
  ⟨BadTable.Twins, fun hle h => ⟨Twinned.mono hle h.id, h.name⟩⟩

/-- Tables of the catalog are their own twins. -/
inductive TableSource.Twins : TableSource → TableSource → Prop
  | schema {table : SchemaTable} (h : table ∈ typed.catalog.tables) :
      TableSource.Twins (.schema table) (.schema table)
  | derived {table other : DerivedTable} (h : Twin typed pairing table other) :
      TableSource.Twins (.derived table) (.derived other)
  | common {table other : CommonTable} (h : Twin typed pairing table other) :
      TableSource.Twins (.common table) (.common other)
  | bad {table other : BadTable} (h : Twin typed pairing table other) :
      TableSource.Twins (.bad table) (.bad other)

/-- What instances are made of may be twins. -/
instance : Twinned TableSource where
  Twin := TableSource.Twins
  mono hle h := by
    cases h with
    | schema h => exact .schema h
    | derived h => exact .derived (Twinned.mono hle h)
    | common h => exact .common (Twinned.mono hle h)
    | bad h => exact .bad (Twinned.mono hle h)

/-- Instances are twins if their tables and their columns are. -/
structure TableInstance.Twins (it other : TableInstance) : Prop where
  id : Twin typed pairing it.id other.id
  name : other.name = it.name
  source : Twin typed pairing it.source other.source
  columns : Twin typed pairing it.columns other.columns

/-- Instances may be twins. -/
instance : Twinned TableInstance :=
  ⟨TableInstance.Twins, fun hle h =>
    ⟨Twinned.mono hle h.id, h.name, Twinned.mono hle h.source, Twinned.mono hle h.columns⟩⟩

/-! ## Symbols -/

/-- Methods are twins if they have the same names and types. -/
structure Method.Twins (it other : Method) : Prop where
  alike : it.Alike other
  returns : typed.Settled it.returns

/-- Methods may be twins. -/
instance : Twinned Method :=
  ⟨fun typed _ => Method.Twins typed, fun _ h => h⟩

/-- Properties are twins if they have the same names and types. -/
structure Property.Twins (it other : Property) : Prop where
  alike : it.Alike other
  type : typed.Settled it.type

/-- Properties may be twins. -/
instance : Twinned Property :=
  ⟨fun typed _ => Property.Twins typed, fun _ h => h⟩

/-- **Symbols that are twins.** What the catalog declares is its own twin. -/
inductive Symbol.Twins : Symbol → Symbol → Prop
  | bad {id id' : SymbolId} {name : String} (h : Twin typed pairing id id') :
      Symbol.Twins (.bad id name) (.bad id' name)
  | badTable {it other : BadTable} (h : Twin typed pairing it other) :
      Symbol.Twins (.badTable it) (.badTable other)
  | schemaTable {it : SchemaTable} : Symbol.Twins (.schemaTable it) (.schemaTable it)
  | derivedTable {it other : DerivedTable} (h : Twin typed pairing it other) :
      Symbol.Twins (.derivedTable it) (.derivedTable other)
  | tableInstance {it other : TableInstance} (h : Twin typed pairing it other) :
      Symbol.Twins (.tableInstance it) (.tableInstance other)
  | instanceColumn {owner owner' : TableInstance} {it other : InstanceColumn}
      (howner : Twin typed pairing owner owner') (h : Twin typed pairing it other) :
      Symbol.Twins (.instanceColumn owner it) (.instanceColumn owner' other)
  | queryColumn {it other : QueryColumn} (h : Twin typed pairing it other) :
      Symbol.Twins (.queryColumn it) (.queryColumn other)
  | commonTable {it other : CommonTable} (h : Twin typed pairing it other) :
      Symbol.Twins (.commonTable it) (.commonTable other)
  | hostVariable {it : Variable} (h : typed.Settled it.type) :
      Symbol.Twins (.hostVariable it) (.hostVariable it)
  | function {it : Function} (h : typed.Settled it.returns) :
      Symbol.Twins (.function it) (.function it)
  | aggregate {it : Aggregate} (h : typed.Settled it.signature.declared) :
      Symbol.Twins (.aggregate it) (.aggregate it)
  | method {it other : Method} (h : Twin typed pairing it other) :
      Symbol.Twins (.method it) (.method other)
  | property {it other : Property} (h : Twin typed pairing it other) :
      Symbol.Twins (.property it) (.property other)

/-- Symbols may be twins. -/
instance : Twinned Symbol where
  Twin := Symbol.Twins
  mono hle h := by
    cases h with
    | bad h => exact .bad (Twinned.mono hle h)
    | badTable h => exact .badTable (Twinned.mono hle h)
    | schemaTable => exact .schemaTable
    | derivedTable h => exact .derivedTable (Twinned.mono hle h)
    | tableInstance h => exact .tableInstance (Twinned.mono hle h)
    | instanceColumn howner h => exact .instanceColumn (Twinned.mono hle howner) (Twinned.mono hle h)
    | queryColumn h => exact .queryColumn (Twinned.mono hle h)
    | commonTable h => exact .commonTable (Twinned.mono hle h)
    | hostVariable h => exact .hostVariable h
    | function h => exact .function h
    | aggregate h => exact .aggregate h
    | method h => exact .method (Twinned.mono hle h)
    | property h => exact .property (Twinned.mono hle h)

/-! ## Scopes -/

/-- Frames are twins if what they offer is, member by member. -/
inductive Frame.Twins : Frame → Frame → Prop
  | tables {its others : List TableInstance} (h : Twin typed pairing its others) :
      Frame.Twins (.tables its) (.tables others)
  | commonTables {its others : List CommonTable} (h : Twin typed pairing its others) :
      Frame.Twins (.commonTables its) (.commonTables others)
  | queryColumns {its others : List QueryColumn} (h : Twin typed pairing its others) :
      Frame.Twins (.queryColumns its) (.queryColumns others)

/-- Frames may be twins. -/
instance : Twinned Frame where
  Twin := Frame.Twins
  mono hle h := by
    cases h with
    | tables h => exact .tables (Twinned.mono hle h)
    | commonTables h => exact .commonTables (Twinned.mono hle h)
    | queryColumns h => exact .queryColumns (Twinned.mono hle h)

/-- Links are twins if their identities are paired and their frames are twins. -/
structure Link.Twins (it other : Link) : Prop where
  id : Twin typed pairing it.id other.id
  frame : Twin typed pairing it.frame other.frame

/-- Links may be twins. -/
instance : Twinned Link :=
  ⟨Link.Twins, fun hle h => ⟨Twinned.mono hle h.id, Twinned.mono hle h.frame⟩⟩

/-- **Scopes that are twins** lie over the catalog that both passes work over. -/
structure Scope.Twins (it other : Scope) : Prop where
  catalog : it.catalog = typed.catalog
  catalog' : other.catalog = typed.catalog
  links : Twin typed pairing it.links other.links

/-- Scopes may be twins. -/
instance : Twinned Scope :=
  ⟨Scope.Twins, fun hle h => ⟨h.catalog, h.catalog', Twinned.mono hle h.links⟩⟩

/-- Outcomes of looking a name up that are twins. -/
inductive Resolution.Twins {α : Type} [Twinned α] : Resolution α → Resolution α → Prop
  | found {it other : α} (h : Twin typed pairing it other) :
      Resolution.Twins (.found it) (.found other)
  | ambiguous {its others : List α} (h : Twin typed pairing its others) :
      Resolution.Twins (.ambiguous its) (.ambiguous others)
  | notFound : Resolution.Twins .notFound .notFound

variable {typed pairing}

/-! ## What twins have in common -/

/-- Methods that are like the same ones are twins. -/
theorem Method.twin_of_alike {answer its others : List Method} (h : List.Forall₂ Method.Alike answer its)
    (h' : List.Forall₂ Method.Alike answer others)
    (hsettled : ∀ it ∈ answer, typed.Settled it.returns) : Twin typed pairing its others := by
  induction h generalizing others with
  | nil =>
    cases h'
    exact .nil
  | cons h _ ih =>
    cases h' with
    | cons h' hrest' =>
      obtain ⟨hfirst, hrest⟩ := List.forall_mem_cons.1 hsettled
      exact .cons ⟨h.symm.trans h', h.returns ▸ hfirst⟩ (ih hrest' hrest)

/-- Properties that are like the same ones are twins. -/
theorem Property.twin_of_alike {answer its others : List Property}
    (h : List.Forall₂ Property.Alike answer its) (h' : List.Forall₂ Property.Alike answer others)
    (hsettled : ∀ it ∈ answer, typed.Settled it.type) : Twin typed pairing its others := by
  induction h generalizing others with
  | nil =>
    cases h'
    exact .nil
  | cons h _ ih =>
    cases h' with
    | cons h' hrest' =>
      obtain ⟨hfirst, hrest⟩ := List.forall_mem_cons.1 hsettled
      exact .cons ⟨h.symm.trans h', h.type ▸ hfirst⟩ (ih hrest' hrest)

/-- What is the same for twins, is the same for lists of twins. -/
theorem Twin.map_eq {α β : Type} [Twinned α] {view view' : α → β}
    (hview : ∀ {it other : α}, Twin typed pairing it other → view' other = view it) {its others : List α}
    (h : Twin typed pairing its others) : others.map view' = its.map view := by
  induction h with
  | nil => rfl
  | cons h _ ih => rw [List.map_cons, List.map_cons, hview h, ih]

/-- Pairs of twins are twins. -/
theorem Twin.zip {α β : Type} [Twinned α] [Twinned β] {its others : List α} {its' others' : List β}
    (h : Twin typed pairing its others) (h' : Twin typed pairing its' others') :
    Twin typed pairing (its.zip its') (others.zip others') := by
  induction h generalizing its' others' with
  | nil => exact .nil
  | cons h _ ih =>
    cases h' with
    | nil => exact .nil
    | cons h' hrest' => exact .cons ⟨h, h'⟩ (ih hrest')

/-- Lists that are twins have one length. -/
theorem Twin.length_eq {α : Type} [Twinned α] {its others : List α} (h : Twin typed pairing its others) :
    others.length = its.length :=
  (List.Forall₂.length_eq h).symm

/-- Output columns that are twins have the same type. -/
theorem QueryColumn.Twins.type {it other : QueryColumn} (h : Twins typed pairing it other) :
    Twin typed pairing it.type other.type :=
  h.slot.type

/-- Columns that are twins have the same name. -/
theorem InstanceColumn.Twins.name {it other : InstanceColumn} (h : Twins typed pairing it other) :
    other.name = it.name :=
  h.column.name

/-- Columns that are twins have the same type. -/
theorem InstanceColumn.Twins.type {it other : InstanceColumn} (h : Twins typed pairing it other) :
    Twin typed pairing it.type other.type :=
  h.column.type

/-- Twins have the same shape. -/
theorem QueryColumn.shape_twin {its others : List QueryColumn} (h : Twin typed pairing its others) :
    shape others = shape its :=
  Twin.map_eq (fun {_ _} (h : QueryColumn.Twins ..) => Prod.ext h.name h.type.1) h

/-- The types in the shape of a twin are settled. -/
theorem QueryColumn.settled_twin {its others : List QueryColumn} (h : Twin typed pairing its others) :
    ∀ entry ∈ shape its, typed.Settled entry.2 := by
  induction h with
  | nil => exact fun _ hentry => absurd hentry List.not_mem_nil
  | @cons it other _ _ h _ ih =>
    have h : QueryColumn.Twins typed pairing it other := h
    intro entry hentry
    rcases List.mem_cons.1 hentry with rfl | hentry
    · exact h.type.2
    · exact ih entry hentry

/-- Tables that are twins have the same name. -/
theorem TableSource.Twins.name {it other : TableSource} (h : Twins typed pairing it other) :
    other.name = it.name := by
  cases h with
  | schema => rfl
  | derived h => exact DerivedTable.Twins.name h
  | common h => exact CommonTable.Twins.name h
  | bad h => exact BadTable.Twins.name h

/-- Tables that are twins are both resolved or both not. -/
theorem TableSource.Twins.isBad {it other : TableSource} (h : Twins typed pairing it other) :
    other.isBad = it.isBad := by
  cases h <;> rfl

/-- Tables that are twins have columns that are. -/
theorem TableSource.Twins.columns {it other : TableSource} (h : Twins typed pairing it other) :
    Twin typed pairing it.columns other.columns := by
  cases h with
  | schema h =>
    exact List.forall₂_same.2 fun column hcolumn =>
      ⟨rfl, ⟨rfl, typed.tables _ h column hcolumn⟩, rfl⟩
  | derived h => exact DerivedTable.Twins.columns h
  | common h => exact CommonTable.Twins.columns h
  | bad => exact .nil

namespace Symbol.Twins

variable {it other : Symbol}

/-- Symbols that are twins have the same name. -/
theorem name (h : Twins typed pairing it other) : other.name = it.name := by
  cases h with
  | badTable h => exact BadTable.Twins.name h
  | derivedTable h => exact DerivedTable.Twins.name h
  | tableInstance h => exact TableInstance.Twins.name h
  | instanceColumn _ h => exact InstanceColumn.Twins.name h
  | queryColumn h => exact QueryColumn.Twins.name h
  | commonTable h => exact CommonTable.Twins.name h
  | method h => exact Method.Alike.name (Method.Twins.alike h)
  | property h => exact Property.Alike.name (Property.Twins.alike h)
  | _ => rfl

/-- Symbols that are twins are of one kind. -/
theorem kind (h : Twins typed pairing it other) : other.kind = it.kind := by
  cases h <;> rfl

/-- Twins have the same type. -/
theorem type (h : Twins typed pairing it other) : Twin typed pairing it.type other.type := by
  cases h with
  | instanceColumn _ h => exact InstanceColumn.Twins.type h
  | queryColumn h => exact QueryColumn.Twins.type h
  | hostVariable h | function h | aggregate h => exact ⟨rfl, h⟩
  | method h => exact ⟨(Method.Twins.alike h).returns, Method.Twins.returns h⟩
  | property h => exact ⟨(Property.Twins.alike h).type, Property.Twins.type h⟩
  | bad | badTable | schemaTable | derivedTable | tableInstance | commonTable =>
    exact ⟨rfl, typed.settled_of_host? rfl⟩

/-- Ambiguous names are reported alike. -/
theorem candidate (h : Twins typed pairing it other) : other.candidate = it.candidate := by
  cases h with
  | instanceColumn howner h =>
    have hcolumn := InstanceColumn.Twins.name h
    rw [Symbol.candidate, Symbol.candidate, hcolumn, TableInstance.Twins.name howner]
  | badTable h => exact congrArg (_ ++ " '" ++ · ++ "'") (BadTable.Twins.name h)
  | derivedTable h => exact congrArg (_ ++ " '" ++ · ++ "'") (DerivedTable.Twins.name h)
  | tableInstance h => exact congrArg (_ ++ " '" ++ · ++ "'") (TableInstance.Twins.name h)
  | queryColumn h => exact congrArg (_ ++ " '" ++ · ++ "'") (QueryColumn.Twins.name h)
  | commonTable h => exact congrArg (_ ++ " '" ++ · ++ "'") (CommonTable.Twins.name h)
  | method h => exact congrArg (_ ++ " '" ++ · ++ "'") (Method.Twins.alike h).name
  | property h => exact congrArg (_ ++ " '" ++ · ++ "'") (Property.Twins.alike h).name
  | _ => rfl

end Symbol.Twins

/-! ## Looking names up -/

/-- Twins are selected alike. -/
theorem Matching.select_twin {α : Type} [Twinned α] {nameOf : α → String}
    (hname : ∀ {it other : α}, Twin typed pairing it other → nameOf other = nameOf it) {cased : Bool}
    {name : String} {its others : List α} (h : Twin typed pairing its others) :
    Twin typed pairing (select cased nameOf name its) (select cased nameOf name others) := by
  have hfilter : ∀ test : String → Bool, List.Forall₂ (Twin typed pairing)
      (its.filter (test ∘ nameOf)) (others.filter (test ∘ nameOf)) := fun test =>
    List.rel_filter (fun {_ _} htwin => by simp only [Function.comp, hname htwin]) h
  have hexact := hfilter (· == name)
  unfold select
  change List.Forall₂ _ (its.filter (nameOf · == name)) (others.filter (nameOf · == name)) at hexact
  revert hexact
  generalize its.filter (nameOf · == name) = found
  generalize others.filter (nameOf · == name) = found'
  intro hexact
  cases hexact with
  | nil =>
    dsimp only
    split
    · exact .nil
    · exact hfilter (equalIgnoringCase · name)
  | cons h hrest => exact .cons h hrest

namespace Frame

variable {frame frame' : Frame} {cased : Bool} {name : String}

/-- Frames that are twins have the same instances of a name. -/
theorem instancesNamed_twin (h : Twin typed pairing frame frame') :
    Twin typed pairing (frame.instancesNamed cased name) (frame'.instancesNamed cased name) := by
  cases h with
  | tables h => exact Matching.select_twin (fun h => TableInstance.Twins.name h) h
  | commonTables | queryColumns => exact .nil

/-- Frames that are twins have the same common tables of a name. -/
theorem commonTablesNamed_twin (h : Twin typed pairing frame frame') :
    Twin typed pairing (frame.commonTablesNamed cased name)
      (frame'.commonTablesNamed cased name) := by
  cases h with
  | commonTables h => exact Matching.select_twin (fun h => CommonTable.Twins.name h) h
  | tables | queryColumns => exact .nil

/-- The columns of twins are twins. -/
theorem columnSymbols_twin {its others : List TableInstance} (h : Twin typed pairing its others) :
    Twin typed pairing (its.flatMap TableInstance.columnSymbols)
      (others.flatMap TableInstance.columnSymbols) := by
  refine List.rel_flatMap h fun {it other} htable => ?_
  have htable : TableInstance.Twins typed pairing it other := htable
  exact List.rel_map (fun {_ _} hcolumn => .instanceColumn htable hcolumn) htable.columns

/-- Frames that are twins have the same values of a name. -/
theorem valuesNamed_twin (h : Twin typed pairing frame frame') :
    Twin typed pairing (frame.valuesNamed cased name) (frame'.valuesNamed cased name) := by
  cases h with
  | queryColumns h =>
    have hfound : Twin typed pairing (Matching.select cased QueryColumn.name name _)
        (Matching.select cased QueryColumn.name name _) :=
      Matching.select_twin (fun h => QueryColumn.Twins.name h) h
    exact List.rel_map (fun {_ _} hcolumn => .queryColumn hcolumn) hfound
  | commonTables => exact .nil
  | @tables its others h =>
    have hcolumns : Twin typed pairing (Matching.select cased Symbol.name name
        (its.flatMap TableInstance.columnSymbols)) (Matching.select cased Symbol.name name
          (others.flatMap TableInstance.columnSymbols)) :=
      Matching.select_twin (fun h => Symbol.Twins.name h) (columnSymbols_twin h)
    have hinstances : Twin typed pairing (Matching.select cased TableInstance.name name its)
        (Matching.select cased TableInstance.name name others) :=
      Matching.select_twin (fun h => TableInstance.Twins.name h) h
    unfold valuesNamed
    dsimp only
    revert hcolumns
    generalize Matching.select cased Symbol.name name (its.flatMap TableInstance.columnSymbols) = found
    generalize Matching.select cased Symbol.name name (others.flatMap TableInstance.columnSymbols) =
      found'
    intro hcolumns
    cases hcolumns with
    | nil => exact List.rel_map (fun {_ _} htable => .tableInstance htable) hinstances
    | cons h hrest => exact .cons h hrest

end Frame

namespace Scope

variable {scope scope' : Scope} {cased : Bool} {name : String}

/-- The nearest candidates are twins. -/
theorem nearest_twin {α : Type} [Twinned α] {candidates : Frame → List α}
    (hcandidates : ∀ {frame frame' : Frame}, Twin typed pairing frame frame' →
      Twin typed pairing (candidates frame) (candidates frame')) {links links' : List Link}
    (h : Twin typed pairing links links') :
    Twin typed pairing (nearest candidates links) (nearest candidates links') := by
  induction h with
  | nil => exact .nil
  | @cons link link' rest rest' h _ ih =>
    have hfound := hcandidates (Link.Twins.frame h)
    rw [nearest, nearest]
    revert hfound
    generalize candidates link.frame = found
    generalize candidates link'.frame = found'
    intro hfound
    cases hfound with
    | nil => exact ih
    | cons h hrest => exact .cons h hrest

/-- Twins as candidates have twins as outcome. -/
theorem ofCandidates_twin {α : Type} [Twinned α] {its others : List α}
    (h : Twin typed pairing its others) :
    Resolution.Twins typed pairing (.ofCandidates its) (.ofCandidates others) := by
  cases h with
  | nil => exact .notFound
  | cons h hrest =>
    cases hrest with
    | nil => exact .found h
    | cons h' hrest => exact .ambiguous (.cons h (.cons h' hrest))

/-- **Values** of one name are twins. -/
theorem resolveValue_twin (h : Twin typed pairing scope scope') :
    Resolution.Twins typed pairing (scope.resolveValue cased name) (scope'.resolveValue cased name) :=
  ofCandidates_twin (nearest_twin Frame.valuesNamed_twin (Scope.Twins.links h))

/-- **Instances** of one name are twins. -/
theorem resolveInstance_twin (h : Twin typed pairing scope scope') :
    Resolution.Twins typed pairing (scope.resolveInstance cased name)
      (scope'.resolveInstance cased name) :=
  ofCandidates_twin (nearest_twin Frame.instancesNamed_twin (Scope.Twins.links h))

/-- **Common tables** of one name are twins. -/
theorem commonTable?_twin (h : Twin typed pairing scope scope') :
    Twin typed pairing (scope.commonTable? cased name) (scope'.commonTable? cased name) := by
  have hfound : Twin typed pairing (nearest (·.commonTablesNamed cased name) scope.links)
      (nearest (·.commonTablesNamed cased name) scope'.links) :=
    nearest_twin Frame.commonTablesNamed_twin (Scope.Twins.links h)
  unfold commonTable?
  revert hfound
  generalize nearest (·.commonTablesNamed cased name) scope.links = found
  generalize nearest (·.commonTablesNamed cased name) scope'.links = found'
  intro hfound
  cases hfound with
  | nil => exact .none
  | cons h _ => exact .some h

end Scope

end QuerySemantics
