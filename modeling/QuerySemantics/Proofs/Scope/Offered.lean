import QuerySemantics.Model.Position

/-!
# What a scope offers

A name is looked up link by link, and what it is found to refer to is one of the symbols that the
scope lists as visible, or a column of a visible table instance.

## Main definitions

* `Scope.push`: a scope with one more link.
* `Scope.offered`: the symbols visible in a scope, each instance with its columns.
* `Declared`, `Scope.declares`: the table instances and common tables of the links, by identity.
* `Symbol.GroundedIn`: a symbol of a kind that scopes offer is offered by the scope.

## Main results

* `Scope.mem_offered_of_resolveValue`, `Scope.mem_visible_of_resolveInstance`,
  `Scope.mem_offered_of_functionsNamed`, `Scope.mem_offered_of_hostVariable?`: look-ups find
  what is offered.
* `Scope.declares_of_mem_offered`: an offered instance, or column of one, belongs to a link.
-/

set_option autoImplicit false

namespace QuerySemantics

/-- **Owner** of a symbol of a `FROM`: the table instance that it is or belongs to. -/
def Symbol.owner? : Symbol → Option TableInstance
  | .tableInstance it | .instanceColumn it _ => some it
  | _ => none

/-- **Declared** by a link of a scope: a table instance or a common table, by identity. -/
inductive Declared where
  | tableInstance (id : SymbolId)
  | commonTable (id : SymbolId)
deriving DecidableEq

namespace Declared

/-- The identity of what is declared. -/
def id : Declared → SymbolId
  | .tableInstance id | .commonTable id => id

/-- What is declared by the instance of a table. -/
def ofInstance (table : TableInstance) : Declared :=
  .tableInstance table.id

/-- What is declared by the definition of a common table. -/
def ofCommonTable (table : CommonTable) : Declared :=
  .commonTable table.id

end Declared

/-- The table instances or common tables that a frame declares. -/
def Frame.declared : Frame → List Declared
  | .tables instances => instances.map .ofInstance
  | .commonTables defined => defined.map .ofCommonTable
  | .queryColumns _ => []

namespace Scope

/-- **Pushing**: the scope with a link in front. -/
def push (scope : Scope) (id : SymbolId) (frame : Frame) : Scope :=
  { scope with links := ⟨id, frame⟩ :: scope.links }

/-- **Offered symbols**: what is visible in a scope, with the columns of each instance. -/
def offered (scope : Scope) : List Symbol :=
  scope.visible.flatMap SemanticModel.withColumns

/-- The table instances and common tables that the links of a scope declare. -/
def declares (scope : Scope) : List Declared :=
  scope.links.flatMap (·.frame.declared)

/-- What a link declares is visible. -/
theorem mem_visible_of_link {scope : Scope} {link : Link} {symbol : Symbol}
    (hlink : link ∈ scope.links) (h : symbol ∈ link.frame.symbols) : symbol ∈ scope.visible :=
  List.mem_append_left _ (List.mem_flatMap.2 ⟨link, hlink, h⟩)

/-- What is visible is offered. -/
theorem mem_offered_of_visible {scope : Scope} {symbol : Symbol} (h : symbol ∈ scope.visible) :
    symbol ∈ scope.offered := by
  refine List.mem_flatMap.2 ⟨symbol, h, ?_⟩
  cases symbol <;> simp [SemanticModel.withColumns]

/-- The columns of a visible table instance are offered. -/
theorem mem_offered_of_column {scope : Scope} {table : TableInstance} {column : InstanceColumn}
    (h : .tableInstance table ∈ scope.visible) (hcolumn : column ∈ table.columns) :
    .instanceColumn table column ∈ scope.offered := by
  refine List.mem_flatMap.2 ⟨_, h, ?_⟩
  simp [SemanticModel.withColumns, TableInstance.columnSymbols, hcolumn]

/-! ## Look-ups -/

/-- The nearest candidates are those of one of the links. -/
theorem exists_of_mem_nearest {α : Type} {candidates : Frame → List α} {links : List Link} {it : α}
    (h : it ∈ nearest candidates links) : ∃ link ∈ links, it ∈ candidates link.frame := by
  induction links with
  | nil => simp [nearest] at h
  | cons link rest ih =>
    rw [nearest] at h
    split at h
    · obtain ⟨found, hfound, hit⟩ := ih h
      exact ⟨found, List.mem_cons_of_mem _ hfound, hit⟩
    · exact ⟨link, List.mem_cons_self, h⟩

/-- The only candidate is a candidate. -/
theorem mem_of_ofCandidates {α : Type} {candidates : List α} {it : α}
    (h : Resolution.ofCandidates candidates = .found it) : it ∈ candidates := by
  unfold Resolution.ofCandidates at h
  split at h <;> cases h
  exact List.mem_singleton.2 rfl

/-- A table instance that a name refers to is visible. -/
theorem mem_visible_of_resolveInstance {scope : Scope} {cased : Bool} {name : String}
    {table : TableInstance} (h : scope.resolveInstance cased name = .found table) :
    .tableInstance table ∈ scope.visible := by
  obtain ⟨link, hlink, hmem⟩ := exists_of_mem_nearest (mem_of_ofCandidates h)
  refine mem_visible_of_link hlink ?_
  cases hframe : link.frame with
  | tables instances =>
    rw [hframe] at hmem
    exact List.mem_map_of_mem (Matching.mem_of_mem_select hmem)
  | commonTables defined => simp [hframe, Frame.instancesNamed] at hmem
  | queryColumns columns => simp [hframe, Frame.instancesNamed] at hmem

/-- **A value that a name refers to is offered.** -/
theorem mem_offered_of_resolveValue {scope : Scope} {cased : Bool} {name : String}
    {symbol : Symbol} (h : scope.resolveValue cased name = .found symbol) :
    symbol ∈ scope.offered := by
  obtain ⟨link, hlink, hmem⟩ := exists_of_mem_nearest (mem_of_ofCandidates h)
  have hvisible : symbol ∈ link.frame.symbols → symbol ∈ scope.visible := mem_visible_of_link hlink
  cases hframe : link.frame with
  | commonTables defined => simp [hframe, Frame.valuesNamed] at hmem
  | queryColumns columns =>
    simp only [hframe, Frame.valuesNamed, List.mem_map] at hmem
    obtain ⟨column, hcolumn, rfl⟩ := hmem
    refine mem_offered_of_visible (hvisible ?_)
    rw [hframe]
    exact List.mem_map_of_mem (Matching.mem_of_mem_select hcolumn)
  | tables instances =>
    rw [hframe] at hmem hvisible
    simp only [Frame.valuesNamed] at hmem
    split at hmem
    · obtain ⟨table, htable, rfl⟩ := List.mem_map.1 hmem
      exact mem_offered_of_visible
        (hvisible (List.mem_map_of_mem (Matching.mem_of_mem_select htable)))
    · obtain ⟨table, htable, hsymbol⟩ :=
        List.mem_flatMap.1 (Matching.mem_of_mem_select hmem)
      obtain ⟨column, hcolumn, rfl⟩ := List.mem_map.1 hsymbol
      refine mem_offered_of_column (mem_visible_of_link hlink ?_) hcolumn
      rw [hframe]
      exact List.mem_map_of_mem htable

/-- What the catalog makes visible is visible in every scope. -/
theorem mem_visible_of_root {scope : Scope} {symbol : Symbol}
    (h : symbol ∈ rootSymbols scope.catalog) : symbol ∈ scope.visible :=
  List.mem_append_right _ h

/-- A function that a name refers to is offered. -/
theorem mem_offered_of_functionsNamed {scope : Scope} {cased : Bool} {name : String}
    {it : Function} (h : it ∈ scope.functionsNamed cased name) : .function it ∈ scope.offered := by
  refine mem_offered_of_visible (mem_visible_of_root ?_)
  have := Matching.mem_of_mem_select h
  simp [rootSymbols, this]

/-- A variable that a name refers to is offered. -/
theorem mem_offered_of_hostVariable? {scope : Scope} {cased : Bool} {name : String}
    {it : Variable} (h : scope.hostVariable? cased name = some it) :
    .hostVariable it ∈ scope.offered := by
  refine mem_offered_of_visible (mem_visible_of_root ?_)
  have := Matching.mem_of_mem_select (List.mem_of_head? h)
  simp [rootSymbols, this]

/-! ## What links declare -/

/-- A new link adds what its frame declares. -/
theorem declares_push (scope : Scope) (id : SymbolId) (frame : Frame) :
    (scope.push id frame).declares = frame.declared ++ scope.declares := by
  simp [declares, push]

/-- **An offered instance, or column of one, belongs to a link.** -/
theorem declares_of_mem_offered {scope : Scope} {symbol : Symbol} {table : TableInstance}
    (h : symbol ∈ scope.offered) (howner : symbol.owner? = some table) :
    .ofInstance table ∈ scope.declares := by
  obtain ⟨visible, hvisible, hsymbol⟩ := List.mem_flatMap.1 h
  -- only a visible instance gives itself or its columns
  have hinstance : visible = .tableInstance table := by
    cases visible <;>
      simp only [SemanticModel.withColumns, TableInstance.columnSymbols, List.mem_cons,
        List.mem_map, List.not_mem_nil, or_false] at hsymbol
    case tableInstance it =>
      rcases hsymbol with rfl | ⟨column, -, rfl⟩ <;> cases howner <;> rfl
    case instanceColumn it column =>
      simp only [Scope.visible, rootSymbols, List.mem_append, List.mem_flatMap, List.mem_map,
        reduceCtorEq, and_false, exists_false, or_false] at hvisible
      obtain ⟨link, -, hlink⟩ := hvisible
      cases hframe : link.frame <;> simp [hframe, Frame.symbols] at hlink
    all_goals
      subst hsymbol
      cases howner
  subst hinstance
  simp only [Scope.visible, rootSymbols, List.mem_append, List.mem_flatMap, List.mem_map,
    reduceCtorEq, and_false, exists_false, or_false] at hvisible
  obtain ⟨link, hlink, hmem⟩ := hvisible
  refine List.mem_flatMap.2 ⟨link, hlink, ?_⟩
  cases hframe : link.frame with
  | tables instances =>
    simp only [hframe, Frame.symbols, List.mem_map, Symbol.tableInstance.injEq,
      exists_eq_right] at hmem
    exact List.mem_map_of_mem hmem
  | commonTables defined => simp [hframe, Frame.symbols] at hmem
  | queryColumns columns => simp [hframe, Frame.symbols] at hmem

/-- A common table that a name refers to belongs to a link. -/
theorem declares_of_commonTable? {scope : Scope} {cased : Bool} {name : String}
    {table : CommonTable} (h : scope.commonTable? cased name = some table) :
    .ofCommonTable table ∈ scope.declares := by
  obtain ⟨link, hlink, hmem⟩ := exists_of_mem_nearest (List.mem_of_head? h)
  refine List.mem_flatMap.2 ⟨link, hlink, ?_⟩
  cases hframe : link.frame with
  | commonTables defined =>
    rw [hframe] at hmem
    exact List.mem_map_of_mem (Matching.mem_of_mem_select hmem)
  | tables instances => simp [hframe, Frame.commonTablesNamed] at hmem
  | queryColumns columns => simp [hframe, Frame.commonTablesNamed] at hmem

end Scope

/-! ## Grounded symbols -/

/-- Whether scopes offer symbols of the kind: table instances, their columns, output columns,
variables and functions. -/
def SymbolKind.isScoped : SymbolKind → Bool
  | .tableInstance | .instanceColumn | .queryColumn | .hostVariable | .function => true
  | _ => false

/-- **Grounded**: a symbol of a kind that scopes offer is offered by the scope. -/
def Symbol.GroundedIn (symbol : Symbol) (scope : Scope) : Prop :=
  symbol.kind.isScoped = true → symbol ∈ scope.offered

/-- An offered symbol is grounded. -/
theorem Symbol.GroundedIn.of_mem {symbol : Symbol} {scope : Scope} (h : symbol ∈ scope.offered) :
    symbol.GroundedIn scope :=
  fun _ => h

/-- A symbol of a kind that scopes do not offer is grounded anywhere. -/
theorem Symbol.GroundedIn.of_kind {symbol : Symbol} {scope : Scope}
    (h : symbol.kind.isScoped = false) : symbol.GroundedIn scope := by
  intro htrue
  rw [h] at htrue
  cases htrue

/-- The instance that a grounded symbol is or belongs to is declared. -/
theorem Symbol.GroundedIn.declares {symbol : Symbol} {scope : Scope} {table : TableInstance}
    (h : symbol.GroundedIn scope) (howner : symbol.owner? = some table) :
    .ofInstance table ∈ scope.declares := by
  refine Scope.declares_of_mem_offered (h ?_) howner
  cases symbol <;> simp_all [Symbol.owner?, Symbol.kind, SymbolKind.isScoped]

/-- **Grounded expression**: the symbol that it refers to is grounded. -/
def Bound.Expr.GroundedIn (it : Bound.Expr) (scope : Scope) : Prop :=
  ∀ symbol, it.symbol? = some symbol → symbol.GroundedIn scope

end QuerySemantics
