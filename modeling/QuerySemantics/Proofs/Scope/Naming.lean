import QuerySemantics.Proofs.Scope.Offered
import QuerySemantics.Proofs.Scope.Shape
import QuerySemantics.Proofs.Text.Matching

/-!
# Names in scopes

Which names a scope knows, and when looking a name up does not depend on whether case matters. New table
instances and output columns bring no names along but those that they are given.

## Main definitions

* `Frame.names`, `Scope.names`: the names that a link and a scope know.
* `Matching.SameChoice`: a name that two ways of comparing names treat alike.

## Main results

* `Matching.SameChoice.select`: what such a name selects.
* `Scope.resolveValue_eq`, `Scope.resolveInstance_eq`, `Scope.commonTable?_eq`: what such a name refers
  to.
* `Scope.name_of_resolveValue` and its fellows: what a name refers to is called so, but for case.
* `Supply.Gives.tableInstance_names` and its fellows: the names of what is new.
-/

set_option autoImplicit false

namespace QuerySemantics

/-! ## Names -/

/-- The names of output columns. -/
def QueryColumn.names (columns : List QueryColumn) : List String :=
  columns.map QueryColumn.name

/-- The names of the columns of a table. -/
def TableSource.names (source : TableSource) : List String :=
  source.columns.map Column.name

/-- The name of an instance, and those of its columns. -/
def TableInstance.names (table : TableInstance) : List String :=
  table.name :: table.columns.map InstanceColumn.name

/-- The name of a common table, and those of its columns. -/
def CommonTable.names (table : CommonTable) : List String :=
  table.name :: table.columns.map Column.name

/-- **Names of a frame**: those of its tables and their columns, or of its columns. -/
def Frame.names : Frame → List String
  | .tables instances => instances.flatMap TableInstance.names
  | .commonTables defined => defined.flatMap CommonTable.names
  | .queryColumns columns => QueryColumn.names columns

/-- **Names of a scope**: those of its links. -/
def Scope.names (scope : Scope) : List String :=
  scope.links.flatMap (·.frame.names)

/-- The names of a scope inside are those of its frame, then those outside. -/
theorem Scope.names_push (scope : Scope) (id : SymbolId) (frame : Frame) :
    (scope.push id frame).names = frame.names ++ scope.names :=
  rfl

/-- A name of a frame is one of the names of the scope. -/
theorem Scope.mem_names {scope : Scope} {link : Link} {name : String} (hlink : link ∈ scope.links)
    (h : name ∈ link.frame.names) : name ∈ scope.names :=
  List.mem_flatMap.2 ⟨link, hlink, h⟩

/-! ## What is new -/

namespace Supply.Gives

/-- An output column has the name that it is given. -/
theorem queryColumn_name (name : String) (type : SqlType) :
    Gives (QueryColumn.create name type) (·.name = name) :=
  any.bind fun _ _ => any.bind fun _ _ => .pure rfl

/-- The names of columns are those of their shape. -/
theorem map_name_of_shape {columns : List Column} {shape : List (String × SqlType)}
    (h : Column.shape columns = shape) : columns.map Column.name = shape.map Prod.fst := by
  rw [← h, Column.shape, List.map_map]
  rfl

/-- The columns of the table of a query are called as its output. -/
theorem derivedTable_names (name : String) (shape : List (String × SqlType)) :
    Gives (DerivedTable.create name shape) fun table =>
      (TableSource.derived table).names = shape.map Prod.fst :=
  fun next => map_name_of_shape (derivedTable_shape name shape next)

/-- A common table has the name that it is given, as have its columns. -/
theorem commonTable_names (name : String) (shape : List (String × SqlType)) (kind : Bound.NodeKind)
    (output : List QueryColumn) :
    Gives (CommonTable.create name shape kind output) fun table =>
      table.name = name ∧ table.names = name :: shape.map Prod.fst := by
  intro next
  obtain ⟨hname, hshape⟩ := commonTable_shape name shape kind output next
  refine ⟨hname, ?_⟩
  rw [CommonTable.names, hname, map_name_of_shape hshape]

/-- An instance has the name that it is given and is one of its table, with columns of the same names. -/
theorem tableInstance_names (name : String) (source : TableSource) :
    Gives (TableInstance.create name source) fun table =>
      table.name = name ∧ table.source = source ∧ table.names = name :: source.names := by
  refine any.bind fun _ _ => (instanceColumns_column name source.columns).bind fun made hmade => ?_
  refine .pure ⟨rfl, rfl, ?_⟩
  rw [TableInstance.names, TableSource.names, ← hmade, List.map_map]
  rfl

/-- The names of output columns are those of their shape. -/
theorem queryColumn_names {columns : List QueryColumn} :
    QueryColumn.names columns = (QueryColumn.shape columns).map Prod.fst := by
  rw [QueryColumn.names, QueryColumn.shape, List.map_map]
  rfl

/-- The output columns for instances are called as their columns. -/
theorem expand_names (instances : List TableInstance) :
    Gives (Binding.expand instances) fun made => ∀ name ∈ QueryColumn.names (made.map (·.output)),
      ∃ table ∈ instances, name ∈ table.names := by
  intro next name hname
  rw [queryColumn_names, expand_shape instances next, List.map_flatMap] at hname
  obtain ⟨table, htable, hname⟩ := List.mem_flatMap.1 hname
  refine ⟨table, htable, List.mem_cons_of_mem _ ?_⟩
  rwa [TableInstance.shape, Column.shape, List.map_map, List.map_map] at hname

/-- Copies of columns have their names. -/
theorem copyColumns_names (columns : List QueryColumn) :
    Gives (Binding.copyColumns columns) fun made =>
      QueryColumn.names made = QueryColumn.names columns := by
  induction columns with
  | nil => exact .pure rfl
  | cons column rest ih =>
    exact (queryColumn_name column.name column.type).bind fun _ hname => ih.bind fun _ hrest =>
      .pure (congrArg₂ List.cons hname hrest)

end Supply.Gives

/-- A renamed shape has the names of the list and of the old one. -/
theorem Binding.names_renamed {names : List String} {shape : List (String × SqlType)} :
    ∀ name ∈ (renamed names shape).map Prod.fst, name ∈ names ∨ name ∈ shape.map Prod.fst := by
  induction names generalizing shape with
  | nil => exact fun name h => .inr (by simpa only [renamed] using h)
  | cons first names ih =>
    cases shape with
    | nil => exact fun name h => absurd h List.not_mem_nil
    | cons entry shape =>
      intro name h
      rcases List.mem_cons.1 h with rfl | h
      · exact .inl List.mem_cons_self
      · exact (ih name h).imp (List.mem_cons_of_mem _) (List.mem_cons_of_mem _)

/-! ## Names that are treated alike -/

/-- **Same choice**: two ways of comparing names treat a name alike, among names as told. They are the
same way, or no such name differs from the name in case alone. -/
def Matching.SameChoice (known : String → Prop) (cased cased' : Bool) (name : String) : Prop :=
  cased' = cased ∨ ∀ other, known other → equalIgnoringCase other name = true → other = name

section SameChoice

variable {known : String → Prop} {cased cased' : Bool} {name : String}

/-- **What is selected** either way. -/
theorem Matching.SameChoice.select {α : Type} {nameOf : α → String} {items : List α}
    (h : SameChoice known cased cased' name) (hitems : ∀ item ∈ items, known (nameOf item)) :
    Matching.select cased' nameOf name items = Matching.select cased nameOf name items := by
  rcases h with rfl | h
  · rfl
  · exact select_cased (fun item hitem => h _ (hitems item hitem)) _ _

namespace Frame

variable {frame : Frame}

/-- Both modes find the same instances by a name. -/
theorem instancesNamed_eq (h : Matching.SameChoice known cased cased' name)
    (hframe : ∀ name ∈ frame.names, known name) :
    frame.instancesNamed cased' name = frame.instancesNamed cased name := by
  cases frame with
  | tables instances =>
    exact h.select fun table htable =>
      hframe _ (List.mem_flatMap.2 ⟨table, htable, List.mem_cons_self⟩)
  | commonTables | queryColumns => rfl

/-- Both modes find the same common tables by a name. -/
theorem commonTablesNamed_eq (h : Matching.SameChoice known cased cased' name)
    (hframe : ∀ name ∈ frame.names, known name) :
    frame.commonTablesNamed cased' name = frame.commonTablesNamed cased name := by
  cases frame with
  | commonTables defined =>
    exact h.select fun table htable =>
      hframe _ (List.mem_flatMap.2 ⟨table, htable, List.mem_cons_self⟩)
  | tables | queryColumns => rfl

/-- Both modes find the same values by a name. -/
theorem valuesNamed_eq (h : Matching.SameChoice known cased cased' name)
    (hframe : ∀ name ∈ frame.names, known name) :
    frame.valuesNamed cased' name = frame.valuesNamed cased name := by
  cases frame with
  | queryColumns columns =>
    rw [valuesNamed, valuesNamed, h.select fun column hcolumn => hframe _ (List.mem_map_of_mem hcolumn)]
  | commonTables => rfl
  | tables instances =>
    have hcolumns : ∀ symbol ∈ instances.flatMap TableInstance.columnSymbols, known symbol.name := by
      intro symbol hsymbol
      obtain ⟨table, htable, hsymbol⟩ := List.mem_flatMap.1 hsymbol
      obtain ⟨column, hcolumn, rfl⟩ := List.mem_map.1 hsymbol
      exact hframe _ (List.mem_flatMap.2
        ⟨table, htable, List.mem_cons_of_mem _ (List.mem_map_of_mem hcolumn)⟩)
    have hinstances : ∀ table ∈ instances, known table.name := fun table htable =>
      hframe _ (List.mem_flatMap.2 ⟨table, htable, List.mem_cons_self⟩)
    rw [valuesNamed, valuesNamed, h.select hcolumns, h.select hinstances]

end Frame

namespace Scope

variable {scope : Scope}

/-- The nearest candidates are the same if those of each link are. -/
theorem nearest_congr {α : Type} {candidates candidates' : Frame → List α} {links : List Link}
    (h : ∀ link ∈ links, candidates link.frame = candidates' link.frame) :
    nearest candidates links = nearest candidates' links := by
  induction links with
  | nil => rfl
  | cons link rest ih =>
    rw [nearest, nearest, h link List.mem_cons_self,
      ih fun other hother => h other (List.mem_cons_of_mem _ hother)]

/-- **Table instances** by a name that is treated alike. -/
theorem resolveInstance_eq (h : Matching.SameChoice known cased cased' name)
    (hscope : ∀ name ∈ scope.names, known name) :
    scope.resolveInstance cased' name = scope.resolveInstance cased name :=
  congrArg _ (nearest_congr fun _ hlink =>
    Frame.instancesNamed_eq h fun name hname => hscope name (mem_names hlink hname))

/-- **Values** by a name that is treated alike. -/
theorem resolveValue_eq (h : Matching.SameChoice known cased cased' name)
    (hscope : ∀ name ∈ scope.names, known name) :
    scope.resolveValue cased' name = scope.resolveValue cased name :=
  congrArg _ (nearest_congr fun _ hlink =>
    Frame.valuesNamed_eq h fun name hname => hscope name (mem_names hlink hname))

/-- **Common tables** by a name that is treated alike. -/
theorem commonTable?_eq (h : Matching.SameChoice known cased cased' name)
    (hscope : ∀ name ∈ scope.names, known name) :
    scope.commonTable? cased' name = scope.commonTable? cased name :=
  congrArg _ (nearest_congr fun _ hlink =>
    Frame.commonTablesNamed_eq h fun name hname => hscope name (mem_names hlink hname))

end Scope

end SameChoice

/-! ## What names refer to -/

namespace Scope

variable {scope : Scope} {cased : Bool} {name : String}

open Matching

/-- **Values are called** as they are referred to. -/
theorem name_of_resolveValue {symbol : Symbol} (h : scope.resolveValue cased name = .found symbol) :
    equalIgnoringCase symbol.name name = true := by
  obtain ⟨⟨id, frame⟩, -, hsymbol⟩ := exists_of_mem_nearest (mem_of_ofCandidates h)
  cases frame with
  | queryColumns columns =>
    obtain ⟨column, hcolumn, rfl⟩ := List.mem_map.1 hsymbol
    change equalIgnoringCase column.name name = true
    exact equalIgnoringCase_of_mem_select hcolumn
  | commonTables defined => cases hsymbol
  | tables instances =>
    simp only [Frame.valuesNamed] at hsymbol
    split at hsymbol
    · obtain ⟨table, htable, rfl⟩ := List.mem_map.1 hsymbol
      change equalIgnoringCase table.name name = true
      exact equalIgnoringCase_of_mem_select htable
    · exact equalIgnoringCase_of_mem_select hsymbol

/-- **Table instances are called** as they are referred to, and the scope knows their names. -/
theorem name_of_resolveInstance {table : TableInstance}
    (h : scope.resolveInstance cased name = .found table) :
    equalIgnoringCase table.name name = true ∧ ∀ name ∈ table.names, name ∈ scope.names := by
  obtain ⟨⟨id, frame⟩, hlink, htable⟩ := exists_of_mem_nearest (mem_of_ofCandidates h)
  cases frame with
  | tables instances =>
    refine ⟨equalIgnoringCase_of_mem_select htable, fun name hname => mem_names hlink ?_⟩
    exact List.mem_flatMap.2 ⟨table, mem_of_mem_select htable, hname⟩
  | commonTables | queryColumns => cases htable

/-- **Common tables are called** as they are referred to, and the scope knows their names. -/
theorem name_of_commonTable? {table : CommonTable} (h : scope.commonTable? cased name = some table) :
    equalIgnoringCase table.name name = true ∧ ∀ name ∈ table.names, name ∈ scope.names := by
  obtain ⟨⟨id, frame⟩, hlink, htable⟩ := exists_of_mem_nearest (List.mem_of_head? h)
  cases frame with
  | commonTables defined =>
    refine ⟨equalIgnoringCase_of_mem_select htable, fun name hname => mem_names hlink ?_⟩
    exact List.mem_flatMap.2 ⟨table, mem_of_mem_select htable, hname⟩
  | tables | queryColumns => cases htable

end Scope

end QuerySemantics
