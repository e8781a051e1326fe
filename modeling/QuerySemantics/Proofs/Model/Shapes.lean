import QuerySemantics.Proofs.Model.Identity

/-!
# Shapes of rows

A row is described at each level of a query anew: by the columns of a table, by those of its instances
with their slots, by the output columns of a query and by the pairs that a wildcard stands for. All of
these agree: no level drops, adds or reorders a column.

## Main definitions

* `Catalog.InOrder`: a catalog whose tables have their columns in order.
* `BindingResult.Explains`: a table has the shape of what defines it.
* `BindingResult.Puts`: a `SELECT` puts out the columns of its entries.

## Main results

* `Analysis.model_shapes`: the shapes in a result agree.
-/

set_option autoImplicit false

namespace QuerySemantics

open Binding

/-! ## Columns in order -/

/-- **In order**: the columns of each table of the catalog are numbered from left to right. -/
def Catalog.InOrder (catalog : Catalog) : Prop :=
  ∀ table ∈ catalog.tables, table.columns.map Column.ordinal = List.range table.columns.length

/-- Columns that list a shape are numbered from left to right. -/
theorem Column.Lists.inOrder {shape : List (String × SqlType)} {columns : List Column}
    (h : Column.Lists shape columns) : columns.map Column.ordinal = List.range columns.length := by
  rw [h.ordinals, ← h.entries, Column.shape, List.length_map]

/-- A new table has its columns in order. -/
theorem SchemaTable.create_inOrder (name : String) (shape : List (String × SqlType)) :
    (SchemaTable.create name shape).Takes fun table _ =>
      table.columns.map Column.ordinal = List.range table.columns.length :=
  Supply.Takes.fresh.bind fun _ _ _ => (Supply.Takes.columns shape).bind fun _ _ ⟨_, hlists⟩ =>
    .pure hlists.inOrder

/-- **The names of a column name list** replace those of the query as far as they go. -/
theorem Binding.renamed_eq_mapIdx (names : List String) (shape : List (String × SqlType)) :
    renamed names shape = shape.mapIdx fun index entry => (names[index]?.getD entry.1, entry.2) := by
  induction shape generalizing names with
  | nil => cases names <;> rfl
  | cons entry rest ih =>
    cases names with
    | nil =>
      have hrest : renamed [] rest = rest := by cases rest <;> rfl
      have hsame := ih []
      rw [hrest] at hsame
      simpa [renamed, List.mapIdx_cons] using hsame
    | cons name names =>
      rw [renamed, ih, List.mapIdx_cons]
      rfl

/-! ## Results -/

/-- The names in a column name list. -/
def columnNames (list : Option Ast.ColumnNames) : List String :=
  (list.toList.flatMap Ast.ColumnNames.idents).map Token.ident

/-- The entries of a select list. -/
def selectEntries : Option Ast.SelectClause → List Ast.SelectItem
  | some (.mk _ _ _ items) => items
  | none => []

namespace BindingResult

/-- **Explaining** a table instance: a table of the catalog; a derived table with the shape of its
query; or a common table with the types of its defining query and with the names of the column name
list, or where that has none, of the query. -/
def Explains (result : BindingResult) (analysis : Analysis) (table : TableInstance) : Prop :=
  match table.source with
  | .schema it => it ∈ analysis.catalog.tables
  | .derived it => ∃ record ∈ result.records, ∃ query, record.node = .table (.derived table query) ∧
      Column.shape it.columns = QueryColumn.shape query.output
  | .common it => ∃ record ∈ result.records, ∃ ident names body query,
      analysis.tree.root.piece.Reached (.commonTable (.mk record.info ident names body)) ∧
        record.node = .definition (.mk it query) ∧
          Column.shape it.columns = (QueryColumn.shape query.output).mapIdx fun index entry =>
            ((columnNames names)[index]?.getD entry.1, entry.2)
  | .bad _ => table.columns = []

/-- **Putting out** the columns of a select list: the entries are bound one by one, each `*` with the
columns of the instances that it stands for, and the query puts out what they put out, in order. -/
def Puts (result : BindingResult) (cased : Bool) (entries : List Ast.SelectItem)
    (query : Bound.Query) : Prop :=
  ∃ tables items, query.Selects tables items ∧
    List.Forall₂ (fun it item => result.latest? it.info.index = some (.selectItem item))
      entries items ∧
    List.Forall₂ (Stands cased (tables.flatMap Bound.TableRef.instances)) entries items ∧
    query.output = items.flatMap Bound.SelectItem.output

end BindingResult

namespace SyntaxTree

variable {tree : SyntaxTree} {options : Options} {catalog : Catalog} {next : SymbolId}

/-- **What a wildcard is the wildcard of**: an entry of a select list, bound where its tables are
visible. -/
theorem exists_of_wildcard {record : Record} {qualifier : Option TableInstance}
    {columns : List Bound.ExpandedColumn} (h : record ∈ (tree.bind options catalog next).1.records)
    (hnode : record.node = .selectItem (.wildcard qualifier columns)) :
    ∃ (token : Option Token) (instances : List TableInstance) (outer : Scope)
      (id : SymbolId), tree.root.piece.Reached (.selectItem (.wildcard record.info token)) ∧
        record.scope = outer.push id (.tables instances) ∧
        Stands options.caseSensitive instances (.wildcard record.info token)
          (.wildcard qualifier columns) := by
  obtain ⟨piece, hreached, valued, yield, own, entries, hmakes, hown⟩ := exists_makes h
  cases hmakes with
  | plain _ hnodes =>
    have hplain := List.all_eq_true.1 hnodes record hown
    rw [hnode] at hplain
    cases hplain
  | wildcard hpairs =>
    obtain rfl := List.mem_singleton.1 hown
    cases hnode
    exact ⟨none, _, _, _, hreached, rfl, columns, rfl, hpairs⟩
  | qualified hpairs =>
    obtain rfl := List.mem_singleton.1 hown
    cases hnode
    exact ⟨some _, _, _, _, hreached, rfl, columns, rfl, hpairs⟩
  | nested | fromClause | selectClause => cases hown
  | _ =>
    obtain rfl := List.mem_singleton.1 hown
    cases hnode

/-- **A derived table** lists the output columns of its query. -/
theorem lists_of_derived {record : Record} {table : TableInstance} {query : Bound.Query}
    (h : record ∈ (tree.bind options catalog next).1.records)
    (hnode : record.node = .table (.derived table query)) : ∃ it, table.source = .derived it ∧
      Column.Lists (QueryColumn.shape query.output) it.columns := by
  obtain ⟨piece, hreached, valued, yield, own, entries, hmakes, hown⟩ := exists_makes h
  cases hmakes with
  | plain _ hnodes =>
    have hplain := List.all_eq_true.1 hnodes record hown
    rw [hnode] at hplain
    cases hplain
  | derived hsource hlists =>
    obtain rfl := List.mem_singleton.1 hown
    cases hnode
    exact ⟨_, hsource, hlists⟩
  | nested | fromClause | selectClause => cases hown
  | _ =>
    obtain rfl := List.mem_singleton.1 hown
    cases hnode

/-- **A common table** lists the output columns of its query, with the names of its list. -/
theorem lists_of_definition {record : Record} {table : CommonTable} {query : Bound.Query}
    (h : record ∈ (tree.bind options catalog next).1.records)
    (hnode : record.node = .definition (.mk table query)) : ∃ ident names body,
      tree.root.piece.Reached (.commonTable (.mk record.info ident names body)) ∧
        Column.Lists (renamed (columnNames names) (QueryColumn.shape query.output)) table.columns := by
  obtain ⟨piece, hreached, valued, yield, own, entries, hmakes, hown⟩ := exists_makes h
  cases hmakes with
  | plain _ hnodes =>
    have hplain := List.all_eq_true.1 hnodes record hown
    rw [hnode] at hplain
    cases hplain
  | commonTable hlists =>
    obtain rfl := List.mem_singleton.1 hown
    cases hnode
    exact ⟨_, _, _, hreached, hlists⟩
  | nested | fromClause | selectClause => cases hown
  | _ =>
    obtain rfl := List.mem_singleton.1 hown
    cases hnode

/-- **A `SELECT`** that is bound puts out the columns of its select list. -/
theorem puts_of_select {info : NodeInfo} {head : Option Ast.SelectClause}
    {source : Option Ast.FromClause} {filter : Option Ast.Condition}
    {grouping : Option Ast.GroupByClause} {having : Option Ast.Condition} {node : Bound.Node}
    (hreached : tree.root.piece.Reached (.query (.select info head source filter grouping having)))
    (hnode : (tree.bind options catalog next).1.latest? info.index = some node) :
    ∃ query, node = .query query ∧ (tree.bind options catalog next).1.Puts options.caseSensitive
      (selectEntries head) query := by
  obtain ⟨record, hrecord, rfl⟩ := Option.map_eq_some_iff.1 hnode
  have hroot := isRoot_of_record (List.mem_of_find?_eq_some hrecord)
  obtain ⟨yield, own, entries, hmakes, hown, -⟩ := certified hroot hreached
  cases hmakes with
  | plain hplain => cases hplain
  | select hsource hnone hhead hnone' hselects hstands =>
    have hfound := hown _ (List.mem_singleton_self _)
    obtain rfl := Option.some.inj (hrecord.symm.trans hfound)
    refine ⟨_, rfl, _, _, hselects, ?_, ?_, hselects.output⟩
    · cases head with
      | none =>
        rw [hnone' rfl]
        exact .nil
      | some clause =>
        obtain ⟨own, distinct, top, items⟩ := clause
        refine List.Forall₂.imp (fun it item hit => ?_) (hhead _ rfl)
        obtain ⟨scope, hit⟩ := hit
        exact congrArg (Option.map Record.node) hit
    · cases head with
      | none =>
        rw [hnone' rfl]
        exact .nil
      | some clause =>
        obtain ⟨own, distinct, top, items⟩ := clause
        exact hstands _ _ _ _ rfl

end SyntaxTree

/-! ## All shapes -/

namespace Analysis

/-- **The shape of an instance** that a result shows: it has the columns of its table, and these are those
of what defines the table, from left to right. -/
theorem shape_of_shows {analysis : Analysis} {next : SymbolId} {stock : List Symbol}
    {table : TableInstance} (hcatalog : analysis.catalog.InOrder)
    (hdrawn : (analysis.model next).1.result.DrawnFrom analysis.catalog stock)
    (hshown : (analysis.model next).1.result.Shows (.tableInstance table)) :
    table.columns.map InstanceColumn.column = table.source.columns ∧
      (∀ column ∈ table.columns, column.slot.type = column.type) ∧
      table.source.columns.map Column.ordinal = List.range table.source.columns.length ∧
      (analysis.model next).1.result.Explains analysis table := by
  have hstock : Symbol.tableInstance table ∈ stock :=
    (hdrawn.mem_of_shows hshown).resolve_right (by simp [Scope.rootSymbols])
  obtain ⟨hfits, hsource⟩ := hdrawn.backed _ hstock
  refine ⟨hfits.columns, hfits.slots, ?_⟩
  unfold BindingResult.Explains
  cases hcase : table.source with
  | schema it =>
    rw [hcase] at hsource
    exact ⟨hcatalog it hsource, hsource⟩
  | derived it =>
    rw [hcase] at hsource
    obtain ⟨record, hrecord, query, hnode⟩ := hsource
    obtain ⟨it', hcase', hlists⟩ := SyntaxTree.lists_of_derived hrecord hnode
    cases hcase.symm.trans hcase'
    exact ⟨hlists.inOrder, record, hrecord, query, hnode, hlists.entries⟩
  | common it =>
    rw [hcase] at hsource
    obtain ⟨record, hrecord, query, hnode⟩ := hdrawn.backed _ hsource
    obtain ⟨ident, names, body, hreached, hlists⟩ := SyntaxTree.lists_of_definition hrecord hnode
    refine ⟨hlists.inOrder, record, hrecord, ident, names, body, query, hreached, hnode, ?_⟩
    rw [hlists.entries, renamed_eq_mapIdx]
  | bad it =>
    refine ⟨rfl, ?_⟩
    have hnone := hfits.columns
    rw [hcase] at hnone
    exact List.map_eq_nil_iff.1 hnone

/-- **The shapes in a result agree.** Of every table instance the columns are those of its table, in
order and with slots of their types, and the columns of its table are numbered from left to right and
are those of what defines the table. Every wildcard pairs the columns of the instances that it stands
for with output columns of their names and types. And every `SELECT` puts out the columns of its entries
one after the other. -/
theorem model_shapes (analysis : Analysis) (next : SymbolId) (hcatalog : analysis.catalog.InOrder) :
    let result := (analysis.model next).1.result
    (∀ table, result.Shows (.tableInstance table) →
      table.columns.map InstanceColumn.column = table.source.columns ∧
      (∀ column ∈ table.columns, column.slot.type = column.type) ∧
      table.source.columns.map Column.ordinal = List.range table.source.columns.length ∧
      result.Explains analysis table) ∧
    (∀ record ∈ result.records, ∀ qualifier columns,
      record.node = .selectItem (.wildcard qualifier columns) →
      ∃ (token : Option Token) (instances : List TableInstance) (outer : Scope) (id : SymbolId),
        analysis.tree.root.piece.Reached (.selectItem (.wildcard record.info token)) ∧
          record.scope = outer.push id (.tables instances) ∧
          Stands analysis.options.caseSensitive instances (.wildcard record.info token)
            (.wildcard qualifier columns)) ∧
    ∀ info head source filter grouping having, analysis.tree.root.piece.Reached
      (.query (.select info head source filter grouping having)) →
        ∀ node, result.latest? info.index = some node → ∃ query, node = .query query ∧
          result.Puts analysis.options.caseSensitive (selectEntries head) query := by
  obtain ⟨made, hdrawn⟩ :=
    analysis.tree.exists_drawnFrom analysis.options (SyntaxTree.kept_start analysis.catalog (next + 1))
  exact ⟨fun table hshown => shape_of_shows hcatalog hdrawn hshown,
    fun record hrecord qualifier columns hnode => SyntaxTree.exists_of_wildcard hrecord hnode,
    fun info head source filter grouping having hreached node hnode =>
      SyntaxTree.puts_of_select hreached hnode⟩

/-- Both instances of a table that is joined with itself have its column. -/
theorem model_shapes_selfJoin : selfJoin.catalog.InOrder ∧
    ∀ index ∈ [5, 6], ∃ table ∈ (selfJoin.model 3).1.result.instance? index,
      table.columns.map InstanceColumn.column = table.source.columns ∧ table.columns.length = 1 ∧
        table.source.columns.map Column.ordinal = [0] := by
  have hcatalog : selfJoin.catalog.InOrder := by
    unfold Catalog.InOrder
    decide +kernel
  have hlength : ∀ index ∈ [5, 6], ((selfJoin.model 3).1.result.instance? index).map
      (fun table => table.columns.length) = some 1 := by
    decide +kernel
  obtain ⟨hshapes, -⟩ := model_shapes selfJoin 3 hcatalog
  refine ⟨hcatalog, fun index hindex => ?_⟩
  obtain ⟨table, htable, hone⟩ := Option.map_eq_some_iff.1 (hlength index hindex)
  have hshown := BindingResult.shows_of_instance? (Option.mem_def.2 htable)
  obtain ⟨hcolumns, -, hordinals, -⟩ := hshapes table hshown
  rw [← hcolumns, List.length_map, hone] at hordinals
  exact ⟨table, Option.mem_def.2 htable, hcolumns, hone, hcolumns ▸ hordinals⟩

end Analysis

end QuerySemantics
