import QuerySemantics.Proofs.Model.Account

/-!
# Fresh identities

No identity is given away twice in a pass. Each occurrence of a table has an instance with columns of
its own, each column belongs to the instance that lists it, no two columns share a value slot, and a
chain of scopes makes no symbol visible twice.

## Main definitions

* `Catalog.Stocked`: a catalog that lists no symbol twice.
* `Symbol.slot?`: the slot of a column.
* `BindingResult.Uses`: the columns of instances that a result is about.

## Main results

* `Analysis.model_fresh`: the symbols of a result have identities of their own.
-/

set_option autoImplicit false

namespace QuerySemantics

open Binding

/-- **Stocked**: a catalog that lists no symbol twice, with identities that are taken. -/
structure Catalog.Stocked (catalog : Catalog) (next : SymbolId) : Prop where
  nodup : ((Scope.rootSymbols catalog).map Symbol.id).Nodup
  taken : ∀ symbol ∈ Scope.rootSymbols catalog, symbol.id < next

namespace Catalog

variable {catalog : Catalog} {next : SymbolId}

/-- The symbols of a catalog bring no identities along but their own. -/
theorem numbers_rootSymbols (catalog : Catalog) :
    (Scope.rootSymbols catalog).flatMap Symbol.numbers = (Scope.rootSymbols catalog).map Symbol.id := by
  rw [List.map_eq_flatMap]
  refine List.flatMap_congr fun symbol hsymbol => ?_
  simp only [Scope.rootSymbols, List.mem_append, List.mem_map] at hsymbol
  rcases hsymbol with (⟨_, -, rfl⟩ | ⟨_, -, rfl⟩) | ⟨_, -, rfl⟩ <;> rfl

/-- The symbols of a stocked catalog are apart from each other. -/
theorem Stocked.distinct (h : catalog.Stocked next) : Symbol.Distinct (Scope.rootSymbols catalog) := by
  rw [Symbol.Distinct, numbers_rootSymbols]
  exact h.nodup

/-- A pass may begin with the symbols of the catalog in stock. -/
theorem Stocked.kept (h : catalog.Stocked next) :
    Kept catalog (Scope.rootSymbols catalog) (.start (next + 1)) := by
  refine ⟨h.distinct, fun number hnumber => ?_, fun _ hmem => absurd hmem List.not_mem_nil,
    fun _ hmem => absurd hmem List.not_mem_nil, List.nodup_nil, fun symbol hsymbol => ?_⟩
  · rw [numbers_rootSymbols] at hnumber
    obtain ⟨symbol, hsymbol, rfl⟩ := List.mem_map.1 hnumber
    exact Nat.lt_succ_of_lt (h.taken symbol hsymbol)
  · simp only [Scope.rootSymbols, List.mem_append, List.mem_map] at hsymbol
    rcases hsymbol with (⟨_, -, rfl⟩ | ⟨_, -, rfl⟩) | ⟨_, -, rfl⟩ <;> trivial

end Catalog

/-! ## Columns -/

/-- The slot for the values of a column. -/
def Symbol.slot? : Symbol → Option ValueSlot
  | .instanceColumn _ it => some it.slot
  | .queryColumn it => some it.slot
  | _ => none

/-- A symbol brings the slots of its columns along. -/
theorem Symbol.slot_mem_numbers {symbol column : Symbol} {slot : ValueSlot}
    (hcolumn : column ∈ SemanticModel.withColumns symbol) (hslot : column.slot? = some slot) :
    slot.id ∈ symbol.numbers := by
  cases symbol with
  | tableInstance it =>
    rcases List.mem_cons.1 hcolumn with rfl | hcolumn
    · cases hslot
    · obtain ⟨own, hown, rfl⟩ := List.mem_map.1 hcolumn
      cases hslot
      refine List.mem_cons_of_mem _ (List.mem_flatMap.2 ⟨own, hown, ?_⟩)
      exact List.mem_cons_of_mem _ List.mem_cons_self
  | _ =>
    rw [List.mem_singleton.1 hcolumn] at hslot
    cases hslot <;> simp [numbers, InstanceColumn.numbers]

/-- The identities of its columns come with an instance. -/
theorem TableInstance.id_mem_numbers {table : TableInstance} {column : InstanceColumn}
    (h : column ∈ table.columns) : column.id ∈ (Symbol.tableInstance table).numbers :=
  List.mem_cons_of_mem _ (List.mem_flatMap.2 ⟨column, h, List.mem_cons_self⟩)

/-- **A slot belongs to one column** of a stock. -/
theorem Symbol.Distinct.eq_of_slot {stock : List Symbol} (h : Distinct stock)
    {symbol other column column' : Symbol} (hsymbol : symbol ∈ stock) (hother : other ∈ stock)
    (hcolumn : column ∈ SemanticModel.withColumns symbol)
    (hcolumn' : column' ∈ SemanticModel.withColumns other) {slot slot' : ValueSlot}
    (hslot : column.slot? = some slot) (hslot' : column'.slot? = some slot')
    (hid : slot.id = slot'.id) : column = column' := by
  obtain rfl := h.eq_of_number hsymbol hother (slot_mem_numbers hcolumn hslot)
    (hid ▸ slot_mem_numbers hcolumn' hslot')
  cases symbol with
  | tableInstance it =>
    rcases List.mem_cons.1 hcolumn with rfl | hcolumn
    · cases hslot
    rcases List.mem_cons.1 hcolumn' with rfl | hcolumn'
    · cases hslot'
    obtain ⟨own, hown, rfl⟩ := List.mem_map.1 hcolumn
    obtain ⟨own', hown', rfl⟩ := List.mem_map.1 hcolumn'
    cases hslot
    cases hslot'
    have hnumbers : (it.columns.flatMap InstanceColumn.numbers).Nodup :=
      ((iff.1 h).1 _ hsymbol).of_cons
    have hslots : ∀ column : InstanceColumn, column.slot.id ∈ column.numbers := fun _ =>
      List.mem_cons_of_mem _ List.mem_cons_self
    rw [Symbol.eq_of_nodup_flatMap hnumbers hown hown' (hslots own) (hid ▸ hslots own')]
  | _ => exact (List.mem_singleton.1 hcolumn).trans (List.mem_singleton.1 hcolumn').symm

/-- Scopes make no columns of instances visible on their own. -/
theorem Scope.instanceColumn_not_visible (scope : Scope) (owner : TableInstance)
    (column : InstanceColumn) : .instanceColumn owner column ∉ scope.visible := by
  intro hmem
  rcases List.mem_append.1 hmem with hmem | hmem
  · obtain ⟨link, -, hlink⟩ := List.mem_flatMap.1 hmem
    cases hframe : link.frame <;> rw [hframe] at hlink <;>
      obtain ⟨_, -, heq⟩ := List.mem_map.1 hlink <;> cases heq
  · simp only [rootSymbols, List.mem_append, List.mem_map] at hmem
    rcases hmem with (⟨_, -, heq⟩ | ⟨_, -, heq⟩) | ⟨_, -, heq⟩ <;> cases heq

/-- **A column is offered with the instance** that it belongs to. -/
theorem Scope.visible_of_column_offered {scope : Scope} {owner : TableInstance}
    {column : InstanceColumn} (h : .instanceColumn owner column ∈ scope.offered) :
    .tableInstance owner ∈ scope.visible ∧ column ∈ owner.columns := by
  obtain ⟨symbol, hsymbol, hcolumn⟩ := List.mem_flatMap.1 h
  cases symbol with
  | tableInstance it =>
    rcases List.mem_cons.1 hcolumn with heq | hcolumn
    · cases heq
    · obtain ⟨own, hown, heq⟩ := List.mem_map.1 hcolumn
      cases heq
      exact ⟨hsymbol, hown⟩
  | _ => exact absurd (List.mem_singleton.1 hcolumn ▸ hsymbol) (scope.instanceColumn_not_visible _ _)

/-! ## Results -/

namespace BindingResult

/-- **Columns that a result is about**: those that its expressions refer to, those that its wildcards
stand for, and those that its scopes offer, with the instances that they belong to. -/
def Uses (result : BindingResult) (owner : TableInstance) (column : InstanceColumn) : Prop :=
  (∃ record ∈ result.records, ∃ value, record.node = .expr value ∧
    value.symbol? = some (.instanceColumn owner column)) ∨
  (∃ record ∈ result.records, ∃ qualifier columns,
    record.node = .selectItem (.wildcard qualifier columns) ∧
      ∃ it ∈ columns, it.owner = owner ∧ it.input = column) ∨
  ∃ scope ∈ result.allScopes, .instanceColumn owner column ∈ scope.offered

end BindingResult

/-- What is declared once is declared by one record. -/
theorem eq_of_nodup_filterMap {α β : Type} {items : List α} {value? : α → Option β}
    (h : (items.filterMap value?).Nodup) {it other : α} (hit : it ∈ items) (hother : other ∈ items)
    {value : β} (hvalue : value? it = some value) (hvalue' : value? other = some value) :
    it = other := by
  have hpairwise := List.pairwise_filterMap.1 h
  have hsymm : Std.Symm fun it other : α => ∀ value, value? it = some value → ∀ value',
      value? other = some value' → value ≠ value' :=
    ⟨fun _ _ hne value hvalue value' hvalue' => (hne value' hvalue' value hvalue).symm⟩
  by_contra hne
  exact hpairwise.forall hit hother hne value hvalue value hvalue' rfl

namespace BindingResult.DrawnFrom

variable {result : BindingResult} {catalog : Catalog} {stock : List Symbol}

/-- **Instances of two nodes** that do not coincide bring no identity along in common: one in common would
make them one instance, declared by one record. -/
theorem not_mem_numbers (h : result.DrawnFrom catalog stock) {index index' : Nat}
    {table table' : TableInstance} (htable : table ∈ result.instance? index)
    (htable' : table' ∈ result.instance? index')
    (hapart : ∀ number, result.isSame number index = true → result.isSame number index' ≠ true) :
    ∀ number ∈ (Symbol.tableInstance table).numbers, number ∉ (Symbol.tableInstance table').numbers := by
  obtain ⟨record, hrecord, hindex, hdeclared⟩ := exists_of_instance? htable
  obtain ⟨record', hrecord', hindex', hdeclared'⟩ := exists_of_instance? htable'
  have hsymbol := h.symbols record hrecord _ (Bound.Node.mem_symbols_of_instance? hdeclared)
  have hsymbol' := h.symbols record' hrecord' _ (Bound.Node.mem_symbols_of_instance? hdeclared')
  intro number hnumber hnumber'
  cases h.distinct.eq_of_number hsymbol hsymbol' hnumber hnumber'
  obtain rfl := eq_of_nodup_filterMap h.declared hrecord hrecord' hdeclared hdeclared'
  exact hapart record.info.index hindex hindex'

/-- **Instances of two nodes** that do not coincide have identities of their own, and so have their
columns. -/
theorem instances_apart (h : result.DrawnFrom catalog stock) {index index' : Nat}
    {table table' : TableInstance} (htable : table ∈ result.instance? index)
    (htable' : table' ∈ result.instance? index')
    (hapart : ∀ number, result.isSame number index = true → result.isSame number index' ≠ true) :
    table.id ≠ table'.id ∧
      (table.columns.map InstanceColumn.id).Disjoint (table'.columns.map InstanceColumn.id) := by
  have hnumbers := h.not_mem_numbers htable htable' hapart
  refine ⟨fun heq => hnumbers _ List.mem_cons_self (heq ▸ List.mem_cons_self), ?_⟩
  intro number hnumber hnumber'
  obtain ⟨own, hown, rfl⟩ := List.mem_map.1 hnumber
  obtain ⟨own', hown', heq⟩ := List.mem_map.1 hnumber'
  exact hnumbers own.id (TableInstance.id_mem_numbers hown) (heq ▸ TableInstance.id_mem_numbers hown')

/-- **A column belongs to one instance** of those in stock. -/
theorem eq_of_column (h : result.DrawnFrom catalog stock) {table owner : TableInstance}
    {column column' : InstanceColumn} (htable : Symbol.tableInstance table ∈ stock)
    (howner : Symbol.tableInstance owner ∈ stock) (hcolumn : column ∈ owner.columns)
    (hcolumn' : column' ∈ table.columns) (hid : column'.id = column.id) :
    table = owner ∧ column' = column := by
  cases h.distinct.eq_of_number htable howner (TableInstance.id_mem_numbers hcolumn')
    (hid ▸ TableInstance.id_mem_numbers hcolumn)
  have hnumbers : (table.columns.flatMap InstanceColumn.numbers).Nodup :=
    ((Symbol.Distinct.iff.1 h.distinct).1 _ htable).of_cons
  have hmem : column'.id ∈ column.numbers := hid ▸ List.mem_cons_self
  exact ⟨rfl, Symbol.eq_of_nodup_flatMap hnumbers hcolumn' hcolumn List.mem_cons_self hmem⟩

end BindingResult.DrawnFrom

/-- The scope at a position is one of the result. -/
theorem SemanticModel.scopeAt_mem (model : SemanticModel) (position : Nat) :
    model.scopeAt position = model.result.rootScope ∨
      model.scopeAt position ∈ model.result.allScopes := by
  unfold scopeAt
  dsimp only
  generalize Located.innermost _ position model.analysis.tree.root = found
  cases hscope : found.bind fun info => model.result.scope? info.index with
  | none => exact .inl rfl
  | some scope =>
    obtain ⟨info, -, hentered⟩ := Option.bind_eq_some_iff.1 hscope
    obtain ⟨entry, hentry, rfl⟩ := Option.map_eq_some_iff.1 hentered
    exact .inr (List.mem_append_right _ (List.mem_map_of_mem (List.mem_of_find?_eq_some hentry)))

namespace SyntaxTree

variable {tree : SyntaxTree} {options : Options} {catalog : Catalog} {next : SymbolId}

/-- **The columns that a result is about** belong to instances that it shows. -/
theorem exists_of_uses {owner : TableInstance} {column : InstanceColumn}
    (h : (tree.bind options catalog next).1.Uses owner column) :
    column ∈ owner.columns ∧ (tree.bind options catalog next).1.Shows (.tableInstance owner) := by
  rcases h with ⟨record, hrecord, value, hnode, hsymbol⟩ | ⟨record, hrecord, qualifier, columns, hnode,
    it, hit, rfl, rfl⟩ | ⟨scope, hscope, hoffered⟩
  · obtain ⟨outcome, first, last, log, hvisit, hrecords, -⟩ := tree.bind_visits options catalog next
    have hoffered := hvisit.grounded record (hrecords ▸ hrecord) value hnode _ hsymbol rfl
    obtain ⟨hvisible, hcolumn⟩ := Scope.visible_of_column_offered hoffered
    exact ⟨hcolumn, .inr ⟨record.scope, List.mem_append_left _ (List.mem_map_of_mem hrecord), hvisible⟩⟩
  · have hshown : Symbol.tableInstance it.owner ∈ record.node.symbols := by
      rw [hnode]
      refine List.mem_append_left _ (List.mem_append_right _ ?_)
      exact List.mem_map.2 ⟨it, hit, rfl⟩
    refine ⟨?_, .inl ⟨record, hrecord, hshown⟩⟩
    obtain ⟨piece, -, valued, yield, own, entries, hmakes, hown⟩ := exists_makes hrecord
    cases hmakes with
    | plain _ hnodes =>
      have hplain := List.all_eq_true.1 hnodes record hown
      rw [hnode] at hplain
      cases hplain
    | wildcard hpairs =>
      obtain rfl := List.mem_singleton.1 hown
      cases hnode
      exact (Accounts.owner_mem_of_pairs hpairs hit).2
    | qualified hpairs =>
      obtain rfl := List.mem_singleton.1 hown
      cases hnode
      exact (Accounts.owner_mem_of_pairs hpairs hit).2
    | nested | fromClause | selectClause => cases hown
    | _ =>
      obtain rfl := List.mem_singleton.1 hown
      cases hnode
  · obtain ⟨hvisible, hcolumn⟩ := Scope.visible_of_column_offered hoffered
    exact ⟨hcolumn, .inr ⟨scope, hscope, hvisible⟩⟩

end SyntaxTree

namespace Analysis

/-- **Identities of their own.** Binding a tree against a catalog that lists no symbol twice, table
references that do not coincide get distinct instances without a column in common; a column belongs to the
one instance that lists it; no two columns have a slot in common; and no scope, nor any look-up at a
position, shows a symbol twice, not even with the columns of each instance. -/
theorem model_fresh (analysis : Analysis) {next : SymbolId} (hcatalog : analysis.catalog.Stocked next) :
    let model := (analysis.model next).1
    (∀ index index', ¬ analysis.tree.Same index index' → ∀ table ∈ model.result.instance? index,
      ∀ table' ∈ model.result.instance? index', table.id ≠ table'.id ∧
        (table.columns.map InstanceColumn.id).Disjoint (table'.columns.map InstanceColumn.id)) ∧
    (∀ owner column, model.result.Uses owner column → column ∈ owner.columns ∧
      model.result.Shows (.tableInstance owner) ∧
        ∀ table, model.result.Shows (.tableInstance table) → ∀ column' ∈ table.columns,
          column'.id = column.id → table = owner ∧ column' = column) ∧
    (∀ symbol symbol', model.result.Shows symbol → model.result.Shows symbol' →
      ∀ column ∈ SemanticModel.withColumns symbol, ∀ column' ∈ SemanticModel.withColumns symbol',
        ∀ slot ∈ column.slot?, ∀ slot' ∈ column'.slot?, slot.id = slot'.id → column = column') ∧
    (∀ scope ∈ model.result.allScopes,
      (scope.visible.map Symbol.id).Nodup ∧ (scope.offered.map Symbol.id).Nodup) ∧
    ∀ position, ((model.lookupSymbols position).map Symbol.id).Nodup := by
  obtain ⟨made, hdrawn⟩ := analysis.tree.exists_drawnFrom analysis.options hcatalog.kept
  intro model
  have hroot : ∀ symbol ∈ Scope.rootSymbols analysis.catalog,
      symbol ∈ made ++ Scope.rootSymbols analysis.catalog := fun _ => List.mem_append_right _
  have hstock : ∀ symbol, model.result.Shows symbol →
      symbol ∈ made ++ Scope.rootSymbols analysis.catalog := fun symbol hshown =>
    (hdrawn.mem_of_shows hshown).elim id (hroot symbol)
  have hdistinct : ∀ scope ∈ model.result.allScopes, Symbol.Distinct scope.visible := fun scope hscope =>
    (hdrawn.scopes scope hscope).distinct_visible hdrawn.distinct hcatalog.distinct hroot
  refine ⟨fun index index' hne table htable table' htable' => ?_, fun owner column huses => ?_, ?_,
    fun scope hscope => ?_, fun position => ?_⟩
  · refine hdrawn.instances_apart htable htable' fun number hnumber hnumber' => hne ?_
    have hown : analysis.tree.Same number index := (BindingResult.isSame_iff rfl).1 hnumber
    exact hown.symm.trans ((BindingResult.isSame_iff rfl).1 hnumber')
  · obtain ⟨hcolumn, hshown⟩ := SyntaxTree.exists_of_uses huses
    exact ⟨hcolumn, hshown, fun table htable column' hcolumn' =>
      hdrawn.eq_of_column (hstock _ htable) (hstock _ hshown) hcolumn hcolumn'⟩
  · intro symbol symbol' hsymbol hsymbol' column hcolumn column' hcolumn' slot hslot slot' hslot' hid
    exact hdrawn.distinct.eq_of_slot (hstock _ hsymbol) (hstock _ hsymbol') hcolumn hcolumn' hslot hslot'
      hid
  · exact ⟨(hdistinct scope hscope).nodup_ids, (hdistinct scope hscope).nodup_columns⟩
  · have hscope : Symbol.Distinct (model.scopeAt position).visible := by
      rcases model.scopeAt_mem position with heq | hmem
      · rw [heq]
        exact hcatalog.distinct
      · exact hdistinct _ hmem
    exact hscope.nodup_columns

/-- The analysis of `SELECT * FROM t, t`, where the table `t` has one column. -/
def selfJoin : Analysis :=
  ⟨⟨0, .node .compilationUnit [.node .selectQuery [
    .node .selectClause [.token .selectKeyword "SELECT", .token .whitespace " ",
      .node .wildcardSelectColumn [.token .star "*"]],
    .token .whitespace " ",
    .node .fromClause [.token .fromKeyword "FROM", .token .whitespace " ",
      .node .namedTableReference [.token .identifier "t"], .token .comma ",",
      .token .whitespace " ", .node .namedTableReference [.token .identifier "t"]]]]⟩,
    { (Catalog.empty 0).1 with tables := [⟨1, "t", [⟨2, "x", .boolean, 0⟩]⟩] }, {}⟩

/-- A table that is joined with itself has two instances, with a column each. -/
theorem model_fresh_selfJoin : selfJoin.catalog.Stocked 3 ∧
    ∃ table ∈ (selfJoin.model 3).1.result.instance? 5,
      ∃ table' ∈ (selfJoin.model 3).1.result.instance? 6,
        table.id ≠ table'.id ∧ table.columns.length = 1 ∧ table'.columns.length = 1 ∧
          (table.columns.map InstanceColumn.id).Disjoint (table'.columns.map InstanceColumn.id) := by
  have hcatalog : selfJoin.catalog.Stocked 3 := ⟨by decide +kernel, by decide +kernel⟩
  have hlength : ∀ index ∈ [5, 6], ((selfJoin.model 3).1.result.instance? index).map
      (fun table => table.columns.length) = some 1 := by
    decide +kernel
  have hfresh : ∀ table ∈ (selfJoin.model 3).1.result.instance? 5,
      ∀ table' ∈ (selfJoin.model 3).1.result.instance? 6, table.id ≠ table'.id ∧
        (table.columns.map InstanceColumn.id).Disjoint (table'.columns.map InstanceColumn.id) :=
    (model_fresh selfJoin hcatalog).1 5 6 (by decide)
  obtain ⟨table, htable, hone⟩ := Option.map_eq_some_iff.1 (hlength 5 (by decide))
  obtain ⟨table', htable', hone'⟩ := Option.map_eq_some_iff.1 (hlength 6 (by decide))
  obtain ⟨hne, hdisjoint⟩ := hfresh table (Option.mem_def.2 htable) table' (Option.mem_def.2 htable')
  exact ⟨hcatalog, table, Option.mem_def.2 htable, table', Option.mem_def.2 htable', hne, hone, hone',
    hdisjoint⟩

end Analysis

end QuerySemantics
