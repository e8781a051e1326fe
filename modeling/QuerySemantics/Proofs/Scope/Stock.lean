import Mathlib.Data.List.Flatten
import Mathlib.Data.List.Nodup
import Mathlib.Data.List.Pairwise
import QuerySemantics.Proofs.Binding.Rules
import QuerySemantics.Proofs.Scope.Shape

/-!
# Stocks of symbols

The symbols that a pass comes to know: those of the catalog, and those that it makes. A new symbol
takes fresh identities, for itself and for its columns and slots, so that no two symbols of a stock
ever share one. A scope is drawn from a stock if its links declare no symbol twice.

## Main definitions

* `Symbol.numbers`: the identities that a symbol brings along.
* `Symbol.Distinct`: a stock of symbols that share no identity.
* `TableInstance.Fits`: an instance whose columns are those of its table.
* `Bound.ExpandedColumn.Pairs`: the columns of instances, each with an output column of its shape.
* `Supply.Takes`: what a supply computation makes, and the identities that it takes for it.
* `Scope.Drawn`: a scope whose links declare symbols from a stock, each once.

## Main results

* `Symbol.Distinct.eq_of_number`: an identity belongs to one symbol of a stock.
* `Supply.Takes.tableInstance`, `Supply.Takes.expand` and fellows: new symbols bring fresh identities.
* `Scope.Drawn.push`: a link with new symbols in front of a scope.
* `Symbol.Distinct.nodup_columns`: distinct symbols have distinct columns.
-/

set_option autoImplicit false

namespace QuerySemantics

/-! ## Identities of symbols -/

/-- What no two items have in common belongs to one item. -/
theorem Symbol.eq_of_nodup_flatMap {α β : Type} {items : List α} {parts : α → List β}
    (h : (items.flatMap parts).Nodup) {it other : α} (hit : it ∈ items) (hother : other ∈ items)
    {part : β} (hpart : part ∈ parts it) (hpart' : part ∈ parts other) : it = other := by
  obtain ⟨-, hpairwise⟩ := List.nodup_flatMap.1 h
  have hsymm : Std.Symm fun it other : α => (parts it).Disjoint (parts other) :=
    ⟨fun _ _ hdisjoint => List.disjoint_symm hdisjoint⟩
  by_contra hne
  exact hpairwise.forall hit hother hne hpart hpart'

/-- The identities of a column of an instance: its own, and that of its slot. -/
def InstanceColumn.numbers (column : InstanceColumn) : List SymbolId :=
  [column.id, column.slot.id]

/-- **Numbers**: the identities that a symbol brings along. Those of the columns of an instance come
with the instance, and that of a slot with its column. -/
def Symbol.numbers : Symbol → List SymbolId
  | .tableInstance it => it.id :: it.columns.flatMap InstanceColumn.numbers
  | .queryColumn it => [it.slot.id, it.id]
  | .instanceColumn _ it => it.numbers
  | other => [other.id]

/-- A symbol brings its own identity along. -/
theorem Symbol.id_mem_numbers (symbol : Symbol) : symbol.id ∈ symbol.numbers := by
  cases symbol with
  | queryColumn it => exact List.mem_cons_of_mem _ List.mem_cons_self
  | _ => exact List.mem_cons_self

/-- **Distinct symbols**: no two of them share an identity, and none brings one along twice. -/
def Symbol.Distinct (stock : List Symbol) : Prop :=
  (stock.flatMap Symbol.numbers).Nodup

namespace Symbol.Distinct

variable {stock symbols : List Symbol}

/-- Distinct symbols, in other words. -/
theorem iff : Distinct stock ↔ (∀ symbol ∈ stock, symbol.numbers.Nodup) ∧
    stock.Pairwise fun symbol other => symbol.numbers.Disjoint other.numbers :=
  List.nodup_flatMap

/-- **An identity belongs to one symbol** of a stock. -/
theorem eq_of_number (h : Distinct stock) {symbol other : Symbol} (hsymbol : symbol ∈ stock)
    (hother : other ∈ stock) {number : SymbolId} (hnumber : number ∈ symbol.numbers)
    (hnumber' : number ∈ other.numbers) : symbol = other :=
  Symbol.eq_of_nodup_flatMap h hsymbol hother hnumber hnumber'

/-- A stock holds no symbol twice. -/
theorem nodup (h : Distinct stock) : stock.Nodup := by
  obtain ⟨-, hpairwise⟩ := iff.1 h
  refine hpairwise.imp fun {symbol other} hdisjoint heq => ?_
  exact hdisjoint symbol.id_mem_numbers (heq ▸ symbol.id_mem_numbers)

/-- Symbols from a stock, each taken once, are distinct. -/
theorem of_subset (h : Distinct stock) (hnodup : symbols.Nodup)
    (hsubset : ∀ symbol ∈ symbols, symbol ∈ stock) : Distinct symbols := by
  refine iff.2 ⟨fun symbol hsymbol => (iff.1 h).1 symbol (hsubset symbol hsymbol), ?_⟩
  refine hnodup.imp_of_mem fun {symbol other} hsymbol hother hne number hnumber hnumber' => hne ?_
  exact h.eq_of_number (hsubset symbol hsymbol) (hsubset other hother) hnumber hnumber'

/-- New symbols in front of older ones, whose identities lie below. -/
theorem append {made : List Symbol} {next : SymbolId} (hmade : Distinct made)
    (hnew : ∀ number ∈ made.flatMap Symbol.numbers, next ≤ number) (h : Distinct stock)
    (hold : ∀ number ∈ stock.flatMap Symbol.numbers, number < next) : Distinct (made ++ stock) := by
  unfold Distinct at *
  rw [List.flatMap_append, List.nodup_append]
  refine ⟨hmade, h, fun number hnumber other hother heq => ?_⟩
  exact Nat.ne_of_gt (Nat.lt_of_lt_of_le (hold other hother) (hnew number hnumber)) heq

/-- New symbols are not among older ones. -/
theorem disjoint {made : List Symbol} (h : Distinct (made ++ stock)) : made.Disjoint stock :=
  List.disjoint_of_nodup_append h.nodup

end Symbol.Distinct

/-! ## New symbols -/

/-- **Fitting**: the columns of an instance are those of its table, with slots of their types. -/
structure TableInstance.Fits (table : TableInstance) : Prop where
  columns : table.columns.map InstanceColumn.column = table.source.columns
  slots : ∀ column ∈ table.columns, column.slot.type = column.type

/-- **Listing** a shape: columns with its names and types, in their places. -/
structure Column.Lists (shape : List (String × SqlType)) (columns : List Column) : Prop where
  entries : Column.shape columns = shape
  ordinals : columns.map Column.ordinal = List.range shape.length

/-- **Pairing**: all columns of the instances in order, each with an output column of its name and
type. -/
structure Bound.ExpandedColumn.Pairs (instances : List TableInstance)
    (columns : List Bound.ExpandedColumn) : Prop where
  inputs : columns.map (fun column => (column.owner, column.input)) =
    instances.flatMap fun table => table.columns.map (table, ·)
  outputs : ∀ column ∈ columns,
    column.output.name = column.input.name ∧ column.output.type = column.input.type

/-- **Taking**: a supply computation makes something, and takes fresh identities for it, each once. -/
def Supply.Takes {α : Type} (taken : Supply α) (post : α → List SymbolId → Prop) : Prop :=
  ∀ next, next ≤ (taken next).2 ∧ ∃ numbers, post (taken next).1 numbers ∧ numbers.Nodup ∧
    ∀ number ∈ numbers, next ≤ number ∧ number < (taken next).2

namespace Supply.Takes

variable {α β : Type}

/-- A value takes no number. -/
theorem pure {value : α} {post : α → List SymbolId → Prop} (h : post value []) :
    Takes (Pure.pure value : Supply α) post :=
  fun _ => ⟨Nat.le_refl _, [], h, List.nodup_nil, fun _ hmem => absurd hmem List.not_mem_nil⟩

/-- A fresh identity takes one number, its own. -/
theorem fresh : Takes Supply.fresh fun id numbers => numbers = [id] := by
  refine fun next => ⟨Nat.le_succ next, [next], rfl, List.nodup_singleton _, fun number hmem => ?_⟩
  rw [List.mem_singleton.1 hmem]
  exact ⟨Nat.le_refl _, Nat.lt_succ_self _⟩

/-- Identities that are taken but not looked at. -/
theorem of_gives {taken : Supply α} {post : α → Prop} (hadvances : taken.Advances)
    (h : taken.Gives post) : Takes taken fun value numbers => numbers = [] ∧ post value :=
  fun next => ⟨hadvances next, [], ⟨rfl, h next⟩, List.nodup_nil,
    fun _ hmem => absurd hmem List.not_mem_nil⟩

/-- What is known of the value and the numbers may be put in other words. -/
theorem mono {taken : Supply α} {post post' : α → List SymbolId → Prop} (h : Takes taken post)
    (himp : ∀ value numbers, post value numbers → post' value numbers) : Takes taken post' := by
  intro next
  obtain ⟨hle, numbers, hpost, hrest⟩ := h next
  exact ⟨hle, numbers, himp _ _ hpost, hrest⟩

/-- **Sequence**: identities of the second part lie behind those of the first. -/
theorem bind {first : Supply α} {rest : α → Supply β} {middle : α → List SymbolId → Prop}
    {post : β → List SymbolId → Prop} (hfirst : Takes first middle)
    (hrest : ∀ value numbers, middle value numbers →
      Takes (rest value) fun last numbers' => post last (numbers ++ numbers')) :
    Takes (first >>= rest) post := by
  intro next
  obtain ⟨hle, numbers, hmiddle, hnodup, hbounds⟩ := hfirst next
  obtain ⟨hle', numbers', hpost, hnodup', hbounds'⟩ := hrest _ _ hmiddle (first next).2
  refine ⟨Nat.le_trans hle hle', numbers ++ numbers', hpost, ?_, ?_⟩
  · rw [List.nodup_append]
    refine ⟨hnodup, hnodup', fun number hnumber other hother heq => ?_⟩
    exact Nat.ne_of_lt (Nat.lt_of_lt_of_le (hbounds number hnumber).2 (hbounds' other hother).1) heq
  · intro number hnumber
    rcases List.mem_append.1 hnumber with hnumber | hnumber
    · exact ⟨(hbounds number hnumber).1, Nat.lt_of_lt_of_le (hbounds number hnumber).2 hle'⟩
    · exact ⟨Nat.le_trans hle (hbounds' number hnumber).1, (hbounds' number hnumber).2⟩

/-! ### Tables -/

/-- New columns stand in their places. -/
theorem columns_ordinals (ordinal : Nat) (shape : List (String × SqlType)) :
    (Column.listFrom ordinal shape).Gives fun made =>
      made.map Column.ordinal = List.range' ordinal shape.length := by
  induction shape generalizing ordinal with
  | nil => exact .pure rfl
  | cons entry rest ih =>
    exact Supply.Gives.any.bind fun _ _ => (ih _).bind fun _ h =>
      .pure (congrArg (ordinal :: ·) h)

/-- New columns list their shape. -/
theorem columns (shape : List (String × SqlType)) :
    Takes (Column.list shape) fun made numbers => numbers = [] ∧ Column.Lists shape made := by
  refine of_gives (.columns 0 shape) fun next => ⟨Supply.Gives.columns_shape 0 shape next, ?_⟩
  rw [List.range_eq_range']
  exact columns_ordinals 0 shape next

/-- A derived table takes one number, and has the columns of its shape. -/
theorem derivedTable (name : String) (shape : List (String × SqlType)) :
    Takes (DerivedTable.create name shape) fun table numbers =>
      numbers = [table.id] ∧ Column.Lists shape table.columns :=
  fresh.bind fun _ _ hid => (columns shape).bind fun _ _ ⟨hnumbers, hlists⟩ =>
    .pure ⟨by rw [hid, hnumbers]; rfl, hlists⟩

/-- **A common table** brings its own identity along. -/
theorem commonTable (name : String) (shape : List (String × SqlType)) (kind : Bound.NodeKind)
    (output : List QueryColumn) :
    Takes (CommonTable.create name shape kind output) fun table numbers =>
      numbers = (Symbol.commonTable table).numbers ∧ Column.Lists shape table.columns ∧
        table.output = output :=
  fresh.bind fun _ _ hid => (columns shape).bind fun _ _ ⟨hnumbers, hlists⟩ =>
    .pure ⟨by rw [hid, hnumbers]; rfl, hlists, rfl⟩

/-- New columns of an instance are those of its table. -/
theorem instanceColumns (name : String) (columns : List Column) :
    Takes (TableInstance.createColumns name columns) fun made numbers =>
      numbers = made.flatMap InstanceColumn.numbers ∧ made.map InstanceColumn.column = columns ∧
        ∀ column ∈ made, column.slot.type = column.type := by
  induction columns with
  | nil => exact .pure ⟨rfl, rfl, fun _ hmem => absurd hmem List.not_mem_nil⟩
  | cons column rest ih =>
    refine fresh.bind fun id _ hid => fresh.bind fun slot _ hslot => ih.bind fun made _ h => ?_
    obtain ⟨hnumbers, hcolumns, hslots⟩ := h
    subst hid hslot hnumbers
    exact .pure ⟨by simp [InstanceColumn.numbers], congrArg (column :: ·) hcolumns,
      List.forall_mem_cons.2 ⟨rfl, hslots⟩⟩

/-- **A new instance** brings along fresh identities for itself, its columns and their slots, and
fits its table. -/
theorem tableInstance (name : String) (source : TableSource) :
    Takes (TableInstance.create name source) fun table numbers =>
      numbers = (Symbol.tableInstance table).numbers ∧ table.Fits ∧ table.source = source ∧
        table.name = name := by
  refine fresh.bind fun id _ hid => (instanceColumns name source.columns).bind fun made _ h => ?_
  obtain ⟨hnumbers, hcolumns, hslots⟩ := h
  subst hid hnumbers
  exact .pure ⟨by simp [Symbol.numbers], ⟨hcolumns, hslots⟩, rfl, rfl⟩

/-! ### Output columns -/

/-- **A new output column** brings along fresh identities for itself and its slot. -/
theorem queryColumn (name : String) (type : SqlType) :
    Takes (QueryColumn.create name type) fun column numbers =>
      numbers = (Symbol.queryColumn column).numbers ∧ column.name = name ∧ column.type = type :=
  fresh.bind fun _ _ hslot => fresh.bind fun _ _ hid =>
    .pure ⟨by rw [hslot, hid]; rfl, rfl, rfl⟩

/-- Copies of output columns are new output columns. -/
theorem copyColumns (columns : List QueryColumn) :
    Takes (Binding.copyColumns columns) fun made numbers =>
      numbers = (made.map Symbol.queryColumn).flatMap Symbol.numbers := by
  induction columns with
  | nil => exact .pure rfl
  | cons column rest ih =>
    refine (queryColumn column.name column.type).bind fun copy _ hcopy => ih.bind fun made _ h => ?_
    exact .pure (by rw [hcopy.1, h]; simp)

/-- New output columns for the columns of one instance. -/
theorem expandColumns (owner : TableInstance) (columns : List InstanceColumn) :
    Takes (Binding.expandColumns owner columns) fun made numbers =>
      numbers = (made.map fun it => Symbol.queryColumn it.output).flatMap Symbol.numbers ∧
        made.map (fun it => (it.owner, it.input)) = columns.map (owner, ·) ∧
        ∀ it ∈ made, it.output.name = it.input.name ∧ it.output.type = it.input.type := by
  induction columns with
  | nil => exact .pure ⟨rfl, rfl, fun _ hmem => absurd hmem List.not_mem_nil⟩
  | cons column rest ih =>
    refine (queryColumn column.name column.type).bind fun output _ houtput => ?_
    refine ih.bind fun made _ ⟨hnumbers, hinputs, houtputs⟩ => .pure ⟨?_, ?_, ?_⟩
    · rw [houtput.1, hnumbers]
      simp
    · exact congrArg ((owner, column) :: ·) hinputs
    · exact List.forall_mem_cons.2 ⟨houtput.2, houtputs⟩

/-- **New output columns for instances** pair all their columns. -/
theorem expand (instances : List TableInstance) :
    Takes (Binding.expand instances) fun made numbers =>
      numbers = (made.map fun it => Symbol.queryColumn it.output).flatMap Symbol.numbers ∧
        Bound.ExpandedColumn.Pairs instances made := by
  induction instances with
  | nil => exact .pure ⟨rfl, rfl, fun _ hmem => absurd hmem List.not_mem_nil⟩
  | cons table rest ih =>
    refine (expandColumns table table.columns).bind fun made _ ⟨hnumbers, hinputs, houtputs⟩ => ?_
    refine ih.bind fun others _ ⟨hnumbers', hpairs⟩ => .pure ⟨?_, ?_, ?_⟩
    · rw [hnumbers, hnumbers']
      simp
    · rw [List.map_append, List.flatMap_cons, hinputs, hpairs.inputs]
    · exact List.forall_mem_append.2 ⟨houtputs, hpairs.outputs⟩

end Supply.Takes

/-! ## Drawn scopes -/

/-- The symbols that the links of a scope declare, nearest first. -/
def Scope.linked (scope : Scope) : List Symbol :=
  scope.links.flatMap (·.frame.symbols)

/-- **Drawn**: what the links of a scope declare is from a stock, and nothing is declared twice. Around
them is the catalog at hand. -/
structure Scope.Drawn (root : Catalog) (stock : List Symbol) (scope : Scope) : Prop where
  nodup : scope.linked.Nodup
  subset : ∀ symbol ∈ scope.linked, symbol ∈ stock
  catalog : scope.catalog = root

namespace Scope.Drawn

variable {root : Catalog} {stock made : List Symbol} {scope : Scope}

/-- A stock may grow. -/
theorem mono (h : scope.Drawn root stock) : scope.Drawn root (made ++ stock) where
  nodup := h.nodup
  subset symbol hsymbol := List.mem_append_right _ (h.subset symbol hsymbol)
  catalog := h.catalog

/-- **A link with new symbols** in front of a scope with older ones. -/
theorem push {frame : Frame} (h : scope.Drawn root stock) (hdistinct : Symbol.Distinct (made ++ stock))
    (hnodup : frame.symbols.Nodup) (hsubset : ∀ symbol ∈ frame.symbols, symbol ∈ made)
    (id : SymbolId) : (scope.push id frame).Drawn root (made ++ stock) where
  nodup := by
    refine List.nodup_append.2 ⟨hnodup, h.nodup, fun symbol hsymbol other hother heq => ?_⟩
    exact hdistinct.disjoint (hsubset symbol hsymbol) (heq ▸ h.subset other hother)
  subset := List.forall_mem_append.2
    ⟨fun symbol hsymbol => List.mem_append_left _ (hsubset symbol hsymbol),
      fun symbol hsymbol => List.mem_append_right _ (h.subset symbol hsymbol)⟩
  catalog := h.catalog

/-- If the symbols of the catalog are in stock too and nothing is in it twice, then nothing is visible
twice. -/
theorem distinct_visible (h : scope.Drawn root stock) (hdistinct : Symbol.Distinct stock)
    (hroot : Symbol.Distinct (Scope.rootSymbols root))
    (hsubset : ∀ symbol ∈ Scope.rootSymbols root, symbol ∈ stock) : Symbol.Distinct scope.visible := by
  have hvisible : scope.visible = scope.linked ++ Scope.rootSymbols root := h.catalog ▸ rfl
  rw [hvisible]
  refine hdistinct.of_subset (List.nodup_append.2 ⟨h.nodup, hroot.nodup, ?_⟩)
    (List.forall_mem_append.2 ⟨h.subset, hsubset⟩)
  -- links declare no symbols of a kind that the catalog has
  intro symbol hsymbol other hother heq
  obtain ⟨link, -, hlink⟩ := List.mem_flatMap.1 hsymbol
  simp only [Scope.rootSymbols, List.mem_append, List.mem_map] at hother
  cases hframe : link.frame <;> rw [hframe] at hlink <;> obtain ⟨_, -, rfl⟩ := List.mem_map.1 hlink <;>
    rcases hother with (⟨_, -, rfl⟩ | ⟨_, -, rfl⟩) | ⟨_, -, rfl⟩ <;> cases heq

end Scope.Drawn

namespace Symbol.Distinct

/-- Distinct symbols have an identity each. -/
theorem nodup_ids {symbols : List Symbol} (h : Distinct symbols) : (symbols.map Symbol.id).Nodup := by
  refine List.Nodup.sublist ?_ h
  rw [List.map_eq_flatMap]
  refine List.Sublist.flatMap_right _ fun symbol _ => ?_
  exact List.singleton_sublist.2 symbol.id_mem_numbers

/-- **Distinct symbols have distinct columns**, with an identity each. -/
theorem nodup_columns {symbols : List Symbol} (h : Distinct symbols) :
    ((symbols.flatMap SemanticModel.withColumns).map Symbol.id).Nodup := by
  have hcolumns : ∀ columns : List InstanceColumn,
      (columns.map InstanceColumn.id).Sublist (columns.flatMap InstanceColumn.numbers) := by
    intro columns
    rw [List.map_eq_flatMap]
    exact List.Sublist.flatMap_right _ fun column _ => List.singleton_sublist.2 List.mem_cons_self
  refine List.Nodup.sublist ?_ h
  rw [List.map_flatMap]
  refine List.Sublist.flatMap_right _ fun symbol _ => ?_
  cases symbol with
  | tableInstance it =>
    simp only [SemanticModel.withColumns, TableInstance.columnSymbols, List.map_cons, List.map_map,
      Symbol.numbers]
    exact (hcolumns it.columns).cons_cons _
  | _ => exact List.singleton_sublist.2 (Symbol.id_mem_numbers _)

end Symbol.Distinct

end QuerySemantics
