import QuerySemantics.Binding.Basic
import QuerySemantics.Proofs.Scope.Twin

/-!
# Twins of bound trees

Of a bound expression other rules look at its type only, and of a bound query at its output. So bound
trees are twins if they agree in what is shown of them: their kinds, their types, and the symbols that
they refer to, declare or put out.

## Main definitions

* `Bound.Expr.Twins`, `Bound.Query.Twins`, `Bound.Node.Twins`: bound trees that are twins.
* `Supply.Alongside`: supply computations that give twins.

## Main results

* `Bound.Query.twin_select`: a `SELECT` of twins.
* `Supply.Alongside.bind`, `Supply.Alongside.fresh`: the rules for computations that give twins.
* `Supply.Alongside.tableInstance` and its fellows: new symbols are twins.
-/

set_option autoImplicit false

namespace QuerySemantics

variable (typed : TypedCatalog) (pairing : Pairing)

namespace Bound

/-! ## Bound trees -/

/-- **Expressions that are twins**: of one kind and type, about symbols that are twins. -/
structure Expr.Twins (it other : Expr) : Prop where
  kind : other.kind = it.kind
  type : Twin typed pairing it.type other.type
  symbol : Twin typed pairing it.symbol? other.symbol?

/-- Expressions may be twins. -/
instance : Twinned Expr :=
  ⟨Expr.Twins, fun hle h => ⟨h.kind, h.type, Twinned.mono hle h.symbol⟩⟩

/-- Labels of a `CASE` are twins if their conditions and their results are. -/
structure CaseLabel.Twins (it other : CaseLabel) : Prop where
  condition : Twin typed pairing it.condition other.condition
  result : Twin typed pairing it.result other.result

/-- Labels of a `CASE` may be twins. -/
instance : Twinned CaseLabel :=
  ⟨CaseLabel.Twins, fun hle h => ⟨Twinned.mono hle h.condition, Twinned.mono hle h.result⟩⟩

/-- **Table references that are twins** introduce instances that are. -/
structure TableRef.Twins (it other : TableRef) : Prop where
  kind : other.kind = it.kind
  instances : Twin typed pairing it.instances other.instances

/-- Table references may be twins. -/
instance : Twinned TableRef :=
  ⟨TableRef.Twins, fun hle h => ⟨h.kind, Twinned.mono hle h.instances⟩⟩

/-- Columns that a wildcard stands for are twins if their instances, and what goes in and comes out,
are. -/
structure ExpandedColumn.Twins (it other : ExpandedColumn) : Prop where
  owner : Twin typed pairing it.owner other.owner
  input : Twin typed pairing it.input other.input
  output : Twin typed pairing it.output other.output

/-- Columns that a wildcard stands for may be twins. -/
instance : Twinned ExpandedColumn :=
  ⟨ExpandedColumn.Twins, fun hle h =>
    ⟨Twinned.mono hle h.owner, Twinned.mono hle h.input, Twinned.mono hle h.output⟩⟩

/-- Entries of select lists that are twins. -/
inductive SelectItem.Twins : SelectItem → SelectItem → Prop
  | column {value value' : Expr} {it other : QueryColumn} (hvalue : Twin typed pairing value value')
      (h : Twin typed pairing it other) : SelectItem.Twins (.column value it) (.column value' other)
  | wildcard {table table' : Option TableInstance} {its others : List ExpandedColumn}
      (htable : Twin typed pairing table table') (h : Twin typed pairing its others) :
      SelectItem.Twins (.wildcard table its) (.wildcard table' others)

/-- Entries of a select list may be twins. -/
instance : Twinned SelectItem where
  Twin := SelectItem.Twins
  mono hle h := by
    cases h with
    | column hvalue h => exact .column (Twinned.mono hle hvalue) (Twinned.mono hle h)
    | wildcard htable h => exact .wildcard (Twinned.mono hle htable) (Twinned.mono hle h)

/-- **Queries that are twins** put out columns that are. -/
structure Query.Twins (it other : Query) : Prop where
  kind : other.kind = it.kind
  output : Twin typed pairing it.output other.output

/-- Queries may be twins. -/
instance : Twinned Query :=
  ⟨Query.Twins, fun hle h => ⟨h.kind, Twinned.mono hle h.output⟩⟩

/-- Nothing is asked of the keys of an `ORDER BY`: they add no symbols. -/
instance : Twinned OrderKey := ⟨fun _ _ _ _ => True, fun _ h => h⟩

/-- Definitions are twins if the common tables that they declare are. -/
instance : Twinned Definition :=
  ⟨fun typed pairing it other => Twin typed pairing it.symbol other.symbol, fun hle => Twinned.mono hle⟩

/-- **Nodes that are twins**: of one kind and type, about symbols that are twins, and with declared
symbols and output columns that are. -/
structure Node.Twins (it other : Node) : Prop where
  kind : other.kind = it.kind
  expr : Twin typed pairing it.expr? other.expr?
  declared : Twin typed pairing it.declared? other.declared?
  query : Twin typed pairing it.query? other.query?

/-- Bound nodes may be twins. -/
instance : Twinned Node :=
  ⟨Node.Twins, fun hle h => ⟨h.kind, Twinned.mono hle h.expr, Twinned.mono hle h.declared,
    Twinned.mono hle h.query⟩⟩

variable {typed pairing}

/-! ## Expressions and tables -/

/-- References to twins. -/
theorem Expr.Twins.name {it other : Symbol} (h : Twin typed pairing it other) :
    Expr.Twins typed pairing (.name it) (.name other) :=
  ⟨rfl, Symbol.Twins.type h, .some h⟩

/-- Named tables are twins if their instances are. -/
theorem TableRef.Twins.named {it other : TableInstance} (h : Twin typed pairing it other) :
    TableRef.Twins typed pairing (.named it) (.named other) :=
  ⟨rfl, .cons h .nil⟩

/-! ## Nodes -/

/-- Nodes with expressions that are twins are twins. -/
theorem Node.twin_expr {it other : Expr} (h : Twin typed pairing it other) :
    Twin typed pairing (Node.expr it) (.expr other) :=
  ⟨Expr.Twins.kind h, .some h, .none, .none⟩

/-- Nodes with queries that are twins are twins. -/
theorem Node.twin_query {it other : Query} (h : Twin typed pairing it other) :
    Twin typed pairing (Node.query it) (.query other) :=
  ⟨Query.Twins.kind h, .none, .none, .some h⟩

/-- Nodes with labels of a `CASE` are twins in any case: such a node has neither type nor symbol. -/
theorem Node.twin_caseLabel (it other : CaseLabel) :
    Twin typed pairing (Node.caseLabel it) (.caseLabel other) :=
  ⟨rfl, .none, .none, .none⟩

/-- Nodes with definitions that are twins are twins. -/
theorem Node.twin_definition {it other : Definition} (h : Twin typed pairing it other) :
    Twin typed pairing (Node.definition it) (.definition other) :=
  ⟨rfl, .none, .some (.commonTable h), .none⟩

/-- Nodes with entries of a select list that are twins are twins. -/
theorem Node.twin_selectItem {it other : SelectItem} (h : Twin typed pairing it other) :
    Twin typed pairing (Node.selectItem it) (.selectItem other) := by
  cases h with
  | column hvalue h => exact ⟨rfl, .none, .some (.queryColumn h), .none⟩
  | wildcard htable h =>
    refine ⟨rfl, .none, ?_, .none⟩
    cases htable with
    | none => exact .none
    | some htable => exact .some (.tableInstance htable)

/-- Nodes with table references that are twins are twins. -/
theorem Node.twin_table {it other : TableRef} (h : Twin typed pairing it other) :
    Twin typed pairing (Node.table it) (.table other) := by
  have hkind := TableRef.Twins.kind h
  have hinstances := TableRef.Twins.instances h
  refine ⟨hkind, .none, ?_, .none⟩
  cases it <;> cases other <;> try cases hkind
  · cases hinstances with
    | cons h _ => exact .some (.tableInstance h)
  · cases hinstances with
    | cons h _ => exact .some (.tableInstance h)
  · exact .none

/-! ## Queries -/

/-- Entries that are twins put out columns that are. -/
theorem SelectItem.twin_output {it other : SelectItem} (h : Twin typed pairing it other) :
    Twin typed pairing it.output other.output := by
  cases h with
  | column _ h => exact .cons h .nil
  | wildcard _ h => exact List.rel_map (fun {_ _} h => ExpandedColumn.Twins.output h) h

/-- **A `SELECT` of twins.** -/
theorem Query.twin_select {distinct : Bool} {tables tables' : List TableRef}
    {filter filter' : Option Expr} {grouping grouping' : List Expr} {having having' : Option Expr}
    {items items' : List SelectItem} (h : Twin typed pairing items items') :
    Twin typed pairing (Query.select distinct tables filter grouping having items)
      (.select distinct tables' filter' grouping' having' items') :=
  ⟨rfl, List.rel_flatMap h fun {_ _} h => SelectItem.twin_output h⟩

/-- A query that is not there puts out nothing, in both passes. -/
theorem Query.twin_empty : Twin typed pairing Query.empty Query.empty :=
  ⟨rfl, .nil⟩

end Bound

/-! ## Supplies -/

/-- **Alongside** each other, supply computations give twins. -/
def Supply.Alongside {α : Type} [Twinned α] (typed : TypedCatalog) (pairing : Pairing)
    (taken taken' : Supply α) : Prop :=
  ∀ next next', pairing.Bounded next next' → ∃ pairing', pairing ≤ pairing' ∧
    Twin typed pairing' (taken next).1 (taken' next').1 ∧
      pairing'.Bounded (taken next).2 (taken' next').2

namespace Supply.Alongside

variable {typed pairing} {α β : Type} [Twinned α] [Twinned β]

/-- Twins are made alongside if nothing is taken for them. -/
theorem pure {it other : α} (h : Twin typed pairing it other) :
    Alongside typed pairing (Pure.pure it) (Pure.pure other) :=
  fun _ _ hbounded => ⟨pairing, le_rfl, h, hbounded⟩

/-- **Sequence** of what is made alongside: the rest has the pairs that the first part adds. -/
theorem bind {first first' : Supply α} {rest rest' : α → Supply β}
    (hfirst : Alongside typed pairing first first')
    (hrest : ∀ pairing', pairing ≤ pairing' → ∀ it other, Twin typed pairing' it other →
      Alongside typed pairing' (rest it) (rest' other)) :
    Alongside typed pairing (first >>= rest) (first' >>= rest') := by
  intro next next' hbounded
  obtain ⟨middle, hle, htwin, hbounded⟩ := hfirst next next' hbounded
  obtain ⟨last, hle', htwin, hbounded⟩ := hrest middle hle _ _ htwin _ _ hbounded
  exact ⟨last, hle.trans hle', htwin, hbounded⟩

/-- **Fresh identities** go together. -/
theorem fresh : Alongside typed pairing Supply.fresh Supply.fresh := by
  intro next next' hbounded
  refine ⟨fun id id' => pairing id id' ∨ id = next ∧ id' = next', fun _ _ => .inl, .inr ⟨rfl, rfl⟩,
    fun id id' h => ?_, fun id id' other other' h h' => ?_⟩
  · rcases h with h | ⟨rfl, rfl⟩
    · exact ⟨Nat.lt_succ_of_lt (hbounded.below _ _ h).1, Nat.lt_succ_of_lt (hbounded.below _ _ h).2⟩
    · exact ⟨Nat.lt_succ_self _, Nat.lt_succ_self _⟩
  · rcases h with h | ⟨rfl, rfl⟩ <;> rcases h' with h' | ⟨rfl, rfl⟩
    · exact hbounded.one _ _ _ _ h h'
    · have hne := (hbounded.below _ _ h).1.ne
      have hne' := (hbounded.below _ _ h).2.ne
      exact ⟨fun heq => absurd heq hne, fun heq => absurd heq hne'⟩
    · have hne := (hbounded.below _ _ h').1.ne'
      have hne' := (hbounded.below _ _ h').2.ne'
      exact ⟨fun heq => absurd heq hne, fun heq => absurd heq hne'⟩
    · exact ⟨fun _ => rfl, fun _ => rfl⟩

/-- A new link in front of twins. -/
theorem child {scope scope' : Scope} {frame frame' : Frame} (hscope : Twin typed pairing scope scope')
    (hframe : Twin typed pairing frame frame') :
    Alongside typed pairing (scope.child frame) (scope'.child frame') := by
  have hscope : Scope.Twins typed pairing scope scope' := hscope
  exact fresh.bind fun _ hle _ _ hid => .pure
    ⟨hscope.catalog, hscope.catalog',
      .cons ⟨hid, Twinned.mono hle hframe⟩ (Twinned.mono hle hscope.links)⟩

/-! New symbols are twins. -/

/-- Columns of a shape are made alongside, as the ordinals go on. -/
theorem columnsFrom {shape : List (String × SqlType)}
    (hshape : ∀ entry ∈ shape, typed.Settled entry.2) (ordinal : Nat) :
    Alongside typed pairing (Column.listFrom ordinal shape) (Column.listFrom ordinal shape) := by
  induction shape generalizing ordinal pairing with
  | nil => exact .pure .nil
  | cons entry rest ih =>
    obtain ⟨hentry, hrest⟩ := List.forall_mem_cons.1 hshape
    exact fresh.bind fun _ _ _ _ _ => (ih hrest (ordinal + 1)).bind fun _ _ _ _ hcolumns =>
      .pure (.cons ⟨rfl, ⟨rfl, hentry⟩, rfl⟩ hcolumns)

/-- Derived tables of one shape are made alongside. -/
theorem derivedTable (name : String) {shape : List (String × SqlType)}
    (hshape : ∀ entry ∈ shape, typed.Settled entry.2) :
    Alongside typed pairing (DerivedTable.create name shape) (DerivedTable.create name shape) :=
  fresh.bind fun _ _ _ _ hid => (columnsFrom hshape 0).bind fun _ hle _ _ hcolumns =>
    .pure ⟨Twinned.mono hle hid, rfl, hcolumns⟩

/-- Common tables of one shape are made alongside. -/
theorem commonTable (name : String) (kind : Bound.NodeKind) {shape : List (String × SqlType)}
    {output output' : List QueryColumn} (hshape : ∀ entry ∈ shape, typed.Settled entry.2)
    (houtput : Twin typed pairing output output') :
    Alongside typed pairing (CommonTable.create name shape kind output)
      (CommonTable.create name shape kind output') :=
  fresh.bind fun _ hle _ _ hid => (columnsFrom hshape 0).bind fun _ hle' _ _ hcolumns =>
    .pure ⟨Twinned.mono hle' hid, rfl, hcolumns, rfl, Twinned.mono (hle.trans hle') houtput⟩

/-- The columns of instances are made alongside. -/
theorem instanceColumns (name : String) {columns columns' : List Column}
    (h : Twin typed pairing columns columns') :
    Alongside typed pairing (TableInstance.createColumns name columns)
      (TableInstance.createColumns name columns') := by
  induction columns generalizing columns' pairing with
  | nil =>
    cases h
    exact .pure .nil
  | cons column rest ih =>
    cases h with
    | @cons _ column' _ rest' h hrest =>
      have h : Column.Twins typed pairing column column' := h
      refine fresh.bind fun _ hle _ _ hid => fresh.bind fun _ hle' _ _ hslot => ?_
      refine (ih (Twinned.mono (hle.trans hle') hrest)).bind fun _ hle'' _ _ hcolumns => .pure (.cons ?_ ?_)
      · exact ⟨Twinned.mono (hle'.trans hle'') hid,
          Twinned.mono ((hle.trans hle').trans hle'') h,
          ⟨Twinned.mono hle'' hslot, by rw [h.name], h.type⟩⟩
      · exact hcolumns

/-- Instances of tables that are twins are made alongside. -/
theorem tableInstance (name : String) {source source' : TableSource}
    (h : Twin typed pairing source source') :
    Alongside typed pairing (TableInstance.create name source) (TableInstance.create name source') :=
  fresh.bind fun _ hle _ _ hid =>
    (instanceColumns name (TableSource.Twins.columns (Twinned.mono hle h))).bind
      fun _ hle' _ _ hcolumns => .pure
        ⟨Twinned.mono hle' hid, rfl, Twinned.mono (hle.trans hle') h, hcolumns⟩

/-- Output columns of one name and type are made alongside. -/
theorem queryColumn (name : String) {type type' : SqlType} (h : Twin typed pairing type type') :
    Alongside typed pairing (QueryColumn.create name type) (QueryColumn.create name type') :=
  fresh.bind fun _ _ _ _ hslot => fresh.bind fun _ hle _ _ hid =>
    .pure ⟨hid, rfl, ⟨Twinned.mono hle hslot, rfl, h⟩⟩

/-- Copies of columns that are twins are made alongside. -/
theorem copyColumns {columns columns' : List QueryColumn} (h : Twin typed pairing columns columns') :
    Alongside typed pairing (Binding.copyColumns columns) (Binding.copyColumns columns') := by
  induction columns generalizing columns' pairing with
  | nil =>
    cases h
    exact .pure .nil
  | cons column rest ih =>
    cases h with
    | @cons _ column' _ rest' h hrest =>
      have h : QueryColumn.Twins typed pairing column column' := h
      rw [Binding.copyColumns, Binding.copyColumns, h.name]
      exact (queryColumn _ h.type).bind fun _ hle _ _ hcopy =>
        (ih (Twinned.mono hle hrest)).bind fun _ hle' _ _ hcopies =>
          .pure (.cons (Twinned.mono hle' hcopy) hcopies)

/-- What a wildcard stands for is made alongside, column by column. -/
theorem expandColumns {owner owner' : TableInstance} {columns columns' : List InstanceColumn}
    (howner : Twin typed pairing owner owner') (h : Twin typed pairing columns columns') :
    Alongside typed pairing (Binding.expandColumns owner columns)
      (Binding.expandColumns owner' columns') := by
  induction columns generalizing columns' pairing with
  | nil =>
    cases h
    exact .pure .nil
  | cons column rest ih =>
    cases h with
    | @cons _ column' _ rest' h hrest =>
      have h : InstanceColumn.Twins typed pairing column column' := h
      rw [Binding.expandColumns, Binding.expandColumns, h.name]
      refine (queryColumn _ h.type).bind fun _ hle _ _ houtput => ?_
      refine (ih (Twinned.mono hle howner) (Twinned.mono hle hrest)).bind fun _ hle' _ _ hcolumns => ?_
      exact .pure (.cons ⟨Twinned.mono (hle.trans hle') howner, Twinned.mono (hle.trans hle') h,
        Twinned.mono hle' houtput⟩ hcolumns)

/-- What a wildcard stands for is made alongside, instance by instance. -/
theorem expand {its others : List TableInstance} (h : Twin typed pairing its others) :
    Alongside typed pairing (Binding.expand its) (Binding.expand others) := by
  induction its generalizing others pairing with
  | nil =>
    cases h
    exact .pure .nil
  | cons table rest ih =>
    cases h with
    | @cons _ table' _ rest' h hrest =>
      rw [Binding.expand, Binding.expand]
      exact (expandColumns h (TableInstance.Twins.columns h)).bind fun _ hle _ _ hcolumns =>
        (ih (Twinned.mono hle hrest)).bind fun _ hle' _ _ hothers =>
          .pure (List.rel_append (Twinned.mono hle' hcolumns) hothers)

end Supply.Alongside

end QuerySemantics
