import Mathlib.Data.List.Basic
import QuerySemantics.Binding.Basic

/-!
# Qualified and unqualified names

An unqualified name is looked for among the columns of all instances of a link at once, a qualified one
among those of one instance. Where the one refers to a column, and the name of its instance to that
instance, the other refers to the same column.

## Main results

* `Matching.select_of_sublist`: what is selected alone is selected alone from fewer entries.
* `Scope.select_of_resolveValue`: a column that is found by its name is found in its instance.
* `Binding.qualified_agrees`: binding a column by its name, and by its name behind that of its instance.
-/

set_option autoImplicit false

namespace QuerySemantics

/-! ## Selecting from fewer entries -/

namespace Matching

variable {α β : Type} {nameOf : α → String} {cased : Bool} {name : String} {items part : List α} {item : α}

/-- The only entry that passes a test is the only one of fewer entries, if it is one of them. -/
theorem filter_of_sublist {test : α → Bool} (hpart : part.Sublist items) (hitem : item ∈ part)
    (h : items.filter test = [item]) : part.filter test = [item] := by
  have htest : test item = true := (List.mem_filter.1 (h ▸ List.mem_singleton_self item)).2
  have hsublist : (part.filter test).Sublist [item] := h ▸ hpart.filter test
  rcases List.sublist_singleton.1 hsublist with hnone | hone
  · exact absurd hitem fun hmem => by
      have := List.mem_filter.2 ⟨hmem, htest⟩
      rw [hnone] at this
      exact List.not_mem_nil this
  · exact hone

/-- **Selecting from fewer entries**: what is selected alone is selected alone, if it is among them. No
entry that is left out matches better. -/
theorem select_of_sublist (hpart : part.Sublist items) (hitem : item ∈ part)
    (h : select cased nameOf name items = [item]) : select cased nameOf name part = [item] := by
  unfold select at h
  split at h
  · rename_i hexact
    have hnone : part.filter (nameOf · == name) = [] :=
      List.sublist_nil.1 (hexact ▸ hpart.filter (nameOf · == name))
    rw [select, hnone]
    cases cased with
    | true => cases h
    | false => exact filter_of_sublist hpart hitem h
  · rw [select, filter_of_sublist hpart hitem h]

/-- Entries are selected by their names alone. -/
theorem select_map (wrap : β → α) (entries : List β) :
    select cased nameOf name (entries.map wrap) =
      (select cased (nameOf ∘ wrap) name entries).map wrap := by
  unfold select
  simp only [List.filter_map, Function.comp_def]
  cases entries.filter (fun entry => nameOf (wrap entry) == name) with
  | cons first rest => rfl
  | nil => cases cased <;> rfl

end Matching

/-! ## Looking up -/

section Lookup

variable {cased : Bool} {name : String} {table : TableInstance} {column : InstanceColumn}

/-- What is found is the only candidate. -/
theorem Resolution.eq_of_ofCandidates {α : Type} {candidates : List α} {it : α}
    (h : ofCandidates candidates = .found it) : candidates = [it] := by
  unfold ofCandidates at h
  split at h <;> cases h
  rfl

/-- The nearest candidates are all those of one link. -/
theorem Scope.exists_of_nearest {α : Type} {candidates : Frame → List α} {links : List Link}
    (h : nearest candidates links ≠ []) :
    ∃ link ∈ links, candidates link.frame = nearest candidates links := by
  induction links with
  | nil => exact absurd rfl h
  | cons link rest ih =>
    rw [nearest] at h ⊢
    split at h
    · obtain ⟨found, hfound, heq⟩ := ih h
      exact ⟨found, List.mem_cons_of_mem _ hfound, heq⟩
    · exact ⟨link, List.mem_cons_self, rfl⟩

/-- **A column that is the only candidate** of a frame is the only one of its instance. -/
theorem Frame.select_of_valuesNamed {frame : Frame}
    (h : frame.valuesNamed cased name = [.instanceColumn table column]) :
    Matching.select cased InstanceColumn.name name table.columns = [column] := by
  cases frame with
  | commonTables defined => cases h
  | queryColumns columns =>
    obtain ⟨found, -, hfound⟩ := List.map_eq_singleton_iff.1 h
    cases hfound
  | tables instances =>
    rw [valuesNamed] at h
    split at h
    · obtain ⟨found, -, hfound⟩ := List.map_eq_singleton_iff.1 h
      cases hfound
    · have hmem : .instanceColumn table column ∈ instances.flatMap TableInstance.columnSymbols :=
        Matching.mem_of_mem_select (h ▸ List.mem_singleton_self _)
      obtain ⟨owner, howner, hcolumn⟩ := List.mem_flatMap.1 hmem
      obtain ⟨_, -, heq⟩ := List.mem_map.1 hcolumn
      cases heq
      have hpart : table.columnSymbols.Sublist (instances.flatMap TableInstance.columnSymbols) :=
        List.sublist_flatten_of_mem (List.mem_map_of_mem howner)
      have hselect := Matching.select_of_sublist hpart hcolumn h
      rw [TableInstance.columnSymbols, Matching.select_map] at hselect
      obtain ⟨found, hfound, heq⟩ := List.map_eq_singleton_iff.1 hselect
      cases heq
      exact hfound

/-- **A column that a name refers to** is the one that it selects from the columns of the instance. -/
theorem Scope.select_of_resolveValue {scope : Scope}
    (h : scope.resolveValue cased name = .found (.instanceColumn table column)) :
    Matching.select cased InstanceColumn.name name table.columns = [column] := by
  have hnearest := Resolution.eq_of_ofCandidates h
  obtain ⟨link, -, hlink⟩ := exists_of_nearest (hnearest ▸ List.cons_ne_nil _ _)
  exact Frame.select_of_valuesNamed (hlink.trans hnearest)

end Lookup

/-! ## Binding -/

namespace Binding

variable {env : Env} {table : TableInstance} {column : InstanceColumn}

/-- A name that refers to a value is bound to it. -/
theorem expr_name {symbol : Symbol} {token : Token}
    (h : env.scope.resolveValue env.options.caseSensitive token.ident = .found symbol)
    (info : NodeInfo) (pass : Pass) : expr (.name info (some token)) env pass =
      (.name symbol, { pass with records := ⟨info, .expr (.name symbol), env.scope⟩ :: pass.records }) := by
  have hname : name (some token) env pass = (.name symbol, pass) := by
    unfold name
    simp only [currentScope, caseSensitive, Bind.bind, ReaderT.bind, StateT.bind, h]
    rfl
  rw [expr]
  change recordExpr info (name (some token) env pass).1 env (name (some token) env pass).2 = _
  rw [hname]
  rfl

/-- A name selects the column of an instance that has one column of that name. -/
theorem columnOf_of_select {token : Token}
    (h : Matching.select env.options.caseSensitive InstanceColumn.name token.ident table.columns =
      [column]) (pass : Pass) : columnOf table token env pass = (.instanceColumn table column, pass) := by
  unfold columnOf
  simp only [caseSensitive, Bind.bind, ReaderT.bind, StateT.bind, h]
  rfl

/-- A name behind that of an instance, which has one column of that name, is bound to the column. -/
theorem expr_qualified {token member : Token}
    (htable : env.scope.resolveInstance env.options.caseSensitive token.ident = .found table)
    (hcolumn : Matching.select env.options.caseSensitive InstanceColumn.name member.ident table.columns =
      [column]) (info outer : NodeInfo) (pass : Pass) :
    expr (.property outer (some (.name info (some token))) (some member)) env pass =
      (.name (.instanceColumn table column), { pass with
        records := ⟨outer, .expr (.name (.instanceColumn table column)), env.scope⟩ ::
          ⟨info, .expr (.name (.tableInstance table)), env.scope⟩ :: pass.records }) := by
  have hdecided : qualified info token member env pass =
      (some (.name (.instanceColumn table column)), { pass with
        records := ⟨info, .expr (.name (.tableInstance table)), env.scope⟩ :: pass.records }) := by
    unfold qualified
    simp only [currentScope, caseSensitive, Bind.bind, ReaderT.bind, StateT.bind, htable,
      columnOf_of_select hcolumn]
    rfl
  rw [expr, qualifier?]
  simp only [Bind.bind, ReaderT.bind, StateT.bind, hdecided]
  rfl

/-- **Qualified and unqualified names agree.** In any scope, if a name refers to a column and the name of
its instance to that instance, then binding the name, and binding it behind the name of the instance, both
give the column. Either way nothing is reported, and nothing else happens than that what the nodes were
bound to is recorded.

**Proof sketch.** The name is the only one of its link, or else of the link up to case, that matches. So it
is the only one of its instance, where nothing matches better. -/
theorem qualified_agrees {name : String}
    (hvalue : env.scope.resolveValue env.options.caseSensitive name = .found (.instanceColumn table column))
    (htable : env.scope.resolveInstance env.options.caseSensitive table.name = .found table)
    {bare qualifier member : Token} (hbare : bare.ident = name) (hqualifier : qualifier.ident = table.name)
    (hmember : member.ident = name) (info inner outer : NodeInfo) (pass pass' : Pass) :
    let bound : Bound.Expr := .name (.instanceColumn table column)
    expr (.name info (some bare)) env pass =
        (bound, { pass with records := ⟨info, .expr bound, env.scope⟩ :: pass.records }) ∧
      expr (.property outer (some (.name inner (some qualifier))) (some member)) env pass' =
        (bound, { pass' with records := ⟨outer, .expr bound, env.scope⟩ ::
          ⟨inner, .expr (.name (.tableInstance table)), env.scope⟩ :: pass'.records }) := by
  constructor
  · rw [← hbare] at hvalue
    exact expr_name hvalue info pass
  · have hcolumn := Scope.select_of_resolveValue hvalue
    rw [← hmember] at hcolumn
    rw [← hqualifier] at htable
    exact expr_qualified htable hcolumn inner outer pass'

/-- An instance called `o` of a table with the columns `ID` and `Total`. -/
def ordersInstance (next : SymbolId) : TableInstance :=
  (TableInstance.create "o"
    (.schema ⟨1, "Orders", [⟨2, "ID", .int32, 0⟩, ⟨3, "Total", .decimal, 1⟩]⟩) next).1

/-- The column `ID` of such an instance. -/
def ordersColumn (next : SymbolId) : InstanceColumn :=
  ⟨next + 1, ⟨2, "ID", .int32, 0⟩, ⟨next + 2, "o.ID", .int32⟩⟩

/-- The scope of an `ORDER BY` behind a subselect from `Orders o` that stands in a query from `Orders o`,
in which the case of names does not matter. -/
def orderedEnv : Env :=
  ⟨{}, ⟨0, default, [⟨30, .queryColumns [⟨31, "Total", ⟨32, "Total", .decimal⟩⟩]⟩,
    ⟨20, .tables [ordersInstance 21]⟩, ⟨10, .tables [ordersInstance 11]⟩]⟩⟩

/-- `id` and `[o]."id"` are both bound to the column of the inner instance. -/
theorem qualified_agrees_orders :
    (expr (.name default (some ⟨.identifier, "id", 0⟩)) orderedEnv default).1.symbol?.map Symbol.id =
        some 22 ∧
      (expr (.property default (some (.name default (some ⟨.identifier, "[o]", 0⟩)))
        (some ⟨.identifier, "\"id\"", 4⟩)) orderedEnv default).1.symbol?.map Symbol.id = some 22 := by
  have hvalue : orderedEnv.scope.resolveValue orderedEnv.options.caseSensitive "id" =
      .found (.instanceColumn (ordersInstance 21) (ordersColumn 21)) := by rfl
  have htable : orderedEnv.scope.resolveInstance orderedEnv.options.caseSensitive (ordersInstance 21).name =
      .found (ordersInstance 21) := by rfl
  have hbare : (Token.mk .identifier "id" 0).ident = "id" := by decide +kernel
  have hqualifier : (Token.mk .identifier "[o]" 0).ident = (ordersInstance 21).name := by decide +kernel
  have hmember : (Token.mk .identifier "\"id\"" 4).ident = "id" := by decide +kernel
  obtain ⟨hname, hqualified⟩ := qualified_agrees hvalue htable hbare hqualifier hmember default default
    default default default
  rw [hname, hqualified]
  exact ⟨rfl, rfl⟩

end Binding

end QuerySemantics
