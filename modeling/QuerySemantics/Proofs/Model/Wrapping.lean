import QuerySemantics.Catalog.Sample
import QuerySemantics.Proofs.Binding.Relocation
import QuerySemantics.Proofs.Binding.Wrapping
import QuerySemantics.Proofs.Draft.Wrapping
import QuerySemantics.Proofs.Model.Main

/-!
# Wrapping a query

Selecting everything from a query, in place of a table or by way of a `WITH`, reports what the query
alone reports, and has the same output.

## Main definitions

* `Draft.Query.model`: the model of the draft of a query.
* `SemanticModel.Wraps`: a model of a query around a query.

## Main results

* `SemanticModel.wraps`: selecting everything from a query changes nothing but places and names.
-/

set_option autoImplicit false

namespace QuerySemantics

open Binding

/-- **The model of a draft** of a query. -/
def Draft.Query.model (query : Draft.Query) (id : Nat) (catalog : Catalog) (options : Options)
    (next : SymbolId) : SemanticModel :=
  ((Analysis.mk ((Draft.Whole.query query).tree id) catalog options).model next).1

namespace SemanticModel

/-- **Wrapping**: the text of the model `outer` holds that of `inner` behind the text `before`. It
reports the same, moved as far, and its output columns have the names and types of the other ones, with
`names` in place of their names if there are any. -/
structure Wraps (outer inner : SemanticModel) (before : String) (names : Option (List String)) :
    Prop where
  text : ∃ after, outer.analysis.tree.text = before ++ inner.analysis.tree.text ++ after
  diagnostics : outer.diagnostics = inner.diagnostics.map (Diagnostic.shift before.utf8ByteSize)
  output : ∃ query query', inner.main? = some (.query query) ∧ outer.main? = some (.query query') ∧
    QueryColumn.shape query'.output = definedShape names (QueryColumn.shape query.output)

/-- The number of output columns of the query that a model is about. -/
def width? (model : SemanticModel) : Option Nat :=
  (model.main?.bind Bound.Node.query?).map (·.output.length)

/-! ## The query alone -/

/-- What binding the query of a unit ends with is what its model says. -/
theorem of_leaves {analysis : Analysis} {info : NodeInfo} {it : Ast.Query} {next : SymbolId}
    {reported : List Diagnostic} {post : Bound.Query → Prop}
    (hroot : analysis.tree.root.piece = .unit ⟨info, some it, none⟩)
    (hcore : ∀ info, it.core ≠ .parenthesized info none)
    (h : Leaves (.root analysis.options analysis.catalog next) (.begun info analysis.catalog next)
      (query it) reported fun it => post it.query) :
    (analysis.model next).1.diagnostics = reported ∧
      ∃ made, (analysis.model next).1.main? = some (.query made) ∧ post made := by
  refine ⟨?_, _, main?_eq_query hroot hcore next, h.2⟩
  rw [SemanticModel.diagnostics, bind_unit hroot]
  exact h.1

/-- An element that stands elsewhere is read as the same query, moved. -/
theorem alike_of_reads {element : Element} {read : Nat → Nat → Ast.Query}
    (h : ∀ index offset, (element.locate index offset).1.piece = .query (read index offset))
    (count offset : Nat) :
    (read 1 0).Alike (Likeness.shift count offset) (read (1 + count) offset) := by
  have hpiece := (element.alike_locate count offset).piece
  rw [h, h] at hpiece
  cases hpiece with
  | query halike => exact halike

/-- **A query bound elsewhere**, in the same scope and with the same free identities: what is reported
is moved, and the output has the same names and types. -/
theorem leaves_shift {count offset : Nat} {read read' : Ast.Query} {env : Env} {before before' : Pass}
    (h : read.Alike (Likeness.shift count offset) read') (hnext : before'.next = before.next)
    (hmembers : before'.members = before.members) (hbefore : before.diagnostics = [])
    (hbefore' : before'.diagnostics = []) :
    Leaves env before' (query read')
      ((query read env before).2.diagnostics.map (Diagnostic.shift offset)) fun it =>
        QueryColumn.shape it.query.output =
          QueryColumn.shape (query read env before).1.query.output := by
  have hdiagnostics : before'.diagnostics = before.diagnostics.map (Diagnostic.shift offset) := by
    rw [hbefore, hbefore']
    rfl
  obtain ⟨hvalue, hshifted⟩ := query_shift h hnext hmembers hdiagnostics
  exact ⟨hshifted.diagnostics, by rw [hvalue]⟩

section

variable (query : Draft.Query) (id id' : Nat) (catalog : Catalog) (options : Options) (next : SymbolId)

/-- **The query alone, and elsewhere**: what its model says is what binding it in any other place of a
tree comes to, if that is where anything is bound first. -/
theorem exists_bound : ∃ (read : Nat → Nat → Ast.Query) (made : Bound.Query),
    (∀ index offset, (query.spaced.locate index offset).1.piece = .query (read index offset)) ∧
    (query.model id catalog options next).main? = some (.query made) ∧
    ∀ count offset before, before.next = next + 1 → before.members = .empty →
      before.diagnostics = [] → Leaves (.root options catalog next) before
        (Binding.query (read (1 + count) offset))
        ((query.model id catalog options next).diagnostics.map (Diagnostic.shift offset)) fun it =>
          QueryColumn.shape it.query.output = QueryColumn.shape made.output := by
  obtain ⟨read, hread, hcore⟩ := query.exists_read
  obtain ⟨own, hroot⟩ := query.unit_reads hread
  let done := Binding.query (read 1 0) (.root options catalog next) (.begun own catalog next)
  obtain ⟨hreported, made, hmain, rfl⟩ : (query.model id catalog options next).diagnostics =
      done.2.diagnostics ∧ ∃ made, (query.model id catalog options next).main? = some (.query made) ∧
        made = done.1.query :=
    of_leaves hroot (hcore 1 0) ⟨rfl, rfl⟩
  refine ⟨read, _, hread, hmain, fun count offset before hnext hmembers hdiagnostics => ?_⟩
  rw [hreported]
  exact leaves_shift (alike_of_reads hread count offset) hnext hmembers rfl hdiagnostics

/-! ## Queries around it -/

variable {query id id' catalog options next}

/-- A query around a query wraps it, if binding it reports and puts out what the other one does. -/
theorem Wraps.of_leaves {outer : Draft.Query} {before : String} {names : Option (List String)}
    {info : NodeInfo} {it : Ast.Query} {made : Bound.Query}
    (hmain : (query.model id catalog options next).main? = some (.query made))
    (hroot : (outer.element.unit.locate 0 0).1.piece = .unit ⟨info, some it, none⟩)
    (hcore : ∀ info, it.core ≠ .parenthesized info none)
    (htext : ∃ after, (Draft.Whole.query outer).text =
      before ++ (Draft.Whole.query query).text ++ after)
    (h : Leaves (.root options catalog next) (.begun info catalog next) (Binding.query it)
      ((query.model id catalog options next).diagnostics.map (Diagnostic.shift before.utf8ByteSize))
      fun it => QueryColumn.shape it.query.output =
        definedShape names (QueryColumn.shape made.output)) :
    (outer.model id' catalog options next).Wraps (query.model id catalog options next) before
      names := by
  obtain ⟨hdiagnostics, made', hmain', hshape⟩ :
      (outer.model id' catalog options next).diagnostics =
        (query.model id catalog options next).diagnostics.map
          (Diagnostic.shift before.utf8ByteSize) ∧
      ∃ made', (outer.model id' catalog options next).main? = some (.query made') ∧
        QueryColumn.shape made'.output = definedShape names (QueryColumn.shape made.output) :=
    SemanticModel.of_leaves hroot hcore h
  exact ⟨htext, hdiagnostics, made, made', hmain, hmain', hshape⟩

/-- A table that a query defines, with as many column names as the query has columns if any. -/
theorem wraps_defined (ident : String) (columns : Option (List String))
    (hcolumns : ∀ names ∈ columns,
      (query.model id catalog options next).width? = some names.length) :
    ((query.defined ident columns).model id' catalog options next).Wraps
      (query.model id catalog options next) (Draft.Query.beforeDefined ident columns)
      (columns.map (List.map Quoted.identifier)) := by
  obtain ⟨read, made, hread, hmain, hbound⟩ := exists_bound query id catalog options next
  obtain ⟨info, outer, definition, token, names, index, inner, clause, star, sources, reference,
    token', hroot, htoken, htoken', hnames, hindex⟩ := query.defined_reads ident columns hread
  refine Wraps.of_leaves hmain hroot (fun _ h => nomatch h) ⟨_, query.text_defined ident columns⟩ ?_
  obtain ⟨count, rfl⟩ := Nat.exists_eq_add_of_le hindex
  have hwidth : (query.model id catalog options next).width? =
      some (QueryColumn.shape made.output).length := by
    rw [width?, hmain, QueryColumn.shape, List.length_map]
    rfl
  have hlength : ∀ it ∈ names, it.idents.length = (QueryColumn.shape made.output).length := by
    intro it hit
    have hidents : it.idents.map Token.text ∈ columns :=
      hnames ▸ Option.mem_map_of_mem (fun names => names.idents.map Token.text) hit
    have heq := (hcolumns _ hidents).symm.trans hwidth
    rwa [Option.some.injEq, List.length_map] at heq
  have hidents : columns.map (List.map Quoted.identifier) =
      names.map fun names => names.idents.map Token.ident := by
    rw [← hnames]
    cases names with
    | none => rfl
    | some names => exact congrArg some (List.map_map ..)
  rw [hidents]
  exact defined_leaves (hbound count _ _ rfl rfl rfl) hlength (htoken'.trans htoken.symm)

/-- A query in place of a table. -/
theorem wraps_derived (label : String) :
    ((query.derived label).model id' catalog options next).Wraps
      (query.model id catalog options next) Draft.Query.beforeDerived none := by
  obtain ⟨read, made, hread, hmain, hbound⟩ := exists_bound query id catalog options next
  obtain ⟨info, inner, clause, star, sources, reference, token, hroot⟩ :=
    query.derived_reads label hread
  refine Wraps.of_leaves hmain hroot (fun _ h => nomatch h) ⟨_, query.text_derived label⟩ ?_
  exact star_leaves (derived_leaves reference token (hbound 5 _ _ rfl rfl rfl))

end

/-- **Wrapping a query changes nothing.** Selecting everything from a query in place of a table, or
from a table that the query defines, reports what the query alone reports, and its output columns have
the same names and types. Column names for the table, as many as the query has columns, replace the
names.

**Proof sketch.** The query is bound in the same scope and with the same free identities in each tree,
and its tree is the same but moved. So the same comes out of it. What is done with it afterwards reports
nothing, and each step passes names and types on. -/
theorem wraps (query : Draft.Query) (label ident : String) (id id' : Nat) (catalog : Catalog)
    (options : Options) (next : SymbolId) :
    let inner := query.model id catalog options next
    ((query.derived label).model id' catalog options next).Wraps inner Draft.Query.beforeDerived
        none ∧
      ((query.defined ident none).model id' catalog options next).Wraps inner
        (Draft.Query.beforeDefined ident none) none ∧
      ∀ columns : List String, inner.width? = some columns.length →
        ((query.defined ident (some columns)).model id' catalog options next).Wraps inner
          (Draft.Query.beforeDefined ident (some columns)) (columns.map Quoted.identifier) := by
  refine ⟨wraps_derived label, wraps_defined ident none nofun, fun columns hcolumns => ?_⟩
  exact wraps_defined ident (some columns) fun names hnames => by
    obtain rfl := Option.some.inj hnames
    exact hcolumns

/-- A query with a column that its table does not have. -/
def missingColumn : Draft.Query :=
  .select false none [.value (.name "Id") none, .value (.name "Missing") none]
    [.byName "Customers" none] none [] none

/-- A query with an unknown column keeps its one diagnostic when it is wrapped. -/
theorem wraps_missingColumn :
    let inner := missingColumn.model 0 (Catalog.sales 0).1 {} 100
    inner.diagnostics.length = 1 ∧ inner.width? = some 2 ∧
      ((missingColumn.defined "c" (some ["a", "b"])).model 1 (Catalog.sales 0).1 {} 100).Wraps inner
        (Draft.Query.beforeDefined "c" (some ["a", "b"])) (some ["a", "b"]) := by
  have hwidth : (missingColumn.model 0 (Catalog.sales 0).1 {} 100).width? =
      some ["a", "b"].length := by decide +kernel
  have hnames : ["a", "b"].map Quoted.identifier = ["a", "b"] := by decide +kernel
  have h := (wraps missingColumn "d" "c" 0 1 (Catalog.sales 0).1 {} 100).2.2 ["a", "b"] hwidth
  rw [hnames] at h
  exact ⟨by decide +kernel, hwidth, h⟩

end SemanticModel

end QuerySemantics
