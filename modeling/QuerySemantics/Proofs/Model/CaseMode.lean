import QuerySemantics.Proofs.Model.OtherCatalog

/-!
# Whether case matters

Names may be compared with regard to case or without. That matters only for names that differ in case: if
no two names of a catalog and a tree do, both ways come to the same.

## Main definitions

* `Catalog.Names`: the names that a catalog gives to something.
* `Analysis.CaseDistinct`: no two names of a catalog and a tree differ in case alone.

## Main results

* `Analysis.model_caseSensitive`: then it makes no difference for a model whether case matters.
-/

set_option autoImplicit false

namespace QuerySemantics

open Binding

/-- **Names of a catalog**: those of its tables and their columns, of its functions, aggregates and
variables, and of all members that its providers give for any type at any time. -/
inductive Catalog.Names (catalog : Catalog) : String → Prop where
  | table {it : SchemaTable} : it ∈ catalog.tables → Names catalog it.name
  | column {it : SchemaTable} {column : Column} : it ∈ catalog.tables → column ∈ it.columns →
      Names catalog column.name
  | function {it : Function} : it ∈ catalog.functions → Names catalog it.name
  | aggregate {it : Aggregate} : it ∈ catalog.aggregates → Names catalog it.name
  | hostVariable {it : Variable} : it ∈ catalog.hostVariables → Names catalog it.name
  | method {type : SqlType} {next : SymbolId} {it : Method} :
      it ∈ (catalog.methods.methods type next).1 → Names catalog it.name
  | property {type : SqlType} {next : SymbolId} {it : Property} :
      it ∈ (catalog.properties.properties type next).1 → Names catalog it.name

/-- The registry without entries has a provider for no type. -/
theorem Registry.lookup?_empty {provider : Type} (type : SqlType) :
    (Registry.empty : Registry provider).lookup? type = none :=
  List.findSome?_eq_none_iff.2 fun _ _ => rfl

namespace Analysis

variable {analysis : Analysis} {name : String}

/-- **Names in play**: those of the catalog and those that identifiers of the tree stand for. -/
def InPlay (analysis : Analysis) (name : String) : Prop :=
  analysis.catalog.Names name ∨ name ∈ analysis.tree.element.names

/-- **Case-distinct**: no two names in play differ in case alone. -/
def CaseDistinct (analysis : Analysis) : Prop :=
  ∀ name other, analysis.InPlay name → analysis.InPlay other →
    Matching.equalIgnoringCase name other = true → name = other

/-- A name that is mentioned selects the same either way, among names that are in play or empty. -/
theorem CaseDistinct.sameChoice (h : analysis.CaseDistinct) (hname : analysis.tree.root.Mentions name) :
    Matching.SameChoice (fun other => analysis.InPlay other ∨ other = "") true false name := by
  refine .inr fun other hother hequal => ?_
  rcases hother with hother | rfl
  · exact h other name hother (.inr (SyntaxTree.mem_names_of_mentions hname)) hequal
  · exact (Matching.eq_empty_of_equalIgnoringCase hequal).symm

/-- A name that is mentioned is looked up in the catalog alike either way. -/
theorem CaseDistinct.catalogsAgree (h : analysis.CaseDistinct) :
    CatalogsAgree analysis.tree.root.Mentions true false analysis.catalog analysis.catalog where
  tables hname := (h.sameChoice hname).select fun _ hit => .inl (.inl (.table hit))
  functions hname := (h.sameChoice hname).select fun _ hit => .inl (.inl (.function hit))
  aggregates hname := (h.sameChoice hname).select fun _ hit => .inl (.inl (.aggregate hit))
  hostVariables hname := (h.sameChoice hname).select fun _ hit => .inl (.inl (.hostVariable hit))
  types _ := rfl

/-- **The pair of a catalog with itself**, once for each way of comparing names, if no two names differ in
case alone. -/
def CaseDistinct.catalogPair (h : analysis.CaseDistinct) (limit : Option Nat) : CatalogPair where
  part := analysis.tree.root
  options := ⟨true, limit⟩
  options' := ⟨false, limit⟩
  catalog := analysis.catalog
  catalog' := analysis.catalog
  Named name := analysis.InPlay name ∨ name = ""
  limit := rfl
  named_of_mentions hname := .inl (.inr (SyntaxTree.mem_names_of_mentions hname))
  named_empty := .inr rfl
  named_column _ htable _ hcolumn := .inl (.inl (.column htable hcolumn))
  named_method _ _ _ hit := .inl (.inl (.method hit))
  named_property _ _ _ hit := .inl (.inl (.property hit))
  choice := h.sameChoice
  catalogs := h.catalogsAgree

/-- **Case matters only for names that differ in case.** If no two names of the catalog and the tree
differ in case alone, then a model that compares names with regard to case and one that does not report
the same, and bind each node to the same.

**Proof sketch.** Names that come up on the way, as those of aliases, of columns of all kinds and of
members, are names of the catalog or the tree again, or the empty name of something without one. Among
them a name that is looked up selects the same either way. -/
theorem model_caseSensitive (analysis : Analysis) (limit : Option Nat) (next : SymbolId)
    (h : analysis.CaseDistinct) :
    let regarding := ((analysis.withOptions ⟨true, limit⟩).model next).1
    let regardless := ((analysis.withOptions ⟨false, limit⟩).model next).1
    regardless.diagnostics = regarding.diagnostics ∧
      ∀ node, regardless.boundNode? node = regarding.boundNode? node := by
  have halike := CatalogPair.answersAlike (a := h.catalogPair limit) rfl rfl rfl next
  exact ⟨halike.diagnostics, halike.boundNode?⟩

/-- The analysis of `SELECT a AS b FROM t`, where the table `t` has a column `a`. -/
def selectedAlias : Analysis :=
  ⟨⟨0, .node .compilationUnit [.node .selectQuery [
    .node .selectClause [.token .selectKeyword "SELECT", .token .whitespace " ",
      .node .expressionSelectColumn [.node .nameExpression [.token .identifier "a"],
        .token .whitespace " ", .node .aliasClause [.token .asKeyword "AS", .token .whitespace " ",
          .token .identifier "b"]]],
    .token .whitespace " ",
    .node .fromClause [.token .fromKeyword "FROM", .token .whitespace " ",
      .node .namedTableReference [.token .identifier "t"]]]]⟩,
    { (Catalog.empty 0).1 with tables := [⟨1, "t", [⟨2, "a", .int32, 0⟩]⟩] }, {}⟩

/-- The names in play are three letters. -/
theorem caseDistinct_selectedAlias : selectedAlias.CaseDistinct := by
  have hnames : ∀ name, selectedAlias.InPlay name → name ∈ ["a", "b", "t"] := by
    rintro name (hname | hname)
    · -- the catalog has one table with one column, and no providers
      cases hname with
      | table hit =>
        cases List.mem_singleton.1 hit
        decide
      | column hit hcolumn =>
        cases List.mem_singleton.1 hit
        cases List.mem_singleton.1 hcolumn
        decide
      | function hit | aggregate hit | hostVariable hit => cases hit
      | @method type next _ hit =>
        change _ ∈ (Registry.empty.methods type next).1 at hit
        rw [Registry.methods, Registry.lookup?_empty] at hit
        cases hit
      | @property type next _ hit =>
        change _ ∈ (Registry.empty.properties type next).1 at hit
        rw [Registry.properties, Registry.lookup?_empty] at hit
        cases hit
    · have hall : ∀ name ∈ selectedAlias.tree.element.names, name ∈ ["a", "b", "t"] := by decide +kernel
      exact hall name hname
  have hdistinct : ∀ name ∈ ["a", "b", "t"], ∀ other ∈ ["a", "b", "t"],
      Matching.equalIgnoringCase name other = true → name = other := by
    decide +kernel
  exact fun name other hname hother => hdistinct name (hnames name hname) other (hnames other hother)

/-- The query binds the same whether case matters or not. -/
theorem model_caseSensitive_selectedAlias : selectedAlias.CaseDistinct ∧
    ((selectedAlias.withOptions ⟨true, none⟩).model 3).1.diagnostics = [] ∧
    ((selectedAlias.withOptions ⟨false, none⟩).model 3).1.diagnostics = [] ∧
    (((selectedAlias.withOptions ⟨false, none⟩).model 3).1.boundNode? ⟨0, 4⟩).isSome = true := by
  have hsame := model_caseSensitive selectedAlias none 3 caseDistinct_selectedAlias
  have hclean : ((selectedAlias.withOptions ⟨true, none⟩).model 3).1.diagnostics = [] := by
    decide +kernel
  have hbound : (((selectedAlias.withOptions ⟨true, none⟩).model 3).1.boundNode? ⟨0, 4⟩).isSome = true := by
    decide +kernel
  refine ⟨caseDistinct_selectedAlias, hclean, hsame.1.trans hclean, ?_⟩
  rw [hsame.2]
  exact hbound

end Analysis

end QuerySemantics
