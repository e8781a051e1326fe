import QuerySemantics.Proofs.Model.OtherCatalog

/-!
# Entries that no query mentions

A catalog may declare more than a query mentions. Tables, functions, aggregates, variables and host types
that no identifier of a tree stands for have no effect on it, wherever in the lists of the catalog they
stand.

## Main definitions

* `SyntaxTree.Unmentioned`: names that no identifier of a tree stands for, whatever the case.
* `Catalog.Inserted`: a catalog with further entries.

## Main results

* `Analysis.model_inserted`: unmentioned entries change no diagnostic and no bound node.
-/

set_option autoImplicit false

namespace QuerySemantics

open Binding

/-- **Unmentioned**: the name differs, and not in case alone, from what each identifier of the tree stands
for. -/
def SyntaxTree.Unmentioned (tree : SyntaxTree) (name : String) : Prop :=
  ∀ mentioned ∈ tree.element.names, Matching.equalIgnoringCase name mentioned = false

/-- The identifiers of the tree are compared with the name. -/
instance (tree : SyntaxTree) (name : String) : Decidable (tree.Unmentioned name) :=
  inferInstanceAs (Decidable (∀ mentioned ∈ tree.element.names, _ = false))

/-- **Further entries** at any places of the lists of a catalog, whose names are as told. The members of
types come from the same providers. -/
structure Catalog.Inserted (added : String → Prop) (catalog more : Catalog) : Prop where
  tables : Matching.Inserted (fun it => added it.name) catalog.tables more.tables
  functions : Matching.Inserted (fun it => added it.name) catalog.functions more.functions
  aggregates : Matching.Inserted (fun it => added it.name) catalog.aggregates more.aggregates
  hostVariables : Matching.Inserted (fun it => added it.name) catalog.hostVariables more.hostVariables
  hostTypes : Matching.Inserted (fun it => added it.name) catalog.hostTypes more.hostTypes
  methods : more.methods = catalog.methods
  properties : more.properties = catalog.properties

namespace Catalog.Inserted

variable {tree : SyntaxTree} {catalog more : Catalog} {name : String}

/-- An unmentioned entry is not selected by a name that is mentioned. -/
theorem select_eq {α : Type} {nameOf : α → String} {items others : List α} (cased : Bool)
    (h : Matching.Inserted (fun it => tree.Unmentioned (nameOf it)) items others)
    (hname : name ∈ tree.element.names) :
    Matching.select cased nameOf name others = Matching.select cased nameOf name items :=
  Matching.select_inserted cased (h.imp fun _ hadded => hadded name hname)

/-- An unmentioned host type is not denoted by a name that is mentioned. -/
theorem resolveType?_eq (h : Inserted tree.Unmentioned catalog more)
    (hname : name ∈ tree.element.names) : more.resolveType? name = catalog.resolveType? name := by
  have hdiffer : ∀ host : HostType, tree.Unmentioned host.name →
      Matching.equalIgnoringAsciiCase host.name name = false := by
    intro host hadded
    by_contra hequal
    have hsame := Matching.equalIgnoringCase_of_ascii (Bool.not_eq_false _ ▸ hequal)
    rw [hadded name hname] at hsame
    cases hsame
  unfold resolveType?
  rw [(h.hostTypes.imp hdiffer).find?_eq]

/-- **A catalog with more entries**: names that the tree mentions are looked up alike. -/
theorem catalogsAgree (h : Inserted tree.Unmentioned catalog more) (cased : Bool) :
    CatalogsAgree tree.root.Mentions cased cased catalog more where
  tables hname := select_eq _ h.tables (SyntaxTree.mem_names_of_mentions hname)
  functions hname := select_eq _ h.functions (SyntaxTree.mem_names_of_mentions hname)
  aggregates hname := select_eq _ h.aggregates (SyntaxTree.mem_names_of_mentions hname)
  hostVariables hname := select_eq _ h.hostVariables (SyntaxTree.mem_names_of_mentions hname)
  types hname := h.resolveType?_eq (SyntaxTree.mem_names_of_mentions hname)

end Catalog.Inserted

namespace Analysis

/-- **Unmentioned entries have no effect.** With tables, functions, aggregates, variables and host types
inserted at any places of the catalog, whose names no identifier of the tree stands for, the same is
reported at the same places, and each node is bound to the same.

**Proof sketch.** All names that binding looks up in the catalog are those of identifiers. Neither way of
comparing names selects an entry with another name, and host types are compared by a way that tells more
names apart. -/
theorem model_inserted (analysis : Analysis) (next : SymbolId) {more : Catalog}
    (h : analysis.catalog.Inserted analysis.tree.Unmentioned more) :
    let model := (analysis.model next).1
    let other := ((analysis.withCatalog more).model next).1
    other.diagnostics = model.diagnostics ∧ ∀ node, other.boundNode? node = model.boundNode? node := by
  have halike := CatalogPair.answersAlike
    (a := .ofCatalogs analysis.tree.root analysis.options (h.catalogsAgree _)) rfl h.methods h.properties next
  exact ⟨halike.diagnostics, halike.boundNode?⟩

/-- The analysis of `SELECT x, NOW() FROM t` against a catalog with a table and a function. -/
def selectedNow : Analysis :=
  ⟨⟨0, .node .compilationUnit [.node .selectQuery [
    .node .selectClause [.token .selectKeyword "SELECT", .token .whitespace " ",
      .node .expressionSelectColumn [.node .nameExpression [.token .identifier "x"]],
      .token .comma ",", .token .whitespace " ",
      .node .expressionSelectColumn [.node .functionInvocationExpression [.token .identifier "NOW",
        .node .argumentList [.token .openParen "(", .token .closeParen ")"]]]],
    .token .whitespace " ",
    .node .fromClause [.token .fromKeyword "FROM", .token .whitespace " ",
      .node .namedTableReference [.token .identifier "t"]]]]⟩,
    { (Catalog.empty 0).1 with
      tables := [⟨1, "t", [⟨2, "x", .int32, 0⟩]⟩]
      functions := [⟨3, "NOW", [], .dateTime⟩] }, {}⟩

/-- The same catalog with a table in front, a function behind and the host type of points. -/
def selectedNowMore : Catalog :=
  { selectedNow.catalog with
    tables := ⟨4, "archive", [⟨5, "x", .string, 0⟩]⟩ :: selectedNow.catalog.tables
    functions := selectedNow.catalog.functions ++ [⟨6, "LEN", [], .int32⟩]
    hostTypes := [⟨"Point", []⟩] }

/-- A table, a function and a host type that the query does not mention change nothing: the name `x` is
still bound to the column of `t`. -/
theorem model_inserted_selectedNow :
    selectedNow.catalog.Inserted selectedNow.tree.Unmentioned selectedNowMore ∧
      (selectedNow.model 7).1.diagnostics = [] ∧
      (((selectedNow.withCatalog selectedNowMore).model 7).1.boundNode? ⟨0, 4⟩).isSome = true ∧
      ((selectedNow.withCatalog selectedNowMore).model 7).1.diagnostics = [] := by
  have hinserted : selectedNow.catalog.Inserted selectedNow.tree.Unmentioned selectedNowMore := {
    tables := .insert (by decide +kernel) (.refl _)
    functions := .keep _ (.insert (by decide +kernel) .nil)
    aggregates := .nil
    hostVariables := .nil
    hostTypes := .insert (by decide +kernel) .nil
    methods := rfl
    properties := rfl }
  have hsame := model_inserted selectedNow 7 hinserted
  have hclean : (selectedNow.model 7).1.diagnostics = [] := by decide +kernel
  have hbound : ((selectedNow.model 7).1.boundNode? ⟨0, 4⟩).isSome = true := by decide +kernel
  refine ⟨hinserted, hclean, ?_, hsame.1.trans hclean⟩
  rw [hsame.2]
  exact hbound

end Analysis

end QuerySemantics
