import QuerySemantics.Model.Basic
import QuerySemantics.Proofs.Binding.OtherCatalogWalk

/-!
# Models over two catalogs

Models of one tree, against a pair of catalogs that treat its names alike, give the same answers about it.

## Main definitions

* `SemanticModel.AnswersAlike`: a model that gives the same answers as another one.

## Main results

* `Binding.CatalogPair.exists_series`: which questions about members the model of a tree asked, what it
  recorded, and which models give the same answers.
* `Binding.CatalogPair.answersAlike`: models over the same providers give the same answers.
-/

set_option autoImplicit false

namespace QuerySemantics

open Binding

/-- **Same answers**: a model that reports the same as another one, binds the nodes of its tree to the same and
remembers the same members. -/
structure SemanticModel.AnswersAlike (other model : SemanticModel) : Prop where
  diagnostics : other.diagnostics = model.diagnostics
  boundNode? : ∀ node, other.boundNode? node = model.boundNode? node
  members : other.members = model.members

namespace Binding.CatalogPair

variable {a : CatalogPair} {tree : SyntaxTree}

/-- The pass of a model begins in a scope that is seen. -/
theorem sees_root (a : CatalogPair) (next : SymbolId) : a.Sees ⟨next, a.catalog, []⟩ :=
  ⟨rfl, fun _ hname => nomatch hname⟩

/-- A model whose pass came to the same state over another catalog gives the same answers. -/
theorem answersAlike_of_pass {providers : Providers} {next : SymbolId}
    (h : pass tree.root ⟨a.options', ⟨next, a.served providers, []⟩⟩ (.start (next + 1)) =
      ((), (pass tree.root ⟨a.options, ⟨next, a.catalog, []⟩⟩ (.start (next + 1))).2.over
        (a.served providers))) :
    ((Analysis.mk tree (a.served providers) a.options').model next).1.AnswersAlike
        ((Analysis.mk tree a.catalog a.options).model next).1 := by
  have hrecords : ((Analysis.mk tree (a.served providers) a.options').model next).1.result.records =
      ((Analysis.mk tree a.catalog a.options).model next).1.result.records.map
        (Record.over (a.served providers)) := by
    change (pass tree.root ⟨a.options', ⟨next, a.served providers, []⟩⟩ (.start (next + 1))).2.records = _
    rw [h]
    rfl
  have hbound : ∀ index,
      ((Analysis.mk tree (a.served providers) a.options').model next).1.result.boundNode? index =
        ((Analysis.mk tree a.catalog a.options).model next).1.result.boundNode? index := by
    intro index
    rw [BindingResult.boundNode?, hrecords, List.find?_map, Option.map_map]
    rfl
  refine ⟨?_, fun node => ?_, ?_⟩
  · change (pass tree.root ⟨a.options', ⟨next, a.served providers, []⟩⟩
      (.start (next + 1))).2.diagnostics = _
    rw [h]
    rfl
  · unfold SemanticModel.boundNode?
    simp only [hbound]
    rfl
  · change (pass tree.root ⟨a.options', ⟨next, a.served providers, []⟩⟩ (.start (next + 1))).2.members = _
    rw [h]
    rfl

/-- **The questions of a model.** What the model of a tree remembers are the answers to some questions
that were asked one after the other, and what it recorded is called as the tree says. A model over
the other catalog gives the same answers, whichever providers it has that share the answers to these
questions. -/
theorem exists_series (hpart : a.part = tree.root) (next : SymbolId) :
    ∃ series, ((Analysis.mk tree a.catalog a.options).model next).1.members =
        MemberCache.empty.askAll a.catalog series ∧
      (∀ record ∈ ((Analysis.mk tree a.catalog a.options).model next).1.result.records,
        tree.root.Tells ((Analysis.mk tree a.catalog a.options).model next).1.members record) ∧
      ∀ providers, a.Shares providers series →
        ((Analysis.mk tree (a.served providers) a.options').model next).1.AnswersAlike
          ((Analysis.mk tree a.catalog a.options).model next).1 := by
  obtain ⟨series, hfine, hover⟩ := pass_tandem (next + 1) (a.sees_root next)
  have hrecords := hfine.records
  rw [hpart] at hrecords hfine hover
  exact ⟨series, hfine.members, hrecords, fun providers hshares =>
    answersAlike_of_pass (hover providers hshares)⟩

/-- **Models over both catalogs give the same answers** if their members come from the same providers. -/
theorem answersAlike (hpart : a.part = tree.root) (hmethods : a.catalog'.methods = a.catalog.methods)
    (hproperties : a.catalog'.properties = a.catalog.properties) (next : SymbolId) :
    ((Analysis.mk tree a.catalog' a.options').model next).1.AnswersAlike
      ((Analysis.mk tree a.catalog a.options).model next).1 := by
  obtain ⟨series, -, -, hover⟩ := exists_series hpart next
  have hserved : a.served (a.catalog.methods, a.catalog.properties) = a.catalog' := by
    rw [served, Catalog.servedBy, ← hmethods, ← hproperties]
  rw [← hserved]
  exact hover _ shares_own

end Binding.CatalogPair

/-- **What a model recorded** is called as the tree says, and the members that it refers to are
remembered. -/
theorem Analysis.tells_model (analysis : Analysis) (next : SymbolId) :
    ∀ record ∈ (analysis.model next).1.result.records,
      analysis.tree.root.Tells (analysis.model next).1.members record := by
  have hpart : (CatalogPair.self analysis.tree.root analysis.options analysis.catalog).part =
      analysis.tree.root := rfl
  obtain ⟨_, -, hrecords, -⟩ := CatalogPair.exists_series hpart next
  exact hrecords

end QuerySemantics
