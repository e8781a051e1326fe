import QuerySemantics.Catalog.Sample
import QuerySemantics.Model.Basic
import QuerySemantics.Proofs.Binding.Soundness
import QuerySemantics.Proofs.Draft.Whole

/-!
# Soundness of a model without diagnostics

If nothing is reported about a query, then nothing is wrong with it: no name in it refers to a
placeholder, everything has a known type, and every form follows its typing rule.

## Main results

* `SyntaxTree.sound_of_mem_records`: a tree that is read as a complete piece and is bound without
  diagnostics is bound to sound nodes.
* `SemanticModel.sound_of_diagnostics_eq_nil`: so is the tree of a draft.
-/

set_option autoImplicit false

namespace QuerySemantics

open Binding

namespace Binding

/-- **Binding what a tree is read as**, where this is complete, leads from sound states to sound
states, or reports something. -/
theorem piece_clean {it : Piece} {env : Env} (h : it.Complete) :
    Clean env True (piece it) fun _ => True := by
  cases it with
  | unit it =>
    obtain ⟨info, body, value⟩ := it
    cases body with
    | some body =>
      exact (query_clean body fun _ => h.part (by simp [Piece.parts, Piece.ofQuery?])).bind
        fun _ => .pure fun _ => trivial
    | none =>
      cases value with
      | some value =>
        exact (expr_clean value fun _ => h.part (by simp [Piece.parts, Piece.ofExpr?])).bind
          fun _ => .pure fun _ => trivial
      | none => exact .pure fun _ => trivial
  | query it => exact (query_clean it fun _ => h).bind fun _ => .pure fun _ => trivial
  | expr it => exact (expr_clean it fun _ => h).bind fun _ => .pure fun _ => trivial
  | _ => exact .pure fun _ => trivial

end Binding

/-- **Sound nodes**: what a tree is bound to, if it is complete and nothing is reported. -/
theorem SyntaxTree.sound_of_mem_records {tree : SyntaxTree} {options : Options} {catalog : Catalog}
    {next : SymbolId} (hcomplete : tree.root.piece.Complete) (hcatalog : catalog.Known)
    (hlimit : options.maxDiagnostics ≠ some 0)
    (h : (tree.bind options catalog next).1.diagnostics = []) :
    ∀ record ∈ (tree.bind options catalog next).1.records, record.node.Sound := by
  let env : Env := ⟨options, ⟨next, catalog, []⟩⟩
  have henv : env.Sound := ⟨.root hcatalog, hlimit⟩
  have hpass : Clean env True (Binding.pass tree.root) fun _ => True := by
    unfold Binding.pass
    split
    · exact Clean.recordScope.bind fun _ => (piece_clean hcomplete).mono (fun _ => trivial)
        fun _ _ h => h
    · exact .pure fun _ => trivial
  obtain ⟨-, hsound⟩ := hpass (.start (next + 1)) h
  have hstart : (Pass.start (next + 1)).Sound := ⟨by simp [Pass.start], .empty⟩
  exact (hsound henv trivial hstart).1.records

namespace SemanticModel

/-- **A draft without diagnostics** is bound to sound nodes only, if every `CASE` in it has a label,
the catalog declares known types only, and a diagnostic would have been kept. -/
theorem sound_of_diagnostics_eq_nil {draft : Draft.Whole} {catalog : Catalog} {options : Options}
    {id : Nat} {next : SymbolId} (hlabels : draft.element.isLabelled = true)
    (hcatalog : catalog.Known) (hlimit : options.maxDiagnostics ≠ some 0)
    (h : ((Analysis.mk (draft.tree id) catalog options).model next).1.diagnostics = []) :
    ∀ record ∈ ((Analysis.mk (draft.tree id) catalog options).model next).1.result.records,
      record.node.Sound :=
  SyntaxTree.sound_of_mem_records (Draft.Whole.complete hlabels id) hcatalog hlimit h

/-- A draft with a call, a `CASE`, a property of a column and a correlated subselect. -/
def spendingReport : Draft.Whole :=
  .query (.select false none
    [.value (.cases none [.mk (.binary (.call "ABS" [.qualified "o" "Total"]) .greater (.number "1"))
        (.property (.qualified "o" "Notes") "Length")] (some (.number "2"))) (some "size"),
      .value (.subselect (.select false none
        [.value (.call "MAX" [.qualified "c" "Id"]) none] [.byName "Customers" (some "c")]
        (some (.binary (.qualified "c" "Id") .equal (.qualified "o" "CustomerId"))) [] none)) none]
    [.byName "Orders" (some "o")] (some (.binary (.name "Total") .less (.parameter "Threshold")))
    [] none)

/-- All types of the sales catalog are known. -/
theorem known_sales : (Catalog.sales 0).1.Known where
  tables := by decide +kernel
  functions := by
    unfold Function.Known
    decide +kernel
  aggregates := by decide +kernel
  hostVariables := by decide +kernel
  methods := by
    intro entry hentry
    obtain rfl := List.mem_singleton.1 hentry
    change ∀ it ∈ _, Method.Known it
    unfold Method.Known
    decide +kernel
  properties := by
    intro entry hentry
    rcases List.mem_cons.1 hentry with rfl | hentry
    · change ∀ it ∈ _, Property.Known it
      unfold Property.Known
      decide +kernel
    · obtain rfl := List.mem_singleton.1 hentry
      change ∀ it ∈ _, PropertyShape.Known it
      unfold PropertyShape.Known
      decide +kernel

/-- A report that binds without diagnostics has sound nodes only. -/
theorem sound_spendingReport :
    spendingReport.element.isLabelled = true ∧
    ((Analysis.mk (spendingReport.tree 0) (Catalog.sales 0).1 {}).model 100).1.diagnostics = [] ∧
    ∀ record ∈ ((Analysis.mk (spendingReport.tree 0) (Catalog.sales 0).1 {}).model
      100).1.result.records, record.node.Sound := by
  have hlabels : spendingReport.element.isLabelled = true := by decide +kernel
  have hlength : ((Analysis.mk (spendingReport.tree 0) (Catalog.sales 0).1 {}).model
      100).1.diagnostics.length = 0 := by decide +kernel
  have hnil := List.length_eq_zero_iff.1 hlength
  exact ⟨hlabels, hnil, sound_of_diagnostics_eq_nil hlabels known_sales (by decide) hnil⟩

end SemanticModel

end QuerySemantics
