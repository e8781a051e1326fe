import QuerySemantics.Catalog.Sample
import QuerySemantics.Proofs.Binding.LockstepPass
import QuerySemantics.Proofs.Tree.Bare

/-!
# Trivia never matters

Blanks and comments take no part in what a query means, wherever they stand: two trees that are the
same without them are bound to the same, node by node, and the same problems are reported about them.
Only the places differ.

## Main results

* `Analysis.model_bare`: an analysis of a tree and one of the tree without trivia.
* `Analysis.model_eq_of_bare`: analyses of trees that are the same without trivia.
-/

set_option autoImplicit false

namespace QuerySemantics

open Binding

/-! ## A tree and the tree without trivia -/

namespace SyntaxTree

variable {tree bare : SyntaxTree}

/-- How much of the text of a tree is solid before an offset. -/
theorem root_bare (h : bare.element = tree.element.bare) (hfilled : tree.element.ElseFilled) :
    bare.root.Alike (.bare tree.element.solid tree.element.solid_mono) tree.root.bare ∨
      ∃ leaf, bare.root = .token leaf ∧ tree.root = .token leaf := by
  unfold root
  rw [h]
  cases helement : tree.element with
  | token kind text => exact .inr ⟨⟨kind, text, 0⟩, rfl, rfl⟩
  | node kind children =>
    have hsolid : ∀ offset ≤ (Element.node kind children).length,
        (Element.node kind children).solid (0 + offset) =
          (Element.node kind children).solid 0 + (Element.node kind children).solid offset := by
      intro offset _
      rw [Nat.zero_add, Element.solid_zero, Nat.zero_add]
    have halike := (Element.node kind children).locate_bare (Element.solid_mono _) 0 0 rfl
      (helement ▸ hfilled) hsolid
    rw [Element.solid_zero] at halike
    exact .inl halike.1

/-- The nodes with one number. -/
theorem node?_bare {like : Likeness} (h : bare.root.Alike like tree.root.bare) (index : Nat) :
    Option.Rel (fun part part' => part.Alike like part'.bare) (bare.node? index)
      (tree.node? index) := by
  have hnodes := h.nodes
  rw [Located.nodes_bare] at hnodes
  exact (List.forall₂_map_right_iff.1 hnodes).getElem? index

end SyntaxTree

/-- A pass over a tree does not come to its trivia. -/
theorem Binding.pass_bare (part : Located) : pass part.bare = pass part := by
  unfold pass
  rw [part.info?_bare, part.piece_bare]

namespace Analysis

/-- **A tree is bound like the tree without trivia**: corresponding nodes have the same record. Without
trivia between them, nodes may coincide that did not before, so nodes are told apart by their numbers. -/
theorem model_bare (analysis : Analysis) (bare : SyntaxTree)
    (h : bare.element = analysis.tree.element.bare) (hfilled : analysis.tree.element.ElseFilled)
    (next : SymbolId) :
    let model := (analysis.model next).1
    let plain := ((analysis.withTree bare).model next).1
    model.diagnostics.map Diagnostic.problem = plain.diagnostics.map Diagnostic.problem ∧
      ∀ index, (analysis.tree.core? index).bind model.result.latest? =
        (bare.core? index).bind plain.result.latest? := by
  rcases SyntaxTree.root_bare h hfilled with halike | ⟨leaf, hbare, htree⟩
  · have hpass : pass analysis.tree.root.bare = pass analysis.tree.root := pass_bare _
    have hlockstep : ∀ scope, Lockstep (.elsewhere _ analysis.options) scope _ _ id := fun _ =>
      pass_lockstep halike
    rw [hpass] at hlockstep
    have hresult := (BindingResult.alike_of_lockstep hlockstep analysis.catalog next).1
    refine ⟨hresult.problems, fun index => ?_⟩
    refine SyntaxTree.core?_related (fun it it' => it' = it) rfl
      (fun _ _ => hresult.latest?_eq (Likeness.faithful_bare analysis.tree.element.solid_mono)) ?_
    exact match bare.node? index, analysis.tree.node? index, SyntaxTree.node?_bare halike index with
    | _, _, .none => .none
    | _, _, @Option.Rel.some _ _ _ part part' hpart => .some fun info info' hinfo hinfo' => by
      rw [← part'.info?_bare] at hinfo'
      have hcore := hpart.coreInfo hinfo hinfo'
      rw [part'.coreInfo_bare] at hcore
      exact hcore
  · -- a tree that is a token has no nodes
    have hpass : pass bare.root = pass analysis.tree.root := by rw [hbare, htree]
    refine ⟨?_, fun index => ?_⟩
    · change (pass analysis.tree.root ⟨_, ⟨next, analysis.catalog, []⟩⟩ _).2.diagnostics.map _ =
        (pass bare.root ⟨_, ⟨next, analysis.catalog, []⟩⟩ _).2.diagnostics.map _
      rw [hpass]
      rfl
    · have hnode : analysis.tree.node? index = none := by rw [SyntaxTree.node?, htree]; rfl
      have hplain : bare.node? index = none := by rw [SyntaxTree.node?, hbare]; rfl
      rw [SyntaxTree.core?, SyntaxTree.core?, hnode, hplain]
      rfl

/-- **Trivia never matters.** Analyses of two trees that are the same without blanks and comments report
the same problems in the same order, and bind corresponding nodes, those with the same number, to the same.
No `ELSE` of either tree may be empty, and in neither tree may nodes coincide.

**Proof sketch.** Both are compared with the tree without trivia. A pass over a tree never comes to its
trivia, and what it does come to stands at other places only. Of places it asks one thing: which expression
starts behind an `ELSE`. The last byte of the `ELSE` is no trivia, so that it is the same one. -/
theorem model_eq_of_bare {tree tree' : SyntaxTree} (h : tree'.element.bare = tree.element.bare)
    (hfilled : tree.element.ElseFilled) (hfilled' : tree'.element.ElseFilled) (hdistinct : tree.Distinct)
    (hdistinct' : tree'.Distinct) (catalog : Catalog) (options : Options) (next : SymbolId) :
    let model := ((Analysis.mk tree catalog options).model next).1
    let model' := ((Analysis.mk tree' catalog options).model next).1
    model'.diagnostics.map Diagnostic.problem = model.diagnostics.map Diagnostic.problem ∧
      ∀ index, model'.boundNode? ⟨tree'.id, index⟩ = model.boundNode? ⟨tree.id, index⟩ := by
  have hplain := model_bare ⟨tree, catalog, options⟩ ⟨0, tree.element.bare⟩ rfl hfilled next
  have hplain' := model_bare ⟨tree', catalog, options⟩ ⟨0, tree.element.bare⟩ h.symm hfilled' next
  refine ⟨hplain'.1.trans hplain.1.symm, fun index => ?_⟩
  rw [SemanticModel.boundNode?_of_distinct ⟨tree, catalog, options⟩ hdistinct,
    SemanticModel.boundNode?_of_distinct ⟨tree', catalog, options⟩ hdistinct']
  exact (hplain'.2 index).trans (hplain.2 index).symm

/-- The tree of `SELECT CASE WHEN TRUE THEN 1 ELSE Missing END FROM Customers`, with a gap before each
word. -/
def selectElse (gap : List Element) : Element :=
  let word kind text := gap ++ [.token kind text]
  let label : Element := .node .caseLabel (word .whenKeyword "WHEN" ++
    [.node .literalExpression (word .trueKeyword "TRUE")] ++ word .thenKeyword "THEN" ++
    [.node .literalExpression (word .numericLiteral "1")])
  let choice : Element := .node .caseExpression (word .caseKeyword "CASE" ++ [label] ++
    word .elseKeyword "ELSE" ++ [.node .nameExpression (word .identifier "Missing")] ++
    word .endKeyword "END")
  .node .compilationUnit [.node .selectQuery [
    .node .selectClause (word .selectKeyword "SELECT" ++ [.node .expressionSelectColumn [choice]]),
    .node .fromClause (word .fromKeyword "FROM" ++
      [.node .namedTableReference (word .identifier "Customers")])]]

/-- The tree of `selectElse` with a blank before each word. -/
def selectElseSpaced : SyntaxTree :=
  ⟨0, selectElse [.token .whitespace " "]⟩

/-- The tree of `selectElse` with a comment before each word. -/
def selectElseCommented : SyntaxTree :=
  ⟨1, selectElse [.token .lineComment "-- here", .token .whitespace "\n"]⟩

/-- With blanks and with comments a `CASE` with `ELSE` has the same problems and bound nodes. -/
theorem model_eq_of_bare_selectElse :
    selectElseCommented.element.bare = selectElseSpaced.element.bare ∧
      selectElseSpaced.element.ElseFilled ∧ selectElseCommented.element.ElseFilled ∧
      selectElseSpaced.Distinct ∧ selectElseCommented.Distinct ∧
      let model := ((Analysis.mk selectElseSpaced (Catalog.sales 0).1 {}).model 100).1
      let model' := ((Analysis.mk selectElseCommented (Catalog.sales 0).1 {}).model 100).1
      model'.diagnostics.map Diagnostic.problem = model.diagnostics.map Diagnostic.problem ∧
        ∀ index, model'.boundNode? ⟨1, index⟩ = model.boundNode? ⟨0, index⟩ := by
  have hbare : selectElseCommented.element.bare = selectElseSpaced.element.bare := rfl
  have hfilled : selectElseSpaced.element.ElseFilled := by decide +kernel
  have hfilled' : selectElseCommented.element.ElseFilled := by decide +kernel
  have hdistinct : selectElseSpaced.Distinct := by decide +kernel
  have hdistinct' : selectElseCommented.Distinct := by decide +kernel
  exact ⟨hbare, hfilled, hfilled', hdistinct, hdistinct',
    model_eq_of_bare hbare hfilled hfilled' hdistinct hdistinct' _ _ _⟩

end Analysis

end QuerySemantics
