import QuerySemantics.Proofs.Draft.Shown

/-!
# Reading back drafts

What was written comes back: the typed accessors of every node in the tree of a draft return the lowered
parts of the component that the node was written for, whatever blanks are put between the words and
however deep the component is nested.

## Main definitions

* `Draft.Component.Lowered`: a node that is the lowered form of a component, with the lowered forms of its
  parts below it, and whose accessors show this component.

## Main results

* `Draft.Component.lowered_of_lowers`: the tree of a component is lowered, with blanks and in any place.
* `Draft.Component.Lowered.exists_of_mem_nodes`: so is every node in it.
* `Draft.Whole.reads_back`: every node in the tree of a draft is the lowered form of a component.
-/

set_option autoImplicit false

namespace QuerySemantics

open Element

namespace Draft

namespace Component

/-- **Lowered form** of a component: a node that is written as its tree, below which stand the lowered forms
of its parts and no other nodes, and whose accessors show it. What they return is read from just these
nodes and from the words of this node. -/
inductive Lowered : Component → Located → Prop where
  | mk {it : Component} {info : NodeInfo} {children : List Located}
      (written : it.element.Lowers (.node info children))
      (below : List.Forall₂ Lowered it.parts (Located.inner children))
      (shown : it.Shown info (Piece.words (Located.pieces children))
        ((Located.inner children).map Located.piece) (Located.node info children).piece) :
      Lowered it (.node info children)

/-- A component whose tree is labelled has labelled parts. -/
theorem isLabelled_part {it part : Component} (h : it.element.isLabelled = true)
    (hpart : part ∈ it.parts) : part.element.isLabelled = true := by
  obtain ⟨kind, children, helement, hinner⟩ := it.exists_children
  rw [helement, isLabelled, Bool.and_eq_true] at h
  have hmem : part.element ∈ inner children := by
    rw [hinner]
    exact List.mem_map_of_mem hpart
  exact areLabelled_iff.1 h.2 _ (List.mem_filter.1 hmem).1

/-- **One node**: below it stand the trees of the parts, and its accessors show the component. -/
theorem node_of_lowers {it : Component} {node : Located} (hlabelled : it.element.isLabelled = true)
    (h : it.element.Lowers node) : ∃ info children, node = .node info children ∧
      List.Forall₂ (fun part below => part.element.Lowers below) it.parts (Located.inner children) ∧
      it.Shown info (Piece.words (Located.pieces children)) ((Located.inner children).map Located.piece)
        node.piece := by
  obtain ⟨previous, index, offset, rfl⟩ := h
  obtain ⟨kind, children, helement, hinner⟩ := it.exists_children
  obtain ⟨_, _, hsame, hshows⟩ := it.shows hlabelled
  obtain ⟨rfl, rfl⟩ := Element.node.inj (helement.symm.trans hsame)
  rw [helement]
  refine ⟨_, _, rfl, ?_, ?_⟩
  · rw [← List.forall₂_map_left_iff, ← hinner]
    exact forall₂_lowers_inner kind children previous (index + 1) offset
  · rw [Located.map_piece_inner]
    exact hshows _ _ rfl (readsAll_spaceAll kind children previous (index + 1) offset)
      (placedAll_locateAll _ _ _).pairwise

/-- **The tree of a component is lowered**, with blanks and in any place, if every `CASE` in it has a
label. -/
theorem lowered_of_lowers {it : Component} {node : Located} (hlabelled : it.element.isLabelled = true)
    (h : it.element.Lowers node) : it.Lowered node := by
  induction node using Located.induction generalizing it with
  | token leaf =>
    obtain ⟨_, _, hnode, -⟩ := node_of_lowers hlabelled h
    cases hnode
  | node info children ih =>
    obtain ⟨_, _, hnode, hbelow, hshown⟩ := node_of_lowers hlabelled h
    obtain ⟨rfl, rfl⟩ := Located.node.inj hnode
    -- each part is labelled, and each node below is one of the children that the hypothesis is about
    have hpart : ∀ part ∈ it.parts, part.element.isLabelled = true :=
      fun part => isLabelled_part hlabelled
    have hchild : ∀ child ∈ Located.inner children, child ∈ children :=
      fun child hchild => (List.mem_filter.1 hchild).1
    have hlowers := (List.forall₂_and_left _ _).2 ⟨hpart, hbelow⟩
    have hboth := (List.forall₂_and_left _ _).2 ⟨hchild, hlowers.flip⟩
    exact .mk h (hboth.flip.imp fun part child ⟨hmem, hlabelled, hlowers⟩ =>
      ih child hmem hlabelled hlowers) hshown

/-- **Every node** in a lowered form is the lowered form of a component. -/
theorem Lowered.exists_of_mem_nodes {it : Component} {root node : Located} (h : it.Lowered root)
    (hnode : node ∈ root.nodes) : ∃ part : Component, part.Lowered node := by
  induction root using Located.induction generalizing it with
  | token leaf => cases hnode
  | node info children ih =>
    rw [Located.nodes, List.mem_cons, Located.mem_nodesOf] at hnode
    rcases hnode with rfl | ⟨child, hchild, hnode⟩
    · exact ⟨it, h⟩
    · obtain ⟨-, below, -⟩ := h
      -- only nodes have nodes in them, and the nodes among the children are lowered parts
      have hinner : child ∈ Located.inner children := by
        refine List.mem_filter.2 ⟨hchild, ?_⟩
        cases child with
        | token leaf => cases hnode
        | node => rfl
      obtain ⟨hlength, hparts⟩ := List.forall₂_iff_get.1 below
      obtain ⟨place, hplace, rfl⟩ := List.mem_iff_getElem.1 hinner
      exact ih _ hchild (hparts place (hlength ▸ hplace) hplace) hnode

end Component

/-! ## Whole drafts -/

/-- **A draft reads back**: its tree is its lowered form, and so every node in the tree is the lowered form
of one of the components, whose accessors return the lowered parts of this component and nothing else. -/
theorem Whole.reads_back (draft : Whole) (id : Nat) (hlabelled : draft.element.isLabelled = true) :
    (Component.whole draft).Lowered (draft.tree id).root ∧
      ∀ node ∈ (draft.tree id).root.nodes, ∃ it : Component, it.Lowered node := by
  have hwhole : (Component.whole draft).element.isLabelled = true := by
    simp [Component.element, isLabelled, areLabelled, hlabelled]
  have hroot : (Component.whole draft).Lowered (draft.tree id).root :=
    Component.lowered_of_lowers hwhole ⟨none, 0, 0, rfl⟩
  exact ⟨hroot, fun node hnode => hroot.exists_of_mem_nodes hnode⟩

/-- A draft with a definition, a row limit, a simple and a searched `CASE`, and an outer join. -/
def shippingReport : Whole :=
  .query (.withTables [.mk "late" (some ["number", "state"]) (.select true (some ⟨"5", true⟩)
      [.value (.name "id") none,
        .value (.cases (some (.name "state")) [.mk (.number "0") (.string "open")]
          (some (.string "shipped"))) (some "label")]
      [.byName "orders" none] (some (.isNull (.name "sent") false)) [] none)]
    (.ordered (.combined (.select false none [.star] [.byName "late" (some "l")] none [] none) .unionAll
        (.select false none
          [.starOf "c", .value (.cases none [.mk (.binary (.name "town") .notLike (.string "A%"))
            (.number "1")] none) none]
          [.joined (.byName "customers" (some "c")) .leftOuter (.byName "late" none)
            (some (.unary .logicalNot (.boolean false)))] none [.name "town"] (some (.boolean true))))
      [.mk (.name "number") .descending]))

/-- Every node of the tree of a report with all kinds of clauses is a lowered component. -/
theorem Whole.reads_back_shippingReport : shippingReport.element.isLabelled = true ∧
    (Component.whole shippingReport).Lowered (shippingReport.tree 0).root ∧
      ∀ node ∈ (shippingReport.tree 0).root.nodes, ∃ it : Component, it.Lowered node := by
  have hlabelled : shippingReport.element.isLabelled = true := by decide +kernel
  exact ⟨hlabelled, shippingReport.reads_back 0 hlabelled⟩

end Draft

end QuerySemantics
