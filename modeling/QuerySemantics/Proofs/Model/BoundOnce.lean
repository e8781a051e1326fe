import QuerySemantics.Proofs.Binding.Once
import QuerySemantics.Proofs.Binding.RemarkWalk
import QuerySemantics.Proofs.Model.Lookup

/-!
# Binding each node once

Binding a tree comes to no node twice, so a node has one record, and the same is never reported twice
about one node. The exception is a `CASE` whose operand and whose `ELSE` are one node: the operand is the
first expression among its parts, and without an operand of its own, and with no label in front of the
`ELSE`, this is the expression behind the `ELSE`.

## Main results

* `SyntaxTree.bound_once`: each node is recorded once, and each remark about a node is made once.
* `SyntaxTree.bound_twice`: different nodes may give equal diagnostics, and a doubled `CASE` binds a
  node twice, with or without labels.
-/

set_option autoImplicit false

namespace QuerySemantics

open Binding

namespace SyntaxTree

variable {tree : SyntaxTree}

/-- The pieces that binding a tree begins with are spread, if no `CASE` is doubled. -/
theorem spread_roots (h : ∀ piece, tree.root.piece.Reached piece → piece.isDoubled = false) :
    Piece.Spread (if tree.root.piece.isRoot then [tree.root.piece] else []) := by
  split
  · refine ⟨fun piece hpiece => ?_, List.pairwise_singleton _ _⟩
    rw [List.mem_singleton.1 hpiece]
    exact tree.placed_root.allApart h
  · exact ⟨fun piece hpiece => absurd hpiece List.not_mem_nil, .nil⟩

/-- No node of a tree is recorded twice, if no `CASE` is doubled. -/
theorem nodup_records (h : ∀ piece, tree.root.piece.Reached piece → piece.isDoubled = false)
    (options : Options) (catalog : Catalog) (next : SymbolId) :
    ((tree.bind options catalog next).1.records.map (·.info.index)).Nodup := by
  obtain ⟨outcome, first, last, log, hvisit, hrecords, -⟩ := tree.bind_visits options catalog next
  rw [hrecords]
  refine hvisit.nodup_records ?_
  have hpieces : Visit.pieces (tree.steps (tree.bind options catalog next).1.rootScope outcome) =
      if tree.root.piece.isRoot then [tree.root.piece] else [] := by
    unfold SyntaxTree.steps
    split <;> rfl
  exact hpieces ▸ spread_roots h

/-- **Each node is bound once.** Where nodes are distinct and binding comes to no doubled `CASE`, no node
is recorded twice, so that every record is what its node is known to be bound to. And the diagnostics are
remarks about nodes of the tree, no two of which say the same about the same node. -/
theorem bound_once (hdistinct : tree.Distinct)
    (h : ∀ piece, tree.root.piece.Reached piece → piece.isDoubled = false)
    (options : Options) (catalog : Catalog) (next : SymbolId) :
    let result := (tree.bind options catalog next).1
    (result.records.map (·.info.index)).Nodup ∧
      (∀ record ∈ result.records, result.boundNode? record.info.index = some record.node) ∧
      ∃ remarks : List Remark, result.diagnostics = remarks.map Remark.diagnostic ∧
        (remarks.map Remark.key).Nodup ∧
        ∀ it ∈ remarks, ∃ node ∈ tree.root.nodes, node.piece.IsSubjectOf it := by
  have hnodup := nodup_records h options catalog next
  refine ⟨hnodup, fun record hrecord => ?_, ?_⟩
  · rw [BindingResult.boundNode?_eq tree.coincidences_bind (hdistinct.alone _)]
    exact BindingResult.latest?_of_nodup hnodup hrecord
  · obtain ⟨remarks, htold, hdiagnostics⟩ := tree.bind_told options catalog next
    obtain ⟨hkeys, haccounts⟩ := htold.nodup (spread_roots h)
    refine ⟨remarks, hdiagnostics, hkeys, fun it hit => ?_⟩
    obtain ⟨piece, hpiece, haccounted⟩ := haccounts it hit
    have hroot : piece = tree.root.piece := by
      split at hpiece
      · exact List.mem_singleton.1 hpiece
      · cases hpiece
    exact Located.exists_subject (hroot ▸ haccounted.concerns)

/-- A tree without doubled nodes reaches no doubled `CASE`. -/
theorem isDoubled_of_nodes (h : ∀ node ∈ tree.root.nodes, node.piece.isDoubled = false) :
    ∀ piece, tree.root.piece.Reached piece → piece.isDoubled = false := by
  intro piece hreached
  cases hinfo : piece.info? with
  | none =>
    cases piece with
    | token leaf => rfl
    | _ => cases hinfo
  | some info =>
    obtain ⟨node, hnode, rfl⟩ := Located.exists_node_of_reached hreached hinfo
    exact h node hnode

/-- The tree of a subselect whose query has another subselect as its condition. Neither query has
columns, and all text is in the inner one, so that both subselects have the same span. -/
def nestedSubselects : SyntaxTree :=
  ⟨0, .node .compilationUnit [.node .singleRowSubselect [.node .selectQuery [.node .whereClause
    [.node .singleRowSubselect [.node .selectQuery [.token .selectKeyword "SELECT"]]]]]]⟩

/-- The tree of `CASE ELSE x END`. -/
def labelless : SyntaxTree :=
  ⟨0, .node .compilationUnit [.node .caseExpression [.token .caseKeyword "CASE",
    .token .whitespace " ", .token .elseKeyword "ELSE", .token .whitespace " ",
    .node .nameExpression [.token .identifier "x"], .token .whitespace " ",
    .token .endKeyword "END"]]⟩

/-- The tree of `CASE ELSE x WHEN 1 THEN 2 END`. -/
def lateLabel : SyntaxTree :=
  ⟨0, .node .compilationUnit [.node .caseExpression [.token .caseKeyword "CASE",
    .token .whitespace " ", .token .elseKeyword "ELSE", .token .whitespace " ",
    .node .nameExpression [.token .identifier "x"], .token .whitespace " ",
    .node .caseLabel [.token .whenKeyword "WHEN", .token .whitespace " ",
      .node .literalExpression [.token .numericLiteral "1"], .token .whitespace " ",
      .token .thenKeyword "THEN", .token .whitespace " ",
      .node .literalExpression [.token .numericLiteral "2"]], .token .whitespace " ",
    .token .endKeyword "END"]]⟩

/-- Nested subselects are bound once each, and both are reported. -/
theorem bound_once_nestedSubselects :
    nestedSubselects.Distinct ∧
      (∀ piece, nestedSubselects.root.piece.Reached piece → piece.isDoubled = false) ∧
      ((nestedSubselects.bind {} (Catalog.empty 0).1 1).1.records.map (·.info.index)).Nodup ∧
      (nestedSubselects.bind {} (Catalog.empty 0).1 1).1.diagnostics.length = 2 ∧
      ∃ remarks : List Remark, (nestedSubselects.bind {} (Catalog.empty 0).1 1).1.diagnostics =
        remarks.map Remark.diagnostic ∧ (remarks.map Remark.key).Nodup := by
  have hdistinct : nestedSubselects.Distinct := by decide +kernel
  have hdoubled : ∀ piece, nestedSubselects.root.piece.Reached piece → piece.isDoubled = false :=
    isDoubled_of_nodes (by decide +kernel)
  obtain ⟨hnodup, -, remarks, hdiagnostics, hkeys, -⟩ :=
    bound_once hdistinct hdoubled {} (Catalog.empty 0).1 1
  exact ⟨hdistinct, hdoubled, hnodup, by decide +kernel, remarks, hdiagnostics, hkeys⟩

/-- **Equal diagnostics.** Subselects with the same span may be reported alike, each for itself. And in
`CASE ELSE x END`, as in `CASE ELSE x WHEN 1 THEN 2 END`, the name is bound twice and reported twice. All
nodes are distinct. -/
theorem bound_twice :
    (nestedSubselects.Distinct ∧
        ((nestedSubselects.bind {} (Catalog.empty 0).1 1).1.records.map (·.info.index)).Nodup ∧
        ¬((nestedSubselects.bind {} (Catalog.empty 0).1 1).1.diagnostics.map Diagnostic.shown).Nodup) ∧
      ∀ tree ∈ [labelless, lateLabel], tree.Distinct ∧
        ¬((tree.bind {} (Catalog.empty 0).1 1).1.records.map (·.info.index)).Nodup ∧
        ¬((tree.bind {} (Catalog.empty 0).1 1).1.diagnostics.map Diagnostic.shown).Nodup := by
  decide +kernel

end SyntaxTree

end QuerySemantics
