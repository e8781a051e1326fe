import QuerySemantics.Model.Basic
import QuerySemantics.Proofs.Binding.RemarkWalk
import QuerySemantics.Proofs.Tree.Tokens

/-!
# Where diagnostics point

A diagnostic stands where a token of the tree stands, or where a node stands without the trivia that it
starts with. So its span can be cut out of the query text, and shows whole tokens of it.

## Main results

* `SyntaxTree.diagnostic_origin`: the token or the node that a diagnostic points at.
* `SyntaxTree.diagnostic_covers`: the tokens that a diagnostic points at.
* `Analysis.spans_in_text`: the spans of all diagnostics lie in the text, from one boundary between
  tokens to another, and begin with a token that is not trivia.
-/

set_option autoImplicit false

namespace QuerySemantics

/-! ## The tokens of pieces -/

/-- The tokens of a piece that diagnostics refer to are tokens of its node, and are not trivia. -/
theorem Piece.token_mem_of_mem_tokens {info : NodeInfo} {pieces : List Piece} {leaf : Token}
    (h : leaf ∈ (ofNode info pieces).tokens) : .token leaf ∈ pieces ∧ leaf.kind.isTrivia = false := by
  have hkind : ∀ {kind : Kind}, kind.isTrivia = false → leaf ∈ (tokenOf? kind pieces).toList →
      .token leaf ∈ pieces ∧ leaf.kind.isTrivia = false := by
    intro kind hkind h
    obtain ⟨hleaf, rfl⟩ := token_mem_of_tokenOf? (Option.mem_toList.1 h)
    exact ⟨hleaf, hkind⟩
  have hleading : leaf ∈ (leadingToken? pieces).toList →
      .token leaf ∈ pieces ∧ leaf.kind.isTrivia = false := by
    intro h
    have hfind := Option.mem_toList.1 h
    refine ⟨mem_of_filterMap (fun {piece leaf} h => ?_) (List.mem_of_find?_eq_some hfind),
      by simpa using List.find?_some hfind⟩
    cases piece <;> cases h
    rfl
  unfold ofNode at h
  split at h
  all_goals
    first
    | exact hkind rfl h
    | exact hleading h
    | cases h

/-- The tokens of the reading of a tree are tokens of the tree, and are not trivia. -/
theorem Located.mem_tokens_of_mem_piece {part : Located} {leaf : Token}
    (h : leaf ∈ part.piece.tokens) : leaf ∈ part.tokens ∧ leaf.kind.isTrivia = false := by
  cases part with
  | token own => cases h
  | node info children =>
    obtain ⟨hleaf, hkind⟩ := Piece.token_mem_of_mem_tokens h
    rw [pieces_eq_map] at hleaf
    obtain ⟨child, hchild, hpiece⟩ := List.mem_map.1 hleaf
    refine ⟨mem_tokens_of_child hchild ?_, hkind⟩
    cases child with
    | token own =>
      obtain rfl : own = leaf := Piece.token.inj hpiece
      exact List.mem_singleton_self own
    | node own parts =>
      have hinfo := (Located.node own parts).info?_piece
      rw [hpiece] at hinfo
      cases hinfo

namespace SyntaxTree

/-! ## Where remarks stand -/

/-- **The origin of a diagnostic**: it points at a token of the tree that is not trivia, or at a node
of the tree without the trivia that it starts with. -/
theorem diagnostic_origin {tree : SyntaxTree} {options : Binding.Options} {catalog : Catalog}
    {next : SymbolId} {diagnostic : Diagnostic}
    (h : diagnostic ∈ (tree.bind options catalog next).1.diagnostics) :
    (∃ leaf ∈ tree.root.tokens, leaf.kind.isTrivia = false ∧ diagnostic.span = leaf.span) ∨
      ∃ node ∈ tree.root.nodes, diagnostic.span = node.trimmed := by
  obtain ⟨remarks, htold, hdiagnostics⟩ := tree.bind_told options catalog next
  rw [hdiagnostics] at h
  obtain ⟨it, hit, rfl⟩ := List.mem_map.1 h
  obtain ⟨piece, hpiece, hconcerns⟩ := htold.concerns it hit
  obtain rfl : piece = tree.root.piece := by
    split at hpiece
    · exact List.mem_singleton.1 hpiece
    · cases hpiece
  obtain ⟨node, hnode, -, hmarks⟩ := Located.exists_subject hconcerns
  rcases hmarks with ⟨-, info, hinfo, hspan⟩ | ⟨leaf, hleaf, hspan⟩
  · rw [Located.info?_piece] at hinfo
    exact .inr ⟨node, hnode, by rw [← hspan, span_eq_trimmed hnode hinfo]⟩
  · obtain ⟨hleaf, hkind⟩ := Located.mem_tokens_of_mem_piece hleaf
    exact .inl ⟨leaf, Located.mem_tokens_of_mem_nodes hnode hleaf, hkind, hspan.symm⟩

/-- **The tokens that a diagnostic points at** begin with one that is not trivia, or they are those of
a node that has nothing but trivia. -/
theorem diagnostic_covers {tree : SyntaxTree} {options : Binding.Options} {catalog : Catalog}
    {next : SymbolId} {diagnostic : Diagnostic}
    (h : diagnostic ∈ (tree.bind options catalog next).1.diagnostics) :
    ∃ inside, tree.Covers diagnostic.span inside ∧
      ((∃ leaf rest, inside = leaf :: rest ∧ leaf.kind.isTrivia = false ∧
          diagnostic.span.start = leaf.start) ∨
        ∃ node ∈ tree.root.nodes, node.tokens = inside ∧
          (∀ leaf ∈ inside, leaf.kind.isTrivia = true) ∧
          diagnostic.span = ⟨node.start, node.stop⟩) := by
  rcases diagnostic_origin h with ⟨leaf, hleaf, hkind, hspan⟩ | ⟨node, hnode, hspan⟩
  · rw [hspan]
    exact ⟨[leaf], covers_token hleaf, .inl ⟨leaf, [], rfl, hkind, rfl⟩⟩
  · rw [hspan]
    rcases covers_trimmed hnode with ⟨_, leaf, rest, -, hkind, hstart, hcovers⟩ |
      ⟨hblank, htrimmed, hcovers⟩
    · exact ⟨_, hcovers, .inl ⟨leaf, rest, rfl, hkind, hstart.symm⟩⟩
    · exact ⟨_, hcovers, .inr ⟨node, hnode, rfl, hblank, htrimmed⟩⟩

end SyntaxTree

/-- **Spans lie in the text.** Each diagnostic of a model points at a token of the tree that is not
trivia, or at a node of the tree without the trivia that it starts with. So its span is not reversed
and does not reach behind the text, and it reaches from one boundary between tokens to another. What it
cuts out of the text is the text of whole tokens, the first of which is not trivia, unless they are
those of a node that has nothing but trivia. -/
theorem Analysis.spans_in_text (analysis : Analysis) (next : SymbolId) :
    let tree := analysis.tree
    ∀ diagnostic ∈ (analysis.model next).1.diagnostics,
      let span := diagnostic.span
      ((∃ leaf ∈ tree.root.tokens, leaf.kind.isTrivia = false ∧ span = leaf.span) ∨
          ∃ node ∈ tree.root.nodes, span = node.trimmed) ∧
        span.start ≤ span.stop ∧ span.stop ≤ tree.text.utf8ByteSize ∧
        tree.IsBoundary span.start ∧ tree.IsBoundary span.stop ∧
        ∃ inside, tree.Covers span inside ∧ span.slice tree.text = some (Token.textOf inside) ∧
          ((∃ leaf rest, inside = leaf :: rest ∧ leaf.kind.isTrivia = false ∧
              span.start = leaf.start) ∨
            ∃ node ∈ tree.root.nodes, node.tokens = inside ∧
              (∀ leaf ∈ inside, leaf.kind.isTrivia = true) ∧ span = ⟨node.start, node.stop⟩) := by
  intro tree diagnostic hdiagnostic span
  obtain ⟨inside, hcovers, hbegin⟩ := SyntaxTree.diagnostic_covers hdiagnostic
  have hbounds := hcovers.bounds
  have hboundary := hcovers.isBoundary
  exact ⟨SyntaxTree.diagnostic_origin hdiagnostic, hbounds.1, hbounds.2, hboundary.1, hboundary.2,
    inside, hcovers, hcovers.slice, hbegin⟩

end QuerySemantics
