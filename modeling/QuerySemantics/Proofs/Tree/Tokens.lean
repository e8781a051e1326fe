import QuerySemantics.Proofs.Ast.Identifiers
import QuerySemantics.Proofs.Text.Slice

/-!
# Tokens and text

The tokens of a tree follow each other without gaps, from the begin of its text to the end. Those of a
node stand together among them, so the range of a node, and this range without the trivia it starts
with, reach from one boundary between tokens to another.

## Main definitions

* `Token.textOf`: the text of several tokens.
* `Token.Tile`: tokens that follow each other without gaps.
* `Located.trimmed`: the range of an element without the trivia that it starts with.
* `SyntaxTree.IsBoundary`, `SyntaxTree.Covers`: offsets between tokens, and spans of tokens in a row.

## Main results

* `Located.Placed.tile`: the tokens of a placed tree follow each other without gaps.
* `SyntaxTree.span_eq_trimmed`: the span of a node is its range without leading trivia.
* `SyntaxTree.covers_trimmed`, `SyntaxTree.covers_token`: the spans of nodes and of tokens cover tokens.
* `SyntaxTree.Covers.slice`: what a span that covers tokens cuts out of the text is their text.
-/

set_option autoImplicit false

namespace QuerySemantics

/-! ## Tokens in a row -/

namespace Token

/-- **Text** of several tokens, one behind the other. -/
def textOf : List Token → String
  | [] => ""
  | leaf :: rest => leaf.text ++ textOf rest

/-- **Tiling**: tokens that follow each other without gaps from `offset` to `stop`. -/
def Tile : List Token → (offset stop : Nat) → Prop
  | [], offset, stop => stop = offset
  | leaf :: rest, offset, stop => leaf.start = offset ∧ Tile rest leaf.stop stop

/-- The text of tokens in two groups. -/
theorem textOf_append (front back : List Token) :
    textOf (front ++ back) = textOf front ++ textOf back := by
  induction front with
  | nil => rw [List.nil_append, textOf, String.empty_append]
  | cons leaf rest ih => rw [List.cons_append, textOf, ih, textOf, String.append_assoc]

/-- Two groups of tokens tile if each does, the second from where the first ends. -/
theorem tile_append {front back : List Token} {offset stop : Nat} :
    Tile (front ++ back) offset stop ↔ ∃ middle, Tile front offset middle ∧ Tile back middle stop := by
  induction front generalizing offset with
  | nil => simp [Tile]
  | cons leaf rest ih => simp [Tile, ih, and_assoc]

/-- Tokens without gaps end as many bytes behind their offset as their text takes. -/
theorem Tile.stop_eq {tokens : List Token} {offset stop : Nat} (h : Tile tokens offset stop) :
    stop = offset + (textOf tokens).utf8ByteSize := by
  induction tokens generalizing offset with
  | nil => exact h
  | cons leaf rest ih =>
    obtain ⟨rfl, h⟩ := h
    rw [ih h, textOf, String.utf8ByteSize_append, Token.stop, Nat.add_assoc]

/-- Tokens without gaps begin where the first of them does. -/
theorem Tile.start_eq {leaf : Token} {rest : List Token} {offset stop : Nat}
    (h : Tile (leaf :: rest) offset stop) : leaf.start = offset :=
  h.1

/-- The first token that is not trivia, with the trivia before it. -/
theorem exists_leading {tokens : List Token} {leaf : Token}
    (h : tokens.find? (!·.kind.isTrivia) = some leaf) :
    ∃ blanks rest, tokens = blanks ++ leaf :: rest ∧ leaf.kind.isTrivia = false := by
  obtain ⟨hleaf, blanks, rest, htokens, -⟩ := List.find?_eq_some_iff_append.1 h
  exact ⟨blanks, rest, htokens, by simpa using hleaf⟩

end Token

open Token

/-! ## The tokens of placed trees -/

namespace Located

mutual

/-- **The tokens of a placed tree** follow each other without gaps. -/
theorem Placed.tile : ∀ {part : Located} {index offset next : Nat},
    part.Placed index offset next → Tile part.tokens offset part.stop
  | .token leaf, _, _, _, h => ⟨h.1, rfl⟩
  | .node _ children, _, _, _, h => by
    obtain ⟨-, rfl, h⟩ := h
    exact h.tileOf

/-- The tokens of placed trees follow each other without gaps. -/
theorem PlacedAll.tileOf : ∀ {parts : List Located} {index offset next stop : Nat},
    PlacedAll parts index offset next stop → Tile (tokensOf parts) offset stop
  | [], _, _, _, _, h => h.2
  | _ :: _, _, _, _, _, h => by
    obtain ⟨_, hpart, hrest⟩ := h
    exact tile_append.2 ⟨_, hpart.tile, hrest.tileOf⟩

end

/-- The tokens of one placed tree stand together among those of several. -/
theorem PlacedAll.exists_tokensOf {part : Located} : ∀ {parts : List Located}
    {index offset next stop : Nat}, PlacedAll parts index offset next stop → part ∈ parts →
      ∃ before behind, tokensOf parts = before ++ part.tokens ++ behind ∧
        Tile before offset part.start ∧ Tile behind part.stop stop
  | [], _, _, _, _, _, hmem => absurd hmem List.not_mem_nil
  | first :: rest, index, offset, next, stop, h, hmem => by
    obtain ⟨middle, hfirst, hrest⟩ := h
    rcases List.mem_cons.1 hmem with rfl | hmem
    · exact ⟨[], tokensOf rest, rfl, hfirst.le.2.1, hrest.tileOf⟩
    · obtain ⟨before, behind, htokens, hbefore, hbehind⟩ := hrest.exists_tokensOf hmem
      refine ⟨first.tokens ++ before, behind, by simp [tokensOf, htokens], ?_, hbehind⟩
      exact tile_append.2 ⟨_, hfirst.tile, hbefore⟩

/-- **The tokens of a node** stand together among those of the tree, and reach from its begin to its
end. -/
theorem Placed.exists_tokens {part node : Located} {index offset next : Nat}
    (h : part.Placed index offset next) (hnode : node ∈ part.nodes) :
    ∃ before behind, part.tokens = before ++ node.tokens ++ behind ∧
      Tile before offset node.start ∧ Tile node.tokens node.start node.stop := by
  induction part using Located.induction generalizing index offset next with
  | token leaf => cases hnode
  | node info children ih =>
    rw [nodes, List.mem_cons, mem_nodesOf] at hnode
    rcases hnode with rfl | ⟨child, hchild, hnode⟩
    · obtain rfl : (Located.node info children).start = offset := h.le.2.1
      exact ⟨[], [], by simp, rfl, h.tile⟩
    · obtain ⟨-, -, hparts⟩ := h
      obtain ⟨first, last, hplaced, -⟩ := hparts.placed_of_mem hchild
      obtain ⟨before, behind, htokens, hbefore, hown⟩ := ih child hchild hplaced hnode
      obtain ⟨before', behind', htokens', hbefore', -⟩ := hparts.exists_tokensOf hchild
      refine ⟨before' ++ before, behind ++ behind', by simp [tokens, htokens, htokens'], ?_, hown⟩
      exact tile_append.2 ⟨_, hbefore', hbefore⟩

/-! ## Ranges without leading trivia -/

/-- **Trimmed range**: the range of an element without the trivia that it starts with. Where there is
nothing but trivia, it is the whole range. -/
def trimmed (part : Located) : Span :=
  ⟨((part.tokens.find? (!·.kind.isTrivia)).map Token.start).getD part.start, part.stop⟩

end Located

namespace Element

mutual

/-- Locating an element finds where its first token begins that is not trivia. -/
theorem content?_locate : ∀ (element : Element) (index offset : Nat),
    let part := (element.locate index offset).1
    part.content? = (part.tokens.find? (!·.kind.isTrivia)).map Token.start
  | .token kind _, _, _ => by
    cases h : kind.isTrivia <;> simp [locate, Located.content?, Located.tokens, h]
  | .node _ children, index, offset => contentOf_locateAll children (index + 1) offset

/-- Locating elements finds where their first token begins that is not trivia. -/
theorem contentOf_locateAll : ∀ (elements : List Element) (index offset : Nat),
    let parts := (locateAll elements index offset).1
    parts.findSome? Located.content? =
      ((Located.tokensOf parts).find? (!·.kind.isTrivia)).map Token.start
  | [], _, _ => rfl
  | element :: rest, index, offset => by
    simp only [locateAll, List.findSome?_cons, Located.tokensOf, List.find?_append]
    rw [content?_locate element, contentOf_locateAll rest]
    cases List.find? _ (element.locate index offset).1.tokens <;> rfl

end

mutual

/-- Locating an element finds this for every node below it. -/
theorem content?_of_mem_nodes : ∀ (element : Element) (index offset : Nat),
    ∀ node ∈ (element.locate index offset).1.nodes,
      node.content? = (node.tokens.find? (!·.kind.isTrivia)).map Token.start
  | .token _ _, _, _, _, h => by cases h
  | .node kind children, index, offset, _, h => by
    rcases List.mem_cons.1 h with rfl | h
    · exact content?_locate (.node kind children) index offset
    · exact content?_of_mem_nodesOf children (index + 1) offset _ h

/-- Locating elements finds this for every node below them. -/
theorem content?_of_mem_nodesOf : ∀ (elements : List Element) (index offset : Nat),
    ∀ node ∈ Located.nodesOf (locateAll elements index offset).1,
      node.content? = (node.tokens.find? (!·.kind.isTrivia)).map Token.start
  | [], _, _, _, h => by cases h
  | element :: rest, index, offset, _, h => by
    rcases List.mem_append.1 h with h | h
    · exact content?_of_mem_nodes element index offset _ h
    · exact content?_of_mem_nodesOf rest _ _ _ h

end

mutual

/-- The tokens of a located element have its text. -/
theorem textOf_tokens_locate : ∀ (element : Element) (index offset : Nat),
    Token.textOf (element.locate index offset).1.tokens = element.text
  | .token _ _, _, _ => String.append_empty
  | .node _ children, index, offset => textOf_tokensOf_locateAll children (index + 1) offset

/-- The tokens of located elements have their text. -/
theorem textOf_tokensOf_locateAll : ∀ (elements : List Element) (index offset : Nat),
    Token.textOf (Located.tokensOf (locateAll elements index offset).1) = textOf elements
  | [], _, _ => rfl
  | element :: rest, index, offset => by
    rw [locateAll, Located.tokensOf, Token.textOf_append, textOf_tokens_locate element,
      textOf_tokensOf_locateAll rest, textOf]

end

end Element

/-! ## Spans between tokens -/

namespace SyntaxTree

variable {tree : SyntaxTree} {span : Span} {inside : List Token}

/-- **Boundary**: an offset between two tokens of a tree, before the first or behind the last one. -/
def IsBoundary (tree : SyntaxTree) (offset : Nat) : Prop :=
  ∃ before behind, tree.root.tokens = before ++ behind ∧ offset = (textOf before).utf8ByteSize

/-- **Covering**: a span from the begin of the first to the end of the last of some tokens of a tree
that stand together. -/
def Covers (tree : SyntaxTree) (span : Span) (inside : List Token) : Prop :=
  ∃ before behind, tree.root.tokens = before ++ inside ++ behind ∧
    span.start = (textOf before).utf8ByteSize ∧
    span.stop = span.start + (textOf inside).utf8ByteSize

/-- The text of a tree is that of its tokens. -/
theorem text_eq (tree : SyntaxTree) : tree.text = textOf tree.root.tokens :=
  (tree.element.textOf_tokens_locate 0 0).symm

namespace Covers

/-- The ends of a span that covers tokens are boundaries. -/
theorem isBoundary (h : tree.Covers span inside) :
    tree.IsBoundary span.start ∧ tree.IsBoundary span.stop := by
  obtain ⟨before, behind, htokens, hstart, hstop⟩ := h
  refine ⟨⟨before, inside ++ behind, by rw [htokens, List.append_assoc], hstart⟩,
    before ++ inside, behind, htokens, ?_⟩
  rw [hstop, hstart, textOf_append, String.utf8ByteSize_append]

/-- A span that covers tokens lies in the text. -/
theorem bounds (h : tree.Covers span inside) :
    span.start ≤ span.stop ∧ span.stop ≤ tree.text.utf8ByteSize := by
  obtain ⟨before, behind, htokens, hstart, hstop⟩ := h
  rw [hstop, hstart, text_eq, htokens, textOf_append, textOf_append, String.utf8ByteSize_append,
    String.utf8ByteSize_append]
  exact ⟨Nat.le_add_right _ _, Nat.le_add_right _ _⟩

/-- **The slice of a span that covers tokens** is their text. -/
theorem slice (h : tree.Covers span inside) : span.slice tree.text = some (textOf inside) := by
  obtain ⟨before, behind, htokens, hstart, hstop⟩ := h
  have hspan : span = ⟨(textOf before).utf8ByteSize,
      (textOf before).utf8ByteSize + (textOf inside).utf8ByteSize⟩ := by
    rw [← hstart, ← hstop]
  rw [hspan, text_eq, htokens, textOf_append, textOf_append]
  exact Span.slice_append _ _ _

end Covers

/-- Tokens that stand together in a tree and tile are covered from their begin to their end. -/
theorem covers_of_tile {before behind : List Token} {start stop : Nat}
    (htokens : tree.root.tokens = before ++ inside ++ behind) (hbefore : Tile before 0 start)
    (hinside : Tile inside start stop) : tree.Covers ⟨start, stop⟩ inside :=
  ⟨before, behind, htokens, by rw [hbefore.stop_eq, Nat.zero_add], hinside.stop_eq⟩

/-- **The span of a token** covers the token. -/
theorem covers_token {leaf : Token} (h : leaf ∈ tree.root.tokens) :
    tree.Covers leaf.span [leaf] := by
  obtain ⟨before, behind, htokens⟩ := List.append_of_mem h
  have htile := tree.placed_root.tile
  rw [htokens] at htile
  obtain ⟨start, hbefore, hstart, -⟩ := tile_append.1 htile
  refine covers_of_tile (by rw [htokens, List.append_assoc]; rfl) (hstart ▸ hbefore) ⟨rfl, rfl⟩

/-- **The span of a node** is its range without the trivia that it starts with. -/
theorem span_eq_trimmed {node : Located} {info : NodeInfo} (hnode : node ∈ tree.root.nodes)
    (hinfo : node.info? = some info) : info.span = node.trimmed := by
  have hcontent := tree.element.content?_of_mem_nodes 0 0 node hnode
  cases node with
  | token leaf => cases hinfo
  | node own children =>
    cases hinfo
    rw [Located.trimmed, ← hcontent]
    rfl

/-- **The trimmed range of a node** covers its tokens from the first that is not trivia on, or all of
them if there is nothing but trivia. -/
theorem covers_trimmed {node : Located} (hnode : node ∈ tree.root.nodes) :
    (∃ blanks leaf rest, node.tokens = blanks ++ leaf :: rest ∧ leaf.kind.isTrivia = false ∧
        leaf.start = node.trimmed.start ∧ tree.Covers node.trimmed (leaf :: rest)) ∨
      ((∀ leaf ∈ node.tokens, leaf.kind.isTrivia = true) ∧
        node.trimmed = ⟨node.start, node.stop⟩ ∧ tree.Covers node.trimmed node.tokens) := by
  obtain ⟨before, behind, htokens, hbefore, hown⟩ := tree.placed_root.exists_tokens hnode
  cases hfind : node.tokens.find? (!·.kind.isTrivia) with
  | none =>
    have htrimmed : node.trimmed = ⟨node.start, node.stop⟩ := by rw [Located.trimmed, hfind]; rfl
    refine .inr ⟨by simpa using List.find?_eq_none.1 hfind, htrimmed, ?_⟩
    exact htrimmed ▸ covers_of_tile htokens hbefore hown
  | some leaf =>
    have htrimmed : node.trimmed = ⟨leaf.start, node.stop⟩ := by rw [Located.trimmed, hfind]; rfl
    obtain ⟨blanks, rest, hsplit, hleaf⟩ := exists_leading hfind
    refine .inl ⟨blanks, leaf, rest, hsplit, hleaf, by rw [htrimmed], ?_⟩
    rw [hsplit] at hown htokens
    obtain ⟨start, hblanks, hrest⟩ := tile_append.1 hown
    obtain rfl := hrest.start_eq
    have hall : tree.root.tokens = (before ++ blanks) ++ leaf :: rest ++ behind := by simp [htokens]
    rw [htrimmed]
    exact covers_of_tile hall (tile_append.2 ⟨_, hbefore, hblanks⟩) hrest

end SyntaxTree

end QuerySemantics
