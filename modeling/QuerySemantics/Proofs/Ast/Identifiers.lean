import QuerySemantics.Binding.Reference
import QuerySemantics.Proofs.Ast.Parts
import QuerySemantics.Proofs.Tree.Bare

/-!
# Identifiers of trees

Which names a tree mentions, and which of its identifier tokens each piece of it knows by its accessors.

## Main definitions

* `Element.names`: the names that the identifier tokens of an element stand for.
* `Located.tokens`: the tokens of a located tree.
* `Piece.identifiers`: the identifier tokens that the accessors of a piece find.

## Main results

* `Located.mem_tokens_of_identifiers`: the identifiers of a piece are identifier tokens of the tree.
* `SyntaxTree.mem_names`: a tree mentions the names of its identifier tokens.
-/

set_option autoImplicit false

namespace QuerySemantics

open Ast

/-! ## Tokens and names -/

/-- **Names** that the identifier tokens of an element stand for, in order. -/
def Element.names (element : Element) : List String :=
  element.leaves.filterMap fun leaf =>
    if leaf.1 = .identifier then some (Quoted.identifier leaf.2) else none

namespace Located

mutual

/-- **Tokens** of a located tree in order. -/
def tokens : Located → List Token
  | .token leaf => [leaf]
  | .node _ children => tokensOf children

/-- The tokens of several trees, one tree after the other. -/
def tokensOf : List Located → List Token
  | [] => []
  | part :: rest => part.tokens ++ tokensOf rest

end

/-- The tokens of several trees are the tokens of one of them. -/
theorem mem_tokensOf {leaf : Token} {parts : List Located} :
    leaf ∈ tokensOf parts ↔ ∃ part ∈ parts, leaf ∈ part.tokens := by
  induction parts with
  | nil => simp [tokensOf]
  | cons part rest ih => simp [tokensOf, ih]

/-- The tokens of a child are tokens of the node. -/
theorem mem_tokens_of_child {part child : Located} {leaf : Token} (hchild : child ∈ part.children)
    (h : leaf ∈ child.tokens) : leaf ∈ part.tokens := by
  cases part with
  | token _ => cases hchild
  | node info children => exact mem_tokensOf.2 ⟨child, hchild, h⟩

/-- The tokens of a node are tokens of the tree. -/
theorem mem_tokens_of_mem_nodes {part node : Located} {leaf : Token} (hnode : node ∈ part.nodes)
    (h : leaf ∈ node.tokens) : leaf ∈ part.tokens := by
  induction part using Located.induction with
  | token _ => cases hnode
  | node info children ih =>
    rw [nodes, List.mem_cons, mem_nodesOf] at hnode
    rcases hnode with rfl | ⟨child, hchild, hnode⟩
    · exact h
    · exact mem_tokens_of_child hchild (ih child hchild hnode)

end Located

namespace Element

mutual

/-- Locating an element keeps its leaves. -/
theorem tokens_locate : ∀ (element : Element) (index offset : Nat),
    (element.locate index offset).1.tokens.map (fun leaf => (leaf.kind, leaf.text)) = element.leaves
  | .token _ _, _, _ => rfl
  | .node _ children, index, offset => tokensOf_locateAll children (index + 1) offset

/-- Locating elements keeps their leaves. -/
theorem tokensOf_locateAll : ∀ (elements : List Element) (index offset : Nat),
    (Located.tokensOf (locateAll elements index offset).1).map (fun leaf => (leaf.kind, leaf.text)) =
      leavesOf elements
  | [], _, _ => rfl
  | element :: rest, index, offset => by
    rw [locateAll, Located.tokensOf, leavesOf, List.map_append, tokens_locate element,
      tokensOf_locateAll rest]

end

end Element

/-- **A tree mentions the names of its identifier tokens.** -/
theorem SyntaxTree.mem_names {tree : SyntaxTree} {leaf : Token} (h : leaf ∈ tree.root.tokens)
    (hkind : leaf.kind = .identifier) : leaf.ident ∈ tree.element.names := by
  have hleaf : (leaf.kind, leaf.text) ∈ tree.element.leaves := by
    rw [← tree.element.tokens_locate 0 0]
    exact List.mem_map_of_mem h
  exact List.mem_filterMap.2 ⟨_, hleaf, if_pos hkind⟩

/-! ## Identifiers of pieces -/

namespace Piece

/-- **Identifiers** of a piece: the identifier tokens that its accessors find, those of its alias, its
type name and its column names included. -/
def identifiers : Piece → List Token
  | .expr (.name _ ident) | .expr (.parameter _ ident) | .expr (.property _ _ ident)
  | .expr (.method _ _ ident _) | .expr (.call _ ident _) | .expr (.countAll _ ident) => ident.toList
  | .expr (.cast _ _ target) => (target.bind TypeName.ident).toList
  | .typeName it => it.ident.toList
  | .table (.named _ ident correlation) => ident.toList ++ (correlation.bind Alias.ident).toList
  | .table (.derived _ _ ident) => ident.toList
  | .selectItem (.column _ _ correlation) => (correlation.bind Alias.ident).toList
  | .selectItem (.wildcard _ ident) => ident.toList
  | .aliasClause it => it.ident.toList
  | .commonTable (.mk _ ident list _) => ident.toList ++ list.toList.flatMap ColumnNames.idents
  | .columnNames it => it.idents
  | _ => []

/-- The first token of a kind is one of the pieces, and is of the kind. -/
theorem token_mem_of_tokenOf? {kind : Kind} {pieces : List Piece} {leaf : Token}
    (h : tokenOf? kind pieces = some leaf) : .token leaf ∈ pieces ∧ leaf.kind = kind := by
  have hunwrap : ∀ {piece : Piece} {leaf : Token}, piece.token? = some leaf → piece = .token leaf := by
    intro piece leaf h
    cases piece <;> cases h
    rfl
  exact ⟨mem_of_filterMap hunwrap (List.mem_of_find?_eq_some h), by simpa using List.find?_some h⟩

/-- A piece is one of several, and the token is an identifier of it; or it is that token. -/
def Holds (pieces : List Piece) (leaf : Token) : Prop :=
  (.token leaf ∈ pieces ∧ leaf.kind = .identifier) ∨ ∃ piece ∈ pieces, leaf ∈ piece.identifiers

/-- What an accessor finds among the pieces of a node has its identifiers from there. -/
theorem Holds.of_findSome? {α : Type} (wrap : α → Piece) {access : Piece → Option α}
    (haccess : ∀ {piece it}, access piece = some it → piece = wrap it) {pieces : List Piece}
    {leaf : Token} {it : α} (hit : pieces.findSome? access = some it)
    (h : leaf ∈ (wrap it).identifiers) : Holds pieces leaf :=
  .inr ⟨wrap it, mem_of_findSome? haccess hit, h⟩

/-- **Where identifiers come from**: those of a node are tokens of its own, or identifiers of one of its
pieces. -/
theorem holds_of_ofNode {info : NodeInfo} {pieces : List Piece} {leaf : Token}
    (h : leaf ∈ (ofNode info pieces).identifiers) : Holds pieces leaf := by
  have hident : leaf ∈ (tokenOf? .identifier pieces).toList → Holds pieces leaf :=
    fun h => .inl (token_mem_of_tokenOf? (Option.mem_toList.1 h))
  have halias : leaf ∈ ((pieces.findSome? alias?).bind Alias.ident).toList → Holds pieces leaf := by
    intro h
    obtain ⟨it, hit, hleaf⟩ := Option.bind_eq_some_iff.1 (Option.mem_toList.1 h)
    refine .of_findSome? .aliasClause (fun {piece it} h => ?_) hit (Option.mem_toList.2 hleaf)
    cases piece <;> cases h
    rfl
  have htype : leaf ∈ ((pieces.findSome? typeName?).bind TypeName.ident).toList →
      Holds pieces leaf := by
    intro h
    obtain ⟨it, hit, hleaf⟩ := Option.bind_eq_some_iff.1 (Option.mem_toList.1 h)
    refine .of_findSome? .typeName (fun {piece it} h => ?_) hit (Option.mem_toList.2 hleaf)
    cases piece <;> cases h
    rfl
  have hlist : leaf ∈ (pieces.findSome? columnNames?).toList.flatMap ColumnNames.idents →
      Holds pieces leaf := by
    intro h
    obtain ⟨it, hit, hleaf⟩ := List.mem_flatMap.1 h
    refine .of_findSome? .columnNames (fun {piece it} h => ?_) (Option.mem_toList.1 hit) hleaf
    cases piece <;> cases h
    rfl
  have hlisted : leaf ∈ (pieces.filterMap token?).filter (·.kind == .identifier) →
      Holds pieces leaf := by
    intro h
    obtain ⟨hleaf, hkind⟩ := List.mem_filter.1 h
    refine .inl ⟨mem_of_filterMap (fun {piece leaf} h => ?_) hleaf, by simpa using hkind⟩
    cases piece <;> cases h
    rfl
  unfold ofNode at h
  split at h
  all_goals
    simp only [identifiers, List.mem_append, List.not_mem_nil] at h
  all_goals
    first
    | exact hident h
    | exact halias h
    | exact htype h
    | exact hlisted h
    | exact h.elim hident halias
    | exact h.elim hident hlist

end Piece

/-- **The identifiers of a piece** are identifier tokens of the tree that it was read from. -/
theorem Located.mem_tokens_of_identifiers {part : Located} {leaf : Token}
    (h : leaf ∈ part.piece.identifiers) : leaf ∈ part.tokens ∧ leaf.kind = .identifier := by
  induction part using Located.induction with
  | token own => cases h
  | node info children ih =>
    rw [piece, pieces_eq_map] at h
    rcases Piece.holds_of_ofNode h with ⟨hleaf, hkind⟩ | ⟨inner, hinner, hleaf⟩
    · obtain ⟨child, hchild, hpiece⟩ := List.mem_map.1 hleaf
      have hown : child = .token leaf := by
        cases child with
        | token own => exact congrArg Located.token (Piece.token.inj hpiece)
        | node own parts =>
          have hinfo := (Located.node own parts).info?_piece
          rw [hpiece] at hinfo
          cases hinfo
      refine ⟨mem_tokens_of_child hchild ?_, hkind⟩
      rw [hown, tokens]
      exact List.mem_singleton_self leaf
    · obtain ⟨child, hchild, rfl⟩ := List.mem_map.1 hinner
      exact ⟨mem_tokens_of_child hchild (ih child hchild hleaf).1, (ih child hchild hleaf).2⟩

end QuerySemantics
