import QuerySemantics.Proofs.Ast.Parts
import QuerySemantics.Proofs.Bound.Naming

/-!
# Licensed trees

A node licenses a child that its accessors know: a part that binding goes on to, the name or limit of
its form, the identifier that it is known by, or a token that is no identifier. In a tree whose nodes
license all of their children nothing is left out when it is bound, and no node has two identifiers of
its own, apart from lists of column names.

## Main definitions

* `Piece.ownIdent?`: the identifier that a piece is known by, where it stands in its own node.
* `Piece.Licenses`, `Located.Licensed`: children that a piece knows, and trees of them only.

## Main results

* `Located.Licensed.reached`: binding comes to every node of a licensed tree, but for names and limits.
* `Located.isChain_of_touching`: how the nodes around a token lie in each other.
* `Located.text_of_isChain`: the nodes around an element with text have text.
-/

set_option autoImplicit false

namespace QuerySemantics

open Ast

namespace Piece

/-! ## Licensed children -/

/-- **Own identifier**: the one that stands in the node of a piece itself, not in that of an alias or of
a list. -/
def ownIdent? : Piece → Option Token
  | .expr it => it.ident?
  | .table (.named _ ident _) | .table (.derived _ _ ident) => ident
  | .selectItem (.wildcard _ ident) => ident
  | .aliasClause it => it.ident
  | .typeName it => it.ident
  | .commonTable (.mk _ ident _ _) => ident
  | _ => none

/-- Whether a piece is a name or a limit that belongs to the node around it, and is no part of it. -/
def isAttached : Piece → Bool
  | .aliasClause _ | .typeName _ | .columnNames _ | .top _ => true
  | _ => false

/-- **Licensing**: a child is what the accessors of the node find in its place. -/
inductive Licenses : Piece → Piece → Prop where
  | word {piece : Piece} {leaf : Token} : leaf.kind ≠ .identifier → Licenses piece (.token leaf)
  | ident {piece : Piece} {leaf : Token} :
      piece.ownIdent? = some leaf → Licenses piece (.token leaf)
  | listed {names : ColumnNames} {leaf : Token} :
      leaf ∈ names.idents → Licenses (.columnNames names) (.token leaf)
  | visited {piece part : Piece} : part ∈ piece.visited → Licenses piece part
  | columnAlias {info : NodeInfo} {value : Option Expr} {name : Alias} :
      Licenses (.selectItem (.column info value (some name))) (.aliasClause name)
  | tableAlias {info : NodeInfo} {ident : Token} {name : Alias} :
      Licenses (.table (.named info (some ident) (some name))) (.aliasClause name)
  | target {info : NodeInfo} {operand : Option Expr} {name : TypeName} :
      Licenses (.expr (.cast info operand (some name))) (.typeName name)
  | columns {info : NodeInfo} {ident : Token} {names : ColumnNames} {body : Option Query} :
      Licenses (.commonTable (.mk info (some ident) (some names) body)) (.columnNames names)
  | limit {info : NodeInfo} {distinct : Bool} {limit : Top} {items : List SelectItem} :
      Licenses (.selectClause (.mk info distinct (some limit) items)) (.top limit)

/-- Binding goes on to nothing from a name or a limit. -/
theorem visited_of_isAttached {piece : Piece} (h : piece.isAttached = true) : piece.visited = [] := by
  cases piece <;> first | rfl | cases h

/-- A licensed child is a token, or a part that binding goes on to, or a name or a limit. -/
theorem Licenses.cases_on_form {piece child : Piece} (h : piece.Licenses child) :
    (∃ leaf, child = .token leaf) ∨ child ∈ piece.visited ∨ child.isAttached = true := by
  cases h with
  | word | ident | listed => exact .inl ⟨_, rfl⟩
  | visited hpart => exact .inr (.inl hpart)
  | columnAlias | tableAlias | target | columns | limit => exact .inr (.inr rfl)

end Piece

namespace Located

/-! ## Licensed trees -/

/-- **Licensed**: every node of the tree licenses all of its children. -/
def Licensed (part : Located) : Prop :=
  ∀ node ∈ part.nodes, ∀ child ∈ node.children, node.piece.Licenses child.piece

/-- **Nothing is left out**: binding comes to every node of a licensed tree that is no name or limit.

**Proof sketch.** By induction on the tree. Binding goes on from a node to each of its children, apart
from names and limits, and below these there is nothing else. -/
theorem Licensed.reached {part node : Located} (h : part.Licensed) (hnode : node ∈ part.nodes)
    (hform : node.piece.isAttached = false) : part.piece.Reached node.piece := by
  induction part using Located.induction with
  | token leaf => cases hnode
  | node info children ih =>
    rw [nodes, List.mem_cons, mem_nodesOf] at hnode
    rcases hnode with rfl | ⟨child, hchild, hnode⟩
    · exact .refl _
    · have hself : Located.node info children ∈ (Located.node info children).nodes := by
        rw [nodes]
        exact List.mem_cons_self
      have hchildren : child.Licensed := fun inner hinner =>
        h inner (mem_nodes_of_child hchild hinner)
      have hway := ih child hchild hchildren hnode
      rcases (h _ hself child hchild).cases_on_form with ⟨leaf, hleaf⟩ | hpart | hattached
      · obtain ⟨own, parts, rfl⟩ := exists_info_of_mem_nodes hnode
        rw [hleaf] at hway
        rcases Piece.reached_iff.1 hway with heq | ⟨_, hnone, -⟩
        · have hinfo := (Located.node own parts).info?_piece
          rw [heq] at hinfo
          cases hinfo
        · cases hnone
      · exact .step hpart hway
      · rcases Piece.reached_iff.1 hway with heq | ⟨_, hnone, -⟩
        · rw [heq, hattached] at hform
          cases hform
        · rw [Piece.visited_of_isAttached hattached] at hnone
          cases hnone

/-! ## The nodes around a token -/

mutual

/-- **Nodes around a token** lie in each other: the first one has the token among its children, and each
further one the node before it. They are nodes of the tree. -/
theorem isChain_of_touching {root : Located} {offset : Nat} {leaf : Token} {found : List Located} :
    ∀ {part : Located} {around : List Located}, (leaf, found) ∈ touching offset around part →
      (part :: around).IsChain (fun inner outer => inner ∈ outer.children) →
      (∀ node ∈ part.nodes, node ∈ root.nodes) → (∀ node ∈ around, node ∈ root.nodes) →
        (.token leaf :: found).IsChain (fun inner outer => inner ∈ outer.children) ∧
          ∀ node ∈ found, node ∈ root.nodes
  | .token own, around, h, hchain, _, haround => by
    simp only [touching] at h
    split at h
    · obtain ⟨rfl, rfl⟩ := Prod.mk.inj (List.mem_singleton.1 h)
      exact ⟨hchain, haround⟩
    · cases h
  | .node info children, around, h, hchain, hnodes, haround => by
    have hself : Located.node info children ∈ root.nodes :=
      hnodes _ (by rw [nodes]; exact List.mem_cons_self)
    exact isChain_of_touchingAny h (fun _ hchild => hchild) hchain
      (fun child hchild node hnode => hnodes node (mem_nodes_of_child hchild hnode))
      (List.forall_mem_cons.2 ⟨hself, haround⟩)

/-- Nodes around a token of one of several elements lie in each other. -/
theorem isChain_of_touchingAny {root outer : Located} {offset : Nat} {leaf : Token}
    {found : List Located} : ∀ {parts : List Located} {around : List Located},
      (leaf, found) ∈ touchingAny offset (outer :: around) parts →
      (∀ part ∈ parts, part ∈ outer.children) →
      (outer :: around).IsChain (fun inner outer => inner ∈ outer.children) →
      (∀ part ∈ parts, ∀ node ∈ part.nodes, node ∈ root.nodes) →
      (∀ node ∈ outer :: around, node ∈ root.nodes) →
        (.token leaf :: found).IsChain (fun inner outer => inner ∈ outer.children) ∧
          ∀ node ∈ found, node ∈ root.nodes
  | [], _, h, _, _, _, _ => absurd h List.not_mem_nil
  | part :: rest, around, h, hparts, hchain, hnodes, haround => by
    rw [List.forall_mem_cons] at hparts hnodes
    rcases List.mem_append.1 h with h | h
    · exact isChain_of_touching h (.cons_cons hparts.1 hchain) hnodes.1 haround
    · exact isChain_of_touchingAny h hparts.2 hchain hnodes.2 haround

end

mutual

/-- A token at an offset has text. -/
theorem text_of_touching {offset : Nat} {leaf : Token} {found : List Located} :
    ∀ {part : Located} {around : List Located}, (leaf, found) ∈ touching offset around part →
      leaf.text ≠ ""
  | .token own, around, h => by
    simp only [touching] at h
    split at h
    · rename_i htext
      obtain ⟨rfl, -⟩ := Prod.mk.inj (List.mem_singleton.1 h)
      exact htext.1
    · cases h
  | .node _ _, _, h => text_of_touchingAny h

/-- A token of one of several elements at an offset has text. -/
theorem text_of_touchingAny {offset : Nat} {leaf : Token} {found : List Located} :
    ∀ {parts around : List Located}, (leaf, found) ∈ touchingAny offset around parts → leaf.text ≠ ""
  | [], _, h => absurd h List.not_mem_nil
  | _ :: _, _, h => (List.mem_append.1 h).elim text_of_touching text_of_touchingAny

end

/-- **The nodes around an element with text** have text. -/
theorem text_of_isChain {root : Located} {index offset next : Nat} (hroot : root.Placed index offset next) :
    ∀ {part : Located} {around : List Located},
      (part :: around).IsChain (fun inner outer => inner ∈ outer.children) →
      (∀ node ∈ around, node ∈ root.nodes) → part.start < part.stop →
        ∀ node ∈ around, node.start < node.stop
  | _, [], _, _, _, _, hnode => absurd hnode List.not_mem_nil
  | _, outer :: rest, hchain, hnodes, htext, inner, hinner => by
    rw [List.isChain_cons_cons] at hchain
    rw [List.forall_mem_cons] at hnodes
    obtain ⟨first, last, hplaced, -⟩ := hroot.placed_of_mem hnodes.1
    obtain ⟨info, children, rfl⟩ := exists_info_of_mem_nodes hnodes.1
    obtain ⟨-, -, -, -, -, hstart, hstop⟩ := hplaced.2.2.placed_of_mem hchain.1
    have houter : (Located.node info children).start < (Located.node info children).stop := by
      change info.start < info.stop
      exact Nat.lt_of_le_of_lt hstart (Nat.lt_of_lt_of_le htext hstop)
    rcases List.mem_cons.1 hinner with rfl | hinner
    · exact houter
    · exact text_of_isChain hroot hchain.2 hnodes.2 houter inner hinner

end Located

end QuerySemantics
