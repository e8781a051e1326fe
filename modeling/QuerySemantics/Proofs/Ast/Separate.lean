import QuerySemantics.Proofs.Ast.Apart

/-!
# Separate parts

In every tree the parts of a node that share a number are one and the same. That a part is visited
twice happens only in a doubled `CASE`, and only to an expression.

## Main definitions

* `Piece.yields`: the pieces that stand for tables or entries of a select list.
* `Piece.Separate`: parts that share a number are the same, and if visited twice, yield nothing.
* `Piece.Separated`: the same of several pieces, and of all that they reach.

## Main results

* `Located.Placed.allSeparate`: the parts of a located tree are separate, at every node.
-/

set_option autoImplicit false

namespace QuerySemantics

open Ast

namespace Piece

/-- Whether a piece stands for table references or entries of a select list. -/
def yields : Piece → Bool
  | .table _ | .fromClause _ | .selectItem _ | .selectClause _ => true
  | _ => false

/-- **Separate**: no part covers the number of the piece; parts that cover a number in common are the
same; and one that is visited twice yields nothing. -/
structure Separate (piece : Piece) : Prop where
  own : ∀ part ∈ piece.visited, ∀ number, piece.index? = some number → ¬part.Covers number
  parts : ∀ part ∈ piece.visited, ∀ other ∈ piece.visited, ∀ number, part.Covers number →
    other.Covers number → part = other
  twice : piece.visited.Pairwise fun part other => part = other → part.yields = false

/-- **Separated**: all that some pieces reach is separate, and the pieces are to each other as the
parts of a separate piece. -/
structure Separated (pieces : List Piece) : Prop where
  each : ∀ piece ∈ pieces, ∀ inner, piece.Reached inner → inner.Separate
  parts : ∀ part ∈ pieces, ∀ other ∈ pieces, ∀ number, part.Covers number →
    other.Covers number → part = other
  twice : pieces.Pairwise fun part other => part = other → part.yields = false

/-- The parts of a piece are separated. -/
theorem Separated.visited {piece : Piece} (h : ∀ inner, piece.Reached inner → inner.Separate) :
    Separated piece.visited where
  each _ hpart _ hinner := h _ (.step hpart hinner)
  parts := (h piece (.refl piece)).parts
  twice := (h piece (.refl piece)).twice

/-- What is left of separated pieces without the first is separated. -/
theorem Separated.of_cons {piece : Piece} {rest : List Piece} (h : Separated (piece :: rest)) :
    Separated rest where
  each part hpart := h.each part (List.mem_cons_of_mem _ hpart)
  parts part hpart other hother :=
    h.parts part (List.mem_cons_of_mem _ hpart) other (List.mem_cons_of_mem _ hother)
  twice := (List.pairwise_cons.1 h.twice).2

/-- A doubled `CASE` goes on to expressions and labels only. -/
theorem yields_of_isDoubled {piece part : Piece} (h : piece.isDoubled = true)
    (hpart : part ∈ piece.visited) : part.yields = false := by
  unfold isDoubled at h
  split at h
  · rename_i info input labels otherwise
    have hvisited : Piece.visited (.expr (.cases info (some input) labels (some otherwise))) =
        .expr input :: labels.map .caseLabel ++ [.expr otherwise] :=
      visited_eq_parts (fun _ => nofun) rfl
    rw [hvisited] at hpart
    simp only [List.cons_append, List.mem_cons, List.mem_append, List.mem_map, List.not_mem_nil,
      or_false] at hpart
    rcases hpart with rfl | ⟨label, -, rfl⟩ | rfl <;> rfl
  · cases h

end Piece

namespace Located

/-- **The parts of a node are separate**, as each is read from a child of its own. -/
theorem Placed.separate {info : NodeInfo} {children : List Located} {index offset next : Nat}
    (h : (Located.node info children).Placed index offset next) :
    (Located.node info children).piece.Separate := by
  have hplaced := id h
  obtain ⟨-, -, hall⟩ := h
  have hpart : ∀ part ∈ (Located.node info children).piece.visited, ∃ child ∈ children,
      child.piece = part ∧ ∀ number, part.Covers number →
        ∃ node ∈ child.nodes, node.index? = some number := by
    intro part hpart
    obtain ⟨child, hchild, rfl⟩ := exists_child_of_mem_parts (Piece.mem_parts_of_mem_visited hpart)
    exact ⟨child, hchild, rfl, fun number => exists_node_of_covers⟩
  refine ⟨fun part hvisited number hnumber hcovers => ?_,
    fun part hvisited other hvisited' number hcovers hcovers' => ?_, ?_⟩
  · obtain ⟨child, hchild, -, hcovered⟩ := hpart part hvisited
    obtain ⟨node, hnode, hindex⟩ := hcovered number hcovers
    obtain ⟨own, hown, rfl⟩ := Option.map_eq_some_iff.1 hindex
    rw [index?_piece] at hnumber
    exact hplaced.index_ne hchild hnode hown (Option.some.inj hnumber).symm
  · obtain ⟨child, hchild, rfl, hcovered⟩ := hpart part hvisited
    obtain ⟨child', hchild', rfl, hcovered'⟩ := hpart other hvisited'
    obtain ⟨node, hnode, hnumber⟩ := hcovered number hcovers
    obtain ⟨node', hnode', hnumber'⟩ := hcovered' number hcovers'
    rw [hall.eq_of_index hchild hchild' hnode hnode' hnumber hnumber']
  · cases hdoubled : (Located.node info children).piece.isDoubled with
    | true =>
      refine List.pairwise_of_forall_mem_list fun part hvisited _ _ _ => ?_
      exact Piece.yields_of_isDoubled hdoubled hvisited
    | false =>
      have hnodup := (Piece.nodup_parts hall.pairwise_index hdoubled).sublist
        (Piece.visited_sublist_parts _)
      exact hnodup.imp fun hne heq => absurd heq hne

/-- **All parts are separate** in a located tree. -/
theorem Placed.allSeparate {part : Located} {index offset next : Nat}
    (h : part.Placed index offset next) (inner : Piece) (hreached : part.piece.Reached inner) :
    inner.Separate := by
  cases hinfo : inner.info? with
  | none =>
    have hvisited : inner.visited = [] := by
      cases inner with
      | token leaf => rfl
      | _ => cases hinfo
    exact ⟨by simp [hvisited], by simp [hvisited], by simp [hvisited]⟩
  | some info =>
    obtain ⟨node, hnode, rfl⟩ := exists_node_of_reached hreached hinfo
    obtain ⟨own, children, rfl⟩ := exists_info_of_mem_nodes hnode
    obtain ⟨_, _, hplaced, -⟩ := h.placed_of_mem hnode
    exact hplaced.separate

end Located

end QuerySemantics
