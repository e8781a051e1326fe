import QuerySemantics.Proofs.Ast.AlikeReading
import QuerySemantics.Tree.Basic

/-!
# Shifted trees

An element located somewhere else is the same tree with other numbers and offsets: each number and each
offset is moved by as much as those of the whole.

## Main definitions

* `Span.shift`, `NodeInfo.shift`, `Located.shift`: moving spans, nodes and trees.
* `Likeness.shift`: a tree and the same tree moved.

## Main results

* `Element.locate_shift`: locating an element elsewhere moves it.
* `Located.alike_shift`: a tree and the same tree moved are alike.
-/

set_option autoImplicit false

namespace QuerySemantics

/-! ## Moving positions -/

/-- A span moved by a number of bytes. -/
def Span.shift (offset : Nat) (span : Span) : Span :=
  ⟨span.start + offset, span.stop + offset⟩

/-- A token moved by a number of bytes. -/
def Token.shift (offset : Nat) (token : Token) : Token :=
  { token with start := token.start + offset }

/-- A node moved by `count` numbers and `offset` bytes. -/
def NodeInfo.shift (count offset : Nat) (info : NodeInfo) : NodeInfo :=
  { info with
    index := info.index + count
    start := info.start + offset
    stop := info.stop + offset
    content := info.content.map (· + offset) }

/-- A diagnostic moved by a number of bytes. -/
def Diagnostic.shift (offset : Nat) (it : Diagnostic) : Diagnostic :=
  { it with span := it.span.shift offset }

/-- The end of a token is shifted with it. -/
theorem Token.stop_shift (offset : Nat) (token : Token) :
    (token.shift offset).stop = token.stop + offset := by
  simp only [Token.stop, Token.shift]
  omega

/-- The span of a token is shifted with it. -/
theorem Token.span_of_shift {offset : Nat} {token token' : Token} (h : token' = token.shift offset) :
    token'.span = token.span.shift offset := by
  rw [h, Token.span, Token.stop_shift]
  rfl

/-- The span of a node is shifted with it. -/
theorem NodeInfo.span_of_shift {count offset : Nat} {info info' : NodeInfo}
    (h : info' = info.shift count offset) : info'.span = info.span.shift offset := by
  obtain ⟨kind, index, start, stop, content⟩ := info
  rw [h]
  cases content <;> rfl

namespace Located

/-! ## Moving trees -/

mutual

/-- **A tree moved** by `count` numbers and `offset` bytes. -/
def shift (count offset : Nat) : Located → Located
  | .token leaf => .token (leaf.shift offset)
  | .node info children => .node (info.shift count offset) (shiftAll count offset children)

/-- Several trees moved. -/
def shiftAll (count offset : Nat) : List Located → List Located
  | [] => []
  | part :: rest => part.shift count offset :: shiftAll count offset rest

end

variable {count offset : Nat}

/-- Trees are shifted one by one. -/
theorem shiftAll_eq_map (parts : List Located) :
    shiftAll count offset parts = parts.map (shift count offset) := by
  induction parts with
  | nil => rfl
  | cons part rest ih => rw [shiftAll, ih, List.map_cons]

/-- The start of a tree is shifted with it. -/
theorem start_shift (part : Located) : (part.shift count offset).start = part.start + offset := by
  cases part <;> rfl

/-- The end of a tree is shifted with it. -/
theorem stop_shift (part : Located) : (part.shift count offset).stop = part.stop + offset := by
  cases part with
  | token leaf => exact leaf.stop_shift offset
  | node info children => rfl

/-- The start of the text without trivia is shifted with the tree. -/
theorem content?_shift (part : Located) :
    (part.shift count offset).content? = part.content?.map (· + offset) := by
  cases part with
  | token leaf =>
    simp only [shift, content?, Token.shift]
    split <;> rfl
  | node info children => rfl

mutual

/-- A tree moved consists of the same. -/
theorem element_shift : ∀ part : Located, (part.shift count offset).element = part.element
  | .token _ => rfl
  | .node info children => congrArg (Element.node info.kind) (elementsOf_shift children)

/-- Trees moved consist of the same. -/
theorem elementsOf_shift : ∀ parts : List Located,
    elementsOf (shiftAll count offset parts) = elementsOf parts
  | [] => rfl
  | part :: rest => by rw [shiftAll, elementsOf, element_shift part, elementsOf_shift rest, elementsOf]

end

/-- The information on a node is shifted with it. -/
theorem info?_shift (part : Located) :
    (part.shift count offset).info? = part.info?.map (NodeInfo.shift count offset) := by
  cases part <;> rfl

/-- The end of trees is shifted with them. -/
theorem stopOf_shift (start : Nat) (parts : List Located) :
    stopOf (start + offset) (parts.map (shift count offset)) = stopOf start parts + offset := by
  unfold stopOf
  rw [List.getLast?_map]
  cases parts.getLast? with
  | none => rfl
  | some part => exact part.stop_shift

/-- The start of the text of trees is shifted with them. -/
theorem findSome?_content?_shift (parts : List Located) :
    (parts.map (shift count offset)).findSome? content? =
      (parts.findSome? content?).map (· + offset) := by
  induction parts with
  | nil => rfl
  | cons part rest ih =>
    rw [List.map_cons, List.findSome?_cons, List.findSome?_cons, content?_shift, ih]
    cases part.content? <;> rfl

mutual

/-- The nodes of a tree moved are its nodes moved. -/
theorem nodes_shift : ∀ part : Located,
    (part.shift count offset).nodes = part.nodes.map (shift count offset)
  | .token _ => rfl
  | .node info children => by
    rw [shift, nodes, nodes, nodesOf_shift children]
    rfl

/-- The nodes of several trees moved. -/
theorem nodesOf_shift : ∀ parts : List Located,
    nodesOf (shiftAll count offset parts) = (nodesOf parts).map (shift count offset)
  | [] => rfl
  | part :: rest => by
    rw [shiftAll, nodesOf, nodesOf, nodes_shift part, nodesOf_shift rest, List.map_append]

end

end Located

namespace Element

mutual

/-- **Locating an element elsewhere** moves its tree. -/
theorem locate_shift (count offset : Nat) : ∀ (element : Element) (index start : Nat),
    element.locate (index + count) (start + offset) =
      ((element.locate index start).1.shift count offset, (element.locate index start).2 + count)
  | .token kind text, index, start => rfl
  | .node kind children, index, start => by
    have hchildren := locateAll_shift count offset children (index + 1) start
    rw [Nat.add_right_comm index 1 count] at hchildren
    rw [locate, locate, hchildren]
    simp only [Located.shift, Located.shiftAll_eq_map, NodeInfo.shift, Located.stopOf_shift,
      Located.findSome?_content?_shift]

/-- Locating several elements elsewhere moves their trees. -/
theorem locateAll_shift (count offset : Nat) : ∀ (elements : List Element) (index start : Nat),
    locateAll elements (index + count) (start + offset) =
      ((locateAll elements index start).1.map (Located.shift count offset),
        (locateAll elements index start).2 + count)
  | [], index, start => rfl
  | element :: rest, index, start => by
    rw [locateAll, locateAll, locate_shift count offset element index start]
    simp only [Located.stop_shift]
    rw [locateAll_shift count offset rest]
    rfl

end

end Element

/-! ## Alike -/

/-- **Shifted trees**: nodes correspond to the same nodes moved. -/
def Likeness.shift (count offset : Nat) : Likeness where
  info info info' := info' = info.shift count offset
  token leaf leaf' := leaf' = leaf.shift offset
  qualifies _ _ := True
  kind_eq := fun h => h ▸ rfl
  token_kind_eq := fun h => h ▸ rfl
  token_text_eq := fun h => h ▸ rfl
  follows_iff := fun {token token' info info'} _ htoken hinfo => by
    rw [htoken, hinfo, Token.stop_shift]
    exact Nat.add_le_add_iff_right

namespace Located

variable {count offset : Nat}

mutual

/-- **A tree and the same tree moved** are alike. -/
theorem alike_shift : ∀ part : Located,
    part.Alike (Likeness.shift count offset) (part.shift count offset)
  | .token _ => .token rfl
  | .node _ children => .node rfl (fun _ _ _ _ => trivial) (alike_shiftAll children)

/-- Several trees and the same trees moved are alike one by one. -/
theorem alike_shiftAll : ∀ parts : List Located,
    List.Forall₂ (Alike (Likeness.shift count offset)) parts (shiftAll count offset parts)
  | [] => .nil
  | part :: rest => .cons (alike_shift part) (alike_shiftAll rest)

end

end Located

/-- An element located first and the same element located elsewhere are alike. -/
theorem Element.alike_locate (element : Element) (count offset : Nat) :
    (element.locate 1 0).1.Alike (Likeness.shift count offset) (element.locate (1 + count) offset).1 := by
  have hlocate : (element.locate (1 + count) offset).1 = (element.locate 1 0).1.shift count offset := by
    rw [← Nat.zero_add offset, element.locate_shift, Nat.zero_add]
  exact hlocate ▸ Located.alike_shift _

/-! ## Walks through shifted trees -/

namespace Located

variable {count offset : Nat}

/-- The node inside the parentheses of a node moved. -/
theorem coreInfo_shift (part : Located) (info : NodeInfo) :
    (part.shift count offset).coreInfo (info.shift count offset) =
      (part.coreInfo info).shift count offset := by
  have halike : part.piece.Alike (Likeness.shift count offset) (part.shift count offset).piece :=
    part.alike_shift.piece
  unfold coreInfo
  generalize part.piece = piece at halike
  generalize (part.shift count offset).piece = piece' at halike
  cases halike with
  | expr h => exact h.core.info
  | query h => exact h.core.info
  | table h => exact h.core.info
  | _ => rfl

mutual

/-- The tokens at an offset within a tree moved. -/
theorem touching_shift (position : Nat) (outer around : List Located) : ∀ part : Located,
    touching (position + offset) (around.map (shift count offset) ++ outer) (part.shift count offset) =
      (touching position around part).map fun found =>
        (found.1.shift offset, found.2.map (shift count offset) ++ outer)
  | .token leaf => by
    have htext : (leaf.shift offset).text = leaf.text := rfl
    have hstart : (leaf.shift offset).start = leaf.start + offset := rfl
    simp only [shift, touching, Token.stop_shift, htext, hstart, Nat.add_le_add_iff_right]
    split <;> rfl
  | .node info children => touchingAny_shift position outer (.node info children :: around) children

/-- The tokens at an offset within several trees moved. -/
theorem touchingAny_shift (position : Nat) (outer around : List Located) : ∀ parts : List Located,
    touchingAny (position + offset) (around.map (shift count offset) ++ outer)
        (shiftAll count offset parts) =
      (touchingAny position around parts).map fun found =>
        (found.1.shift offset, found.2.map (shift count offset) ++ outer)
  | [] => rfl
  | part :: rest => by
    rw [shiftAll, touchingAny, touchingAny, touching_shift position outer around part,
      touchingAny_shift position outer around rest, List.map_append]

end

mutual

/-- The innermost marked node in a tree moved. -/
theorem innermostAt_shift (marked : NodeInfo → Bool) (position : Nat) : ∀ (part : Located) (origin : Nat),
    innermostAt marked (position + offset) (part.shift count offset) (origin + offset) =
      (innermostAt (fun info => marked (info.shift count offset)) position part origin).map
        (NodeInfo.shift count offset)
  | .token _, _ => rfl
  | .node info children, origin => by
    rw [shift, innermostAt, innermostAt, innermostOf_shift marked position children origin]
    cases innermostOf (fun info => marked (info.shift count offset)) position children origin with
    | some found => rfl
    | none =>
      simp only [Option.map_none]
      split <;> rfl

/-- The innermost marked node among trees moved. -/
theorem innermostOf_shift (marked : NodeInfo → Bool) (position : Nat) :
    ∀ (parts : List Located) (origin : Nat),
      innermostOf marked (position + offset) (shiftAll count offset parts) (origin + offset) =
        (innermostOf (fun info => marked (info.shift count offset)) position parts origin).map
          (NodeInfo.shift count offset)
  | [], _ => rfl
  | part :: rest, origin => by
    rw [shiftAll, innermostOf, innermostOf, stop_shift, innermostAt_shift marked position part origin,
      innermostOf_shift marked position rest part.stop]
    simp only [Nat.add_le_add_iff_right, Nat.add_lt_add_iff_right]
    split <;> rfl

end

end Located

end QuerySemantics
