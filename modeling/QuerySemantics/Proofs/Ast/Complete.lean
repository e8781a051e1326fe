import QuerySemantics.Bound.Operator
import QuerySemantics.Proofs.Ast.Parts

/-!
# Complete pieces

A query may be unfinished, and then binding puts placeholders where a piece is called for. A piece is
complete if there is no such place in it.

## Main definitions

* `Piece.Filled`: what binding calls for in a node of the form is there.
* `Piece.Complete`: a piece is filled, and so is everything below it.

## Main results

* `Piece.Complete.ofNode`: a node is read as a complete piece if what stands below it is, and if what
  is called for is found there.
-/

set_option autoImplicit false

namespace QuerySemantics

open Ast

namespace Piece

/-- **Filled**: the names, operators and operands without which binding puts a placeholder are there.
A query may be missing anywhere, as may the arguments of a call; a missing query has no columns. -/
def Filled : Piece → Prop
  | .expr (.name _ ident) | .expr (.parameter _ ident) | .expr (.call _ ident _)
  | .expr (.countAll _ ident) => ident.isSome = true
  | .expr (.literal _ leaf) => leaf.isSome = true
  | .expr (.unary _ operator operand) =>
    (operator.bind fun it => UnaryOperator.ofToken? it.kind).isSome = true ∧ operand.isSome = true
  | .expr (.binary _ left operator negated right) =>
    left.isSome = true ∧ right.isSome = true ∧
      (operator.bind fun it => BinaryOperator.ofToken? negated it.kind).isSome = true
  | .expr (.parenthesized _ inner) => inner.isSome = true
  | .expr (.property _ target ident) | .expr (.method _ target ident _) =>
    target.isSome = true ∧ ident.isSome = true
  | .expr (.cast _ operand target) => operand.isSome = true ∧ (target.bind TypeName.ident).isSome = true
  | .expr (.isNull _ operand _) => operand.isSome = true
  | .expr (.cases _ _ labels _) => labels ≠ []
  | .expr (.quantified _ left operator _ _) =>
    left.isSome = true ∧ (operator.bind fun it => BinaryOperator.comparison? it.kind).isSome = true
  | .caseLabel (.mk _ test result) => test.isSome = true ∧ result.isSome = true
  | .condition (.mk _ predicate) => predicate.isSome = true
  | .typeName name => name.ident.isSome = true
  | .table (.named _ ident _) => ident.isSome = true
  | .table (.joined _ left _ right _) => left.isSome = true ∧ right.isSome = true
  | .table (.parenthesized _ inner) => inner.isSome = true
  | .selectItem (.column _ value _) => value.isSome = true
  | .orderItem (.mk _ key _) => key.isSome = true
  | _ => True

/-- **Complete**: a piece is filled, and so is everything below it. -/
inductive Complete : Piece → Prop where
  | intro {piece : Piece} : piece.Filled → (∀ part ∈ piece.parts, part.Complete) → piece.Complete

/-- A complete piece is filled. -/
theorem Complete.filled {piece : Piece} : piece.Complete → piece.Filled
  | .intro h _ => h

/-- The parts of a complete piece are complete. -/
theorem Complete.part {piece part : Piece} : piece.Complete → part ∈ piece.parts → part.Complete
  | .intro _ h, hpart => h part hpart

/-- A token is complete. -/
theorem Complete.ofToken (leaf : Token) : (token leaf).Complete :=
  .intro trivial (by simp [parts])

/-- **A node is read as a complete piece** if the pieces below it are complete and it is filled. -/
theorem Complete.ofNode {info : NodeInfo} {pieces : List Piece} (h : (Piece.ofNode info pieces).Filled)
    (hpieces : ∀ piece ∈ pieces, piece.Complete) : (Piece.ofNode info pieces).Complete :=
  .intro h fun part hpart => hpieces part (mem_of_mem_parts hpart)

end Piece

end QuerySemantics
