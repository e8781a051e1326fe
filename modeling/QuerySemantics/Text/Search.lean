import QuerySemantics.Text.Span

/-!
# Searching text

## Main definitions

* `Search.offset?`: where a piece occurs first in a text.
* `Search.contains`: whether it occurs at all.
-/

set_option autoImplicit false

namespace QuerySemantics

namespace Search

/-- The offset of the first occurrence of a piece in characters that begin at `offset`. -/
def offsetFrom? (piece : List Char) (offset : Nat) : List Char → Option Nat
  | [] => if piece.isEmpty then some offset else none
  | c :: rest =>
    if piece.isPrefixOf (c :: rest) then some offset
    else offsetFrom? piece (offset + c.utf8Size) rest

/-- **First occurrence** of a piece, as a byte offset. -/
def offset? (piece text : String) : Option Nat :=
  offsetFrom? piece.toList 0 text.toList

/-- **Occurrence** of a piece in a text. -/
def contains (text piece : String) : Bool :=
  (offset? piece text).isSome

end Search

end QuerySemantics
