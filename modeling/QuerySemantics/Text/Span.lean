/-!
# Spans of query text

A span is a half-open range of byte offsets into the text of a query. Offsets count the bytes of
the text's UTF-8 encoding, so not every span cuts a text: an end may lie behind the text or inside
a character.

## Main definitions

* `Span`: a half-open byte range.
* `Span.slice`: the piece of a text that a span covers, if it covers one.
* `Spanned`: a value together with the span it was read from.
-/

set_option autoImplicit false

namespace QuerySemantics

/-- **Span**: the bytes from `start` up to, and not including, `stop`. -/
structure Span where
  start : Nat
  stop : Nat
deriving DecidableEq, Repr, Inhabited

namespace Span

/-- The number of bytes that a list of characters takes in UTF-8. -/
def byteLength : List Char → Nat
  | [] => 0
  | c :: rest => c.utf8Size + byteLength rest

/-- The characters behind the first `bytes` bytes, if these end at a character boundary. -/
def dropBytes : List Char → Nat → Option (List Char)
  | text, 0 => some text
  | [], _ + 1 => none
  | c :: rest, bytes + 1 =>
    if c.utf8Size ≤ bytes + 1 then dropBytes rest (bytes + 1 - c.utf8Size) else none

/-- The characters that make up the first `bytes` bytes, if these end at a character boundary. -/
def takeBytes : List Char → Nat → Option (List Char)
  | _, 0 => some []
  | [], _ + 1 => none
  | c :: rest, bytes + 1 =>
    if c.utf8Size ≤ bytes + 1 then (takeBytes rest (bytes + 1 - c.utf8Size)).map (c :: ·) else none

/-- **Slicing**: the piece of `text` that the span covers. There is none when the span is reversed,
reaches behind the text or has an end inside a character. -/
def slice (span : Span) (text : String) : Option String :=
  if span.start ≤ span.stop then do
    let rest ← dropBytes text.toList span.start
    let piece ← takeBytes rest (span.stop - span.start)
    return String.ofList piece
  else none

end Span

/-- **Spanned value**: a value and the span of the text that it was read from. -/
structure Spanned (α : Type) where
  value : α
  span : Span

/-- The text that the value was read from. -/
def Spanned.source {α : Type} (s : Spanned α) (text : String) : Option String :=
  s.span.slice text

end QuerySemantics
