import QuerySemantics.Text.Blank
import QuerySemantics.Text.Span
import QuerySemantics.Text.Width

/-!
# Lines of text

A text cut into lines, and the place of a byte offset as a line and a column.

## Main definitions

* `Line`, `Line.split`: a line of a text, and the lines of a text.
* `Line.around`: the line that an offset lies in.
* `Line.column`: the column of an offset.
* `Line.cells`: the characters of a line with the columns they take.
-/

set_option autoImplicit false

namespace QuerySemantics

/-- **Line** of a text: its number counted from one, the offset at which it starts, and its
characters, with the line feed that ends it. -/
structure Line where
  number : Nat
  start : Nat
  text : List Char
deriving DecidableEq, Repr, Inhabited

namespace Line

/-- The lines of a text of which `line`, kept in reverse, has been read. -/
def splitFrom (number start : Nat) (line : List Char) : List Char → List Line
  | [] => [⟨number, start, line.reverse⟩]
  | c :: rest =>
    if c = '\n' then
      let text := (c :: line).reverse
      ⟨number, start, text⟩ :: splitFrom (number + 1) (start + Span.byteLength text) [] rest
    else splitFrom number start (c :: line) rest

/-- **Lines of a text.** Behind a final line feed there is one more line, which is empty. -/
def split (text : String) : List Line :=
  splitFrom 1 0 [] text.toList

/-- **Line of an offset**: the last one that starts at or before it. -/
def around (lines : List Line) (offset : Nat) : Line :=
  ((lines.filter (·.start ≤ offset)).getLast?).getD default

/-- The number of whole characters in the first `bytes` bytes. -/
def wholeChars : List Char → (bytes : Nat) → Nat
  | [], _ => 0
  | c :: rest, bytes =>
    if c.utf8Size ≤ bytes then 1 + wholeChars rest (bytes - c.utf8Size) else 0

/-- **Column** of an offset in a line, counted in characters from one. -/
def column (line : Line) (offset : Nat) : Nat :=
  1 + wholeChars line.text (offset - line.start)

/-! ## Columns of display -/

/-- The characters of the line without the line feeds, returns and nulls at its end. -/
def trimmed (line : Line) : List Char :=
  (line.text.reverse.dropWhile fun c => c = '\n' ∨ c = '\r' ∨ c.toNat = 0).reverse

/-- **Cell**: a character of a line, the bytes before it, and the columns it takes. -/
structure Cell where
  offset : Nat
  width : Nat
  char : Char
deriving DecidableEq, Repr, Inhabited

/-- The columns that a character takes at a column. A tab reaches to the next multiple of four. -/
def widthAt (column : Nat) (c : Char) : Nat :=
  if c = '\t' then 4 - column % 4 else Width.ofChar c

/-- The cells of characters that begin at an offset and a column. -/
def cellsFrom (offset column : Nat) : List Char → List Cell
  | [] => []
  | c :: rest =>
    let width := widthAt column c
    ⟨offset, width, c⟩ :: cellsFrom (offset + c.utf8Size) (column + width) rest

/-- **Cells** of a line. -/
def cells (line : Line) : List Cell :=
  cellsFrom 0 0 line.trimmed

/-- The columns that cells take together. -/
def widthOf : List Cell → Nat
  | [] => 0
  | cell :: rest => cell.width + widthOf rest

/-- What a cell shows: its character, or blanks for a tab. -/
def Cell.text (cell : Cell) : List Char :=
  if cell.char = '\t' then List.replicate cell.width ' ' else [cell.char]

/-- The bytes of blanks that a line begins with. -/
def indent (line : Line) : Nat :=
  Span.byteLength (line.trimmed.takeWhile Blank.isBlank)

end Line

end QuerySemantics
