import QuerySemantics.Report.Basic
import QuerySemantics.Text.Line

/-!
# Showing notices

A notice is shown as a heading, the lines of the text that it is about with its place marked, and its
notes. Within one line the place is underlined with carets. A place that reaches over several lines
is marked by a line drawn along the left side of the text; where there are many lines, those in the
middle are left out.

## Main definitions

* `Snippet.single`, `Snippet.multiple`: the marked lines of a place in one line or in several.
* `Notice.render`: a notice as it is shown.
* `Report.render`: a report as it is shown.
-/

set_option autoImplicit false

namespace QuerySemantics

/-- **Rendering error**: a notice is about a text that is not registered. -/
inductive RenderError where
  | fileMissing
deriving DecidableEq, Repr

/-- The text of a rendering error. -/
def RenderError.message : RenderError → String
  | .fileMissing => "file missing"

namespace Snippet

/-! ## Margins -/

/-- A number of blanks. -/
def blanks (count : Nat) : String :=
  String.ofList (List.replicate count ' ')

/-- A character several times. -/
def repeated (c : Char) (count : Nat) : String :=
  String.ofList (List.replicate count c)

/-- A line of output without a line number, behind a margin of the given width. -/
def marginal (margin : Nat) (border rest : String) : String :=
  blanks margin ++ " " ++ border ++ rest ++ "\n"

/-- A line of output with the number of a source line. -/
def numbered (margin : Nat) (line : Line) (rail : String) : String :=
  let number := toString line.number
  let shown := String.ofList (line.cells.flatMap Line.Cell.text)
  blanks (margin - number.length) ++ number ++ " │" ++ rail ++ " " ++ shown ++ "\n"

/-- What is written behind a mark. -/
def beside (text : String) : String :=
  if text = "" then "" else " " ++ text

/-! ## Places in one line -/

/-- The marks under one cell: carets if the place, given as offsets in the line, covers some of it,
and blanks if it ends behind it. -/
def marksUnder (start stop : Nat) (cell : Line.Cell) : String :=
  if max start cell.offset < min stop (cell.offset + cell.char.utf8Size) then
    repeated '^' cell.width
  else if cell.offset < stop then blanks cell.width
  else ""

/-- The cell behind the end of a line, which a place at the end covers. -/
def finalCell (line : Line) : Line.Cell :=
  ⟨Span.byteLength line.trimmed, 1, Char.ofNat 0⟩

/-- The carets under a line. An empty place has one caret too. -/
def carets (line : Line) (span : Span) : String :=
  let start := span.start - line.start
  let stop := max (span.stop - line.start) (start + 1)
  String.join ((line.cells ++ [finalCell line]).map (marksUnder start stop))

/-- **Place in one line**: the line, and carets with the text of the label below it. -/
def single (margin : Nat) (line : Line) (label : Label) : String :=
  numbered margin line "" ++
    marginal margin "│" (" " ++ carets line label.span ++ beside label.text)

/-! ## Places in several lines -/

/-- A horizontal line below the cells of a line that begin before an offset. -/
def ruleUnder (line : Line) (offset : Nat) : String :=
  repeated '─' (Line.widthOf (line.cells.filter (·.offset < offset)))

/-- The first line of a place. Where nothing but blanks come before the place, it is marked in the
line itself. -/
def opening (margin : Nat) (line : Line) (start : Nat) : String :=
  if start ≤ line.indent then numbered margin line " ╭"
  else numbered margin line "  " ++
    marginal margin "│" (" ╭" ++ ruleUnder line (start + 1) ++ "^")

/-- The last line of a place, with the text of the label. -/
def closing (margin : Nat) (line : Line) (stop : Nat) (text : String) : String :=
  numbered margin line " │" ++
    marginal margin "│" (" ╰" ++ ruleUnder line stop ++ "^" ++ beside text)

/-- Lines inside a place. -/
def inside (margin : Nat) (lines : List Line) : String :=
  String.join (lines.map (numbered margin · " │"))

/-- The lines between the first and the last line of a place. Of more than five, the first three and
the last one are shown. -/
def middle (margin : Nat) (lines : List Line) : String :=
  if lines.length ≤ 5 then inside margin lines
  else inside margin (lines.take 3) ++ marginal margin "·" " │" ++
    inside margin (lines.drop (lines.length - 1))

/-- The lines between the last line of a place and its first line below it. They do not belong to the
place, so that one line is shown without a mark, and more are left out. -/
def gap (margin : Nat) : List Line → String
  | [] => ""
  | [line] => numbered margin line "  "
  | _ => marginal margin "·" " │"

/-- **Place in several lines**, in the order of the text: a place may end above the line that it
starts in. -/
def multiple (margin : Nat) (first : Line) (between : List Line) (last : Line) (label : Label) :
    String :=
  let top := opening margin first (label.span.start - first.start)
  let bottom := closing margin last (label.span.stop - last.start) label.text
  if first.number < last.number then top ++ middle margin between ++ bottom
  else bottom ++ gap margin between ++ top

/-! ## Notices -/

/-- The heading of a notice. An empty code counts as none. -/
def heading (notice : Notice) : String :=
  let code := (notice.code.filter (· ≠ "")).elim "" fun text => "[" ++ text ++ "]"
  notice.severity.word ++ code ++ ": " ++ notice.message ++ "\n"

/-- The lines of a note: pieces between line ends, without an empty piece at the end. -/
def noteLines (note : String) : List String :=
  (Line.split note).filterMap fun line =>
    if line.text.isEmpty then none
    else
      let body := if line.text.getLast? = some '\n' then line.text.dropLast else line.text
      let bare :=
        if line.text.getLast? = some '\n' ∧ body.getLast? = some '\r' then body.dropLast else body
      some (String.ofList bare)

/-- A note behind a margin: its first line behind a mark, and the others below it. -/
def note (margin : Nat) (text : String) : String :=
  match noteLines text with
  | [] => ""
  | first :: rest =>
    marginal margin "=" (" " ++ first) ++
      String.join (rest.map fun line => marginal margin " " (" " ++ line))

/-- The place that a label is about, as it is shown with its margin, and an empty line of the margin
that may follow it. -/
def place (file : SourceFile) (label : Label) : Nat × String × String :=
  let lines := Line.split file.source
  let first := Line.around lines label.span.start
  let last := Line.around lines label.span.stop
  let margin := (toString (max first.number last.number)).length
  let locus := "┌─ " ++ file.name ++ ":" ++ toString first.number ++ ":" ++
    toString (first.column label.span.start)
  let many := first.number ≠ last.number
  let empty := marginal margin "│" (if many then "  " else "")
  let between := lines.filter fun it =>
    (first.number < it.number ∧ it.number < last.number) ∨
      (last.number < it.number ∧ it.number < first.number)
  let marked :=
    if many then multiple margin first between last label else single margin first label
  (margin, marginal margin locus "" ++ empty ++ marked, empty)

end Snippet

/-- **Rendering of a notice** about registered texts. -/
def Notice.render (files : List SourceFile) (notice : Notice) : Except RenderError String :=
  match notice.label with
  | none =>
    .ok (Snippet.heading notice ++ String.join (notice.notes.map (Snippet.note 0)) ++ "\n")
  | some label =>
    match files[label.file]? with
    | none => .error .fileMissing
    | some file =>
      let (margin, marked, empty) := Snippet.place file label
      let border := if notice.notes.isEmpty then "" else empty
      .ok (Snippet.heading notice ++ marked ++ border ++
        String.join (notice.notes.map (Snippet.note margin)) ++ "\n")

/-- **Rendering of a report**: its notices one after the other. -/
def Report.render (report : Report) : Except RenderError String := do
  return String.join (← report.notices.mapM (Notice.render report.files))

end QuerySemantics
