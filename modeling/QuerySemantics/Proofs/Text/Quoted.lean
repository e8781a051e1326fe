import QuerySemantics.Draft.Element

/-!
# Reading back quoted text

Quoting puts a text between delimiters and writes each closing delimiter in it twice. Reading takes the
delimiters off and each pair for one, so that it gives the text back, whichever runs of delimiters there
are in it, at its ends too.

## Main definitions

* `Quoted.quote`: a text between delimiters.

## Main results

* `Quoted.identifier_quote`, `Quoted.stringValue_quote`: quoted text is read back.
* `Quoted.unquote_quote`: all three ways of quoting, and what a draft writes for a string.
-/

set_option autoImplicit false

namespace QuerySemantics

namespace Quoted

/-- **Quoting**: the text between delimiters, with each closing one in it written twice. -/
def quote (opening closing : Char) (value : String) : String :=
  String.ofList (opening ::
    value.toList.flatMap (fun c => if c = closing then [c, c] else [c]) ++ [closing])

/-- Doubling a delimiter goes character by character. -/
theorem double_eq_flatMap (delimiter : Char) (text : List Char) :
    double delimiter text = text.flatMap fun c => if c = delimiter then [c, c] else [c] := by
  induction text with
  | nil => rfl
  | cons c rest ih =>
    rw [double, List.flatMap_cons, ← ih]
    split
    · rename_i h
      rw [h]
      rfl
    · rfl

/-- The characters of a quoted text: the delimiters around the text, with the closing one doubled in it.
-/
theorem toList_quote (opening closing : Char) (value : String) :
    (quote opening closing value).toList = opening :: (double closing value.toList ++ [closing]) := by
  rw [quote, String.toList_ofList, double_eq_flatMap, List.cons_append]

/-- The delimiters around a text are found, whatever the text ends with. -/
theorem between_enclosed (opening closing : Char) (inner : List Char) :
    between opening closing (opening :: (inner ++ [closing])) = some inner := by
  rw [between, if_pos ⟨rfl, List.getLast?_concat⟩, List.dropLast_concat]

/-- A text that begins otherwise is not between delimiters. -/
theorem between_of_ne {opening c : Char} (h : c ≠ opening) (closing : Char) (rest : List Char) :
    between opening closing (c :: rest) = none := by
  rw [between, if_neg fun hboth => h hboth.1]

/-- **Reading an identifier back.** Square brackets come first, but no text is in double quotes and in
square brackets at once. -/
theorem identifier_quote (value : String) :
    identifier (quote '[' ']' value) = value ∧ identifier (quote '"' '"' value) = value := by
  constructor
  · rw [identifier, toList_quote, between_enclosed]
    dsimp only
    rw [collapse_double, String.ofList_toList]
  · rw [identifier, toList_quote, between_of_ne (by decide), between_enclosed]
    dsimp only
    rw [collapse_double, String.ofList_toList]

/-- **Reading a string literal back.** -/
theorem stringValue_quote (value : String) : stringValue (quote apostrophe apostrophe value) = value := by
  rw [stringValue, toList_quote, between_enclosed, Option.getD_some, collapse_double,
    String.ofList_toList]

/-- A string literal is quoted with apostrophes. -/
theorem stringLiteral_eq_quote (value : String) :
    stringLiteral value = quote apostrophe apostrophe value := by
  rw [stringLiteral, quote, double_eq_flatMap]

/-- **Unquoting undoes quoting.** What a draft writes for a string is the string between single quotes,
and its value is the string; and the identifier that is written as a text between square brackets, or
between double quotes, is the text. -/
theorem unquote_quote (value : String) :
    (Draft.Expr.string value).element =
        Draft.literal (.token .stringLiteral (quote apostrophe apostrophe value)) ∧
      stringValue (quote apostrophe apostrophe value) = value ∧
      identifier (quote '[' ']' value) = value ∧ identifier (quote '"' '"' value) = value := by
  refine ⟨?_, stringValue_quote value, identifier_quote value⟩
  rw [Draft.Expr.element, stringLiteral_eq_quote]

/-- A text of three quotes is written with eight, and a bracket at the end with three. -/
example : quote '"' '"' "\"\"\"" = "\"\"\"\"\"\"\"\"" ∧ quote '[' ']' "a]" = "[a]]]" := by
  decide +kernel

end Quoted

end QuerySemantics
