import QuerySemantics.Text.Printable

/-!
# Quoted text

Three ways of quoting. An identifier may stand between square brackets or double quotes and a
string literal stands between single quotes; in each, the closing delimiter is written twice where
it is meant as a character. In messages a text stands between double quotes with escapes.

## Main definitions

* `Quoted.double`, `Quoted.collapse`: writing a character twice, and reading a doubled one.
* `Quoted.identifier`: the name that the text of an identifier token stands for.
* `Quoted.stringValue`, `Quoted.stringLiteral`: reading and writing a string literal.
* `Quoted.escaped`: a text between double quotes, with escapes.
* `Quoted.listing`: several such texts between square brackets.

## Main results

* `Quoted.collapse_double`: a text is read back from its doubled form.
-/

set_option autoImplicit false

namespace QuerySemantics

namespace Quoted

/-! ## Doubled delimiters -/

/-- The single quote. -/
def apostrophe : Char := Char.ofNat 39

/-- Writes every `delimiter` twice. -/
def double (delimiter : Char) : List Char → List Char
  | [] => []
  | c :: rest =>
    if c = delimiter then delimiter :: delimiter :: double delimiter rest
    else c :: double delimiter rest

/-- Reads every pair of `delimiter`s as one, from left to right. -/
def collapse (delimiter : Char) : List Char → List Char
  | a :: b :: rest =>
    if a = delimiter ∧ b = delimiter then delimiter :: collapse delimiter rest
    else a :: collapse delimiter (b :: rest)
  | short => short

/-- **Reading back a doubled text** gives the text. -/
theorem collapse_double (delimiter : Char) (text : List Char) :
    collapse delimiter (double delimiter text) = text := by
  induction text with
  | nil => simp [double, collapse]
  | cons c rest ih =>
    by_cases h : c = delimiter
    · simp [double, collapse, h, ih]
    · simp only [double, h, if_false]
      cases hd : double delimiter rest with
      | nil => rw [hd] at ih; simp [collapse, ← ih]
      | cons b more => rw [hd] at ih; simp [collapse, h, ih]

/-- The characters between a leading `opening` and a final `closing`. -/
def between (opening closing : Char) : List Char → Option (List Char)
  | [] => none
  | c :: rest =>
    if c = opening ∧ rest.getLast? = some closing then some rest.dropLast else none

/-! ## Identifiers and string literals -/

/-- **Identifier**: the name that an identifier token stands for. Square brackets are looked for
first, then double quotes; an identifier in neither stands for itself. -/
def identifier (text : String) : String :=
  match between '[' ']' text.toList with
  | some inner => String.ofList (collapse ']' inner)
  | none =>
    match between '"' '"' text.toList with
    | some inner => String.ofList (collapse '"' inner)
    | none => text

/-- **String value**: the text that a string literal token stands for. Quotes are collapsed even in
a token that lacks its delimiters. -/
def stringValue (text : String) : String :=
  String.ofList (collapse apostrophe
    ((between apostrophe apostrophe text.toList).getD text.toList))

/-- **String literal**: the token text that stands for `value`. -/
def stringLiteral (value : String) : String :=
  String.ofList (apostrophe :: double apostrophe value.toList ++ [apostrophe])

/-! ## Escaped text -/

/-- The hexadecimal digits of `n`, in lower case. -/
def hexDigits (n : Nat) : List Char :=
  Nat.toDigits 16 n

/-- A character as it is written inside an escaped text. -/
def escapedChar (c : Char) : List Char :=
  if c = '"' then ['\\', '"']
  else if c = '\\' then ['\\', '\\']
  else if c = '\n' then ['\\', 'n']
  else if c = '\r' then ['\\', 'r']
  else if c = '\t' then ['\\', 't']
  else if c.toNat = 0 then ['\\', '0']
  else if Printable.isPrintable c then [c]
  else ['\\', 'u', Char.ofNat 123] ++ hexDigits c.toNat ++ [Char.ofNat 125]

/-- **Escaped text**: the text between double quotes, with a backslash before quotes and
backslashes, and escapes for characters that are not printed. -/
def escaped (text : String) : String :=
  String.ofList ('"' :: text.toList.flatMap escapedChar ++ ['"'])

/-- Texts between square brackets, separated by commas. -/
def bracketed (texts : List String) : String :=
  "[" ++ ", ".intercalate texts ++ "]"

/-- Escaped texts between square brackets. -/
def listing (texts : List String) : String :=
  bracketed (texts.map escaped)

end Quoted

end QuerySemantics
