import QuerySemantics.Draft.Element
import QuerySemantics.Tree.Basic

/-!
# Blanks between tokens

Putting blanks where two tokens have to be kept apart. A blank stands before the node that begins
with the second token, so that no node begins or ends with a blank.

## Main definitions

* `Element.isSpaced`: whether a blank separates two tokens.
* `Element.space`: an element with its blanks, behind the token before it.
* `Draft.Whole.tree`, `Draft.Whole.text`: the syntax tree and the query text of a draft.
-/

set_option autoImplicit false

namespace QuerySemantics

namespace Element

mutual

/-- The kind of the first token of an element. -/
def firstKind? : Element → Option Kind
  | .token kind _ => some kind
  | .node _ children => firstKindOf? children

/-- The kind of the first token of several elements. -/
def firstKindOf? : List Element → Option Kind
  | [] => none
  | element :: rest => element.firstKind?.or (firstKindOf? rest)

end

/-- **Separation**: whether a blank stands between a token and the next one. None follows an opening
parenthesis, a dot, an at sign or another blank, and none comes before a closing parenthesis, a comma
or a dot. A name and its arguments stay together, as do `CAST` and its parenthesis. -/
def isSpaced (previous next : Kind) : Bool :=
  match previous, next with
  | .whitespace, _ | .openParen, _ | .dot, _ | .atSign, _ => false
  | _, .closeParen | _, .comma | _, .dot => false
  | .identifier, .openParen | .castKeyword, .openParen => false
  | _, _ => true

/-- The blank between two elements. -/
def blank : Element :=
  .token .whitespace " "

/-- Whether a blank comes before an element, given the kind of the token before it. -/
def needsBlank (previous : Option Kind) (element : Element) : Bool :=
  match previous, element.firstKind? with
  | some previous, some next => isSpaced previous next
  | _, _ => false

/-- Whether what follows an element within a node of the kind is attached to it: the operand of a
minus or a tilde. -/
def attaches (kind : Kind) : Element → Bool
  | .token .minus _ | .token .tilde _ => kind == .unaryExpression
  | _ => false

mutual

/-- **Spacing** of an element behind a token of kind `previous`: the element, with blanks inside it,
and the kind of its last token. -/
def space : (element : Element) → (previous : Option Kind) → Element × Option Kind
  | .token kind text, _ => (.token kind text, some kind)
  | .node kind children, previous =>
    let (parts, last) := spaceAll kind children previous
    (.node kind parts, last)

/-- Spacing of the children of a node of the given kind, with blanks between them. -/
def spaceAll (parent : Kind) :
    (elements : List Element) → (previous : Option Kind) → List Element × Option Kind
  | [], previous => ([], previous)
  | element :: rest, previous =>
    let separate := needsBlank previous element
    let (part, last) := space element (if separate then some .whitespace else previous)
    let (parts, final) := spaceAll parent rest (if attaches parent element then none else last)
    ((if separate then [blank] else []) ++ part :: parts, final)

end

/-- **Unit** around an element, with blanks. -/
def unit (element : Element) : Element :=
  (space (.node .compilationUnit [element]) none).1

end Element

namespace Draft

/-- **Syntax tree** of a draft. -/
def Whole.tree (draft : Whole) (id : Nat) : SyntaxTree :=
  ⟨id, draft.element.unit⟩

/-- **Query text** of a draft. -/
def Whole.text (draft : Whole) : String :=
  draft.element.unit.text

end Draft

end QuerySemantics
