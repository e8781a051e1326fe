import QuerySemantics.Tree.Kind

/-!
# Trees without positions

A syntax tree as it is built: nodes with children and tokens with text. It keeps all of the query's
text, so blanks and comments are tokens too. No rule says which kinds may stand where: a tree may
lack any piece.

## Main definitions

* `Element`: a node or a token. Equality of elements is decidable.
* `Element.text`: the query text that an element covers.
* `Element.length`: the bytes that this text takes.
-/

set_option autoImplicit false

namespace QuerySemantics

/-- **Tree element**: a node with its children in order, or a token with its text. -/
inductive Element where
  | node (kind : Kind) (children : List Element)
  | token (kind : Kind) (text : String)
deriving Inhabited

namespace Element

/-- The kind of a token. -/
def tokenKind? : Element → Option Kind
  | .token kind _ => some kind
  | .node _ _ => none

mutual

/-- Elements are equal if they have one kind and the same text or equal children. -/
def decEq : (element other : Element) → Decidable (element = other)
  | .token kind text, .token kind' text' =>
    decidable_of_iff (kind = kind' ∧ text = text') (by simp)
  | .node kind children, .node kind' children' =>
    match decEqAll children children' with
    | isTrue h => decidable_of_iff (kind = kind') (by simp [h])
    | isFalse h => isFalse (by simp [h])
  | .token _ _, .node _ _ | .node _ _, .token _ _ => isFalse (by simp)

/-- Lists of elements are equal if they are equal one by one. -/
def decEqAll : (elements others : List Element) → Decidable (elements = others)
  | [], [] => isTrue rfl
  | [], _ :: _ | _ :: _, [] => isFalse (by simp)
  | element :: rest, other :: others =>
    match decEq element other, decEqAll rest others with
    | isTrue h, isTrue hrest => isTrue (by rw [h, hrest])
    | isFalse h, _ | _, isFalse h => isFalse (by simp [h])

end

/-- Elements are compared child by child. -/
instance : DecidableEq Element := decEq

mutual

/-- **Text** of an element: the text of its tokens in order. -/
def text : Element → String
  | .token _ text => text
  | .node _ children => textOf children

/-- The text of several elements, one behind the other. -/
def textOf : List Element → String
  | [] => ""
  | element :: rest => element.text ++ textOf rest

end

mutual

/-- **Length** of an element's text in bytes. -/
def length : Element → Nat
  | .token _ text => text.utf8ByteSize
  | .node _ children => lengthOf children

/-- The bytes that several elements take together. -/
def lengthOf : List Element → Nat
  | [] => 0
  | element :: rest => element.length + lengthOf rest

end

mutual

/-- The length of an element is the length of its text. -/
theorem length_eq (element : Element) : element.length = element.text.utf8ByteSize := by
  cases element with
  | token kind word => simp [length, Element.text]
  | node kind children => simpa [length, Element.text] using lengthOf_eq children

/-- The length of several elements is the length of their text. -/
theorem lengthOf_eq (elements : List Element) :
    lengthOf elements = (textOf elements).utf8ByteSize := by
  cases elements with
  | nil => simp [lengthOf, textOf]
  | cons element rest => simp [lengthOf, textOf, length_eq element, lengthOf_eq rest]

end

end Element

end QuerySemantics
