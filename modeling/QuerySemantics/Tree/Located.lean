import QuerySemantics.Text.Span
import QuerySemantics.Tree.Element

/-!
# Trees with positions

A tree in which every node knows its number in preorder and the range of text that it covers, and
every token knows where it starts. Nodes of one tree are told apart by their numbers.

## Main definitions

* `Token`, `NodeInfo`: what a token and a node know about themselves.
* `Located`: a tree with positions; `Element.locate` computes it.
* `Located.nodes`: the nodes in preorder.
* `Located.element`, `Located.coincides`: what an element consists of, and elements without text that
  cannot be told apart by it.
* `Located.touching`: the tokens next to an offset, with the nodes around them.
* `Located.innermost`: the innermost marked node around an offset.
-/

set_option autoImplicit false

namespace QuerySemantics

/-! ## Tokens and nodes -/

/-- **Token**: a piece of text of one kind and its offset. -/
structure Token where
  kind : Kind
  text : String
  start : Nat
deriving DecidableEq, Repr, Inhabited

namespace Token

/-- The offset behind the token. -/
def stop (token : Token) : Nat :=
  token.start + token.text.utf8ByteSize

/-- The span of the token. -/
def span (token : Token) : Span :=
  ⟨token.start, token.stop⟩

end Token

/-- **Node information**: kind, number in preorder, range of text, and the offset of the first token
in the node that is not trivia, if there is one. -/
structure NodeInfo where
  kind : Kind
  index : Nat
  start : Nat
  stop : Nat
  content : Option Nat
deriving DecidableEq, Repr, Inhabited

namespace NodeInfo

/-- The range of text that the node covers. -/
def range (info : NodeInfo) : Span :=
  ⟨info.start, info.stop⟩

/-- **Span of a node**: its range without the trivia it starts with. -/
def span (info : NodeInfo) : Span :=
  ⟨info.content.getD info.start, info.stop⟩

end NodeInfo

/-! ## Located trees -/

/-- **Located tree**: a node with its located children, or a token. -/
inductive Located where
  | node (info : NodeInfo) (children : List Located)
  | token (token : Token)
deriving Inhabited

namespace Located

/-- Where the text of the element starts. -/
def start : Located → Nat
  | .node info _ => info.start
  | .token leaf => leaf.start

/-- The offset behind the text of the element. -/
def stop : Located → Nat
  | .node info _ => info.stop
  | .token leaf => leaf.stop

/-- The offset of the first token in the element that is not trivia. -/
def content? : Located → Option Nat
  | .node info _ => info.content
  | .token leaf => if leaf.kind.isTrivia then none else some leaf.start

/-- The node information, of a node. -/
def info? : Located → Option NodeInfo
  | .node info _ => some info
  | .token _ => none

/-- The children, of a node. -/
def children : Located → List Located
  | .node _ children => children
  | .token _ => []

/-- The offset behind elements that begin at `start`. -/
def stopOf (start : Nat) (parts : List Located) : Nat :=
  (parts.getLast?.map stop).getD start

end Located

namespace Element

mutual

/-- **Locating** an element that begins at `offset` and whose first node takes the number `index`.
Gives the located element and the next free number. -/
def locate : Element → (index offset : Nat) → Located × Nat
  | .token kind text, index, offset => (.token ⟨kind, text, offset⟩, index)
  | .node kind children, index, offset =>
    let (parts, next) := locateAll children (index + 1) offset
    (.node ⟨kind, index, offset, Located.stopOf offset parts, parts.findSome? Located.content?⟩
      parts, next)

/-- Locates elements that follow each other. -/
def locateAll : List Element → (index offset : Nat) → List Located × Nat
  | [], index, _ => ([], index)
  | element :: rest, index, offset =>
    let (part, next) := locate element index offset
    let (parts, last) := locateAll rest next part.stop
    (part :: parts, last)

end

end Element

/-! ## Walking through a tree -/

namespace Located

mutual

/-- **Nodes** of a tree in preorder. -/
def nodes : Located → List Located
  | .token _ => []
  | .node info children => .node info children :: nodesOf children

/-- The nodes of several trees, one tree after the other. -/
def nodesOf : List Located → List Located
  | [] => []
  | part :: rest => part.nodes ++ nodesOf rest

end

mutual

/-- The text of a located element. -/
def text : Located → String
  | .token leaf => leaf.text
  | .node _ children => textOf children

/-- The text of several located elements. -/
def textOf : List Located → String
  | [] => ""
  | part :: rest => part.text ++ textOf rest

end

mutual

/-- What a located element consists of, wherever it is. -/
def element : Located → Element
  | .token leaf => .token leaf.kind leaf.text
  | .node info children => .node info.kind (elementsOf children)

/-- What several located elements consist of. -/
def elementsOf : List Located → List Element
  | [] => []
  | part :: rest => part.element :: elementsOf rest

end

/-- **Coinciding** elements: they have no text, begin at one offset and consist of the same. -/
def coincides (part other : Located) : Bool :=
  part.start == part.stop && other.start == other.stop && part.start == other.start &&
    decide (part.element = other.element)

mutual

/-- **Tokens at an offset**: those with text that begin, end or go on there, each with the nodes
around it from the inside out. -/
def touching (offset : Nat) (around : List Located) : Located → List (Token × List Located)
  | .token leaf =>
    if leaf.text ≠ "" ∧ leaf.start ≤ offset ∧ offset ≤ leaf.stop then [(leaf, around)] else []
  | .node info children => touchingAny offset (.node info children :: around) children

/-- The tokens of several elements at an offset. -/
def touchingAny (offset : Nat) (around : List Located) :
    List Located → List (Token × List Located)
  | [] => []
  | part :: rest => touching offset around part ++ touchingAny offset around rest

end

mutual

/-- The innermost marked node in or at an element that covers `position`, where the element begins
at `origin`. -/
def innermostAt (marked : NodeInfo → Bool) (position : Nat) :
    Located → (origin : Nat) → Option NodeInfo
  | .token _, _ => none
  | .node info children, origin =>
    match innermostOf marked position children origin with
    | some found => some found
    | none => if marked info then some info else none

/-- The innermost marked node among elements that follow each other from `origin` on. -/
def innermostOf (marked : NodeInfo → Bool) (position : Nat) :
    List Located → (origin : Nat) → Option NodeInfo
  | [], _ => none
  | part :: rest, origin =>
    if origin ≤ position ∧ position < part.stop then innermostAt marked position part origin
    else innermostOf marked position rest part.stop

end

/-- **Innermost marked node** around a position, strictly below the root. -/
def innermost (marked : NodeInfo → Bool) (position : Nat) (root : Located) : Option NodeInfo :=
  innermostOf marked position root.children 0

end Located

end QuerySemantics
