import QuerySemantics.Scope.Symbol
import QuerySemantics.Tree.Located

/-!
# Outlines

An outline shows something part by part, each part under a label, for tools that display trees and
symbols. It refers to symbols, slots, nodes and tokens as they are, so that a tool decides itself
how it shows them.

## Main definitions

* `Outline`: an outline.
* `Outline.ofOption`: the outline of what need not be there.
-/

set_option autoImplicit false

namespace QuerySemantics

/-- **Outline** of something. -/
inductive Outline where
  /-- The place of a part that is not there. -/
  | missing
  | flag (it : Bool)
  | number (it : Nat)
  | text (it : String)
  | type (it : SqlType)
  | symbol (it : Symbol)
  | slot (it : ValueSlot)
  | syntaxNode (it : NodeInfo)
  | token (it : Token)
  | list (items : List Outline)
  /-- Several parts with their labels. -/
  | group (parts : List (String × Outline))
  /-- A bound node: its kind, the type of an expression, and its parts. -/
  | boundNode (kind : Bound.NodeKind) (type : Option SqlType) (parts : List (String × Outline))
deriving Inhabited

namespace Outline

/-- The outline of what need not be there. -/
def ofOption {α : Type} (outline : α → Outline) (it : Option α) : Outline :=
  it.elim .missing outline

/-- The outline of several things. -/
def ofList {α : Type} (outline : α → Outline) (items : List α) : Outline :=
  .list (items.map outline)

end Outline

end QuerySemantics
