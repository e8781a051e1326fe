import Mathlib.Order.Monotone.Defs
import Mathlib.Order.Nat
import QuerySemantics.Proofs.Ast.AlikeReading
import QuerySemantics.Proofs.Tree.Placement

/-!
# Trees without trivia

Blanks and comments are tokens of a tree like others, and may stand anywhere in it. A tree without them
has the same nodes, in the same order and of the same kinds, and is read alike: an accessor that looks for
a token passes over them, and the other accessors look for nodes.

The expression behind an `ELSE` is known by where it starts. So it is found again only if no `ELSE` is
empty.

## Main definitions

* `Element.bare`, `Located.bare`: a tree without trivia.
* `Element.solid`: how much of the text before an offset is no trivia.
* `Element.ElseFilled`: no `ELSE` is empty.
* `Likeness.bare`: a tree without trivia and the tree with it.

## Main results

* `Located.piece_bare`: a tree is read without the trivia in it.
* `Element.locate_bare`: what is located without trivia and with it is alike.
-/

set_option autoImplicit false

namespace QuerySemantics

/-! ## Readings -/

namespace Piece

/-- **Bare pieces**: the pieces of a node without the trivia among them. -/
inductive Bare : List Piece → List Piece → Prop
  | nil : Bare [] []
  | keep {pieces bare : List Piece} (piece : Piece) (h : Bare pieces bare) :
      Bare (piece :: pieces) (piece :: bare)
  | drop {pieces bare : List Piece} {leaf : Token} (htrivia : leaf.kind.isTrivia = true)
      (h : Bare pieces bare) : Bare (.token leaf :: pieces) bare

namespace Bare

variable {pieces bare : List Piece}

/-- The first piece that is no token is the same. -/
theorem findSome? {α : Type} {choose : Piece → Option α} (h : Bare pieces bare)
    (hchoose : ∀ leaf, choose (.token leaf) = none) :
    bare.findSome? choose = pieces.findSome? choose := by
  induction h with
  | nil => rfl
  | keep piece _ ih => rw [List.findSome?_cons, List.findSome?_cons, ih]
  | drop _ _ ih => rw [List.findSome?_cons, hchoose, ih]

/-- The pieces that are no tokens are the same. -/
theorem filterMap {α : Type} {choose : Piece → Option α} (h : Bare pieces bare)
    (hchoose : ∀ leaf, choose (.token leaf) = none) :
    bare.filterMap choose = pieces.filterMap choose := by
  induction h with
  | nil => rfl
  | keep piece _ ih => rw [List.filterMap_cons, List.filterMap_cons, ih]
  | drop _ _ ih => rw [List.filterMap_cons, hchoose, ih]

/-- The tokens of a kind that is no trivia are the same. -/
theorem tokens {holds : Token → Bool} (h : Bare pieces bare)
    (hholds : ∀ leaf : Token, leaf.kind.isTrivia = true → holds leaf = false) :
    (bare.filterMap token?).filter holds = (pieces.filterMap token?).filter holds := by
  induction h with
  | nil => rfl
  | keep piece _ ih =>
    cases piece with
    | token leaf => simp [token?, List.filter_cons, ih]
    | _ => exact ih
  | @drop _ _ leaf htrivia _ ih => simpa [token?, List.filter_cons, hholds leaf htrivia] using ih

/-- The first token of a kind that is no trivia is the same. -/
theorem find? {holds : Token → Bool} (h : Bare pieces bare)
    (hholds : ∀ leaf : Token, leaf.kind.isTrivia = true → holds leaf = false) :
    (bare.filterMap token?).find? holds = (pieces.filterMap token?).find? holds := by
  rw [← List.head?_filter, ← List.head?_filter, h.tokens hholds]

/-- The first token of a kind is there without trivia as well. -/
theorem tokenOf? (h : Bare pieces bare) (kind : Kind) (hkind : kind.isTrivia = false) :
    Piece.tokenOf? kind bare = Piece.tokenOf? kind pieces :=
  h.find? fun leaf htrivia => by
    rw [beq_eq_false_iff_ne]
    rintro rfl
    rw [hkind] at htrivia
    cases htrivia

/-- Whether there is a token of a kind shows without trivia as well. -/
theorem hasToken (h : Bare pieces bare) (kind : Kind) (hkind : kind.isTrivia = false) :
    Piece.hasToken kind bare = Piece.hasToken kind pieces := by
  rw [Piece.hasToken, Piece.hasToken, h.tokenOf? kind hkind]

/-- The leading token is there without trivia as well. -/
theorem leadingToken? (h : Bare pieces bare) :
    Piece.leadingToken? bare = Piece.leadingToken? pieces :=
  h.find? fun leaf htrivia => by simp [htrivia]

/-- The token between operands is there without trivia as well. -/
theorem infixToken? (h : Bare pieces bare) : Piece.infixToken? bare = Piece.infixToken? pieces :=
  h.find? fun leaf htrivia => by simp [htrivia]

/-- The set operator shows without trivia as well. -/
theorem setOperator? (h : Bare pieces bare) :
    Piece.setOperator? bare = Piece.setOperator? pieces := by
  simp only [Piece.setOperator?, h.hasToken .unionKeyword rfl,
    h.hasToken .allKeyword rfl, h.hasToken .intersectKeyword rfl,
    h.hasToken .exceptKeyword rfl]

/-- The kind of join shows without trivia as well. -/
theorem joinKind (h : Bare pieces bare) : Piece.joinKind bare = Piece.joinKind pieces := by
  simp only [Piece.joinKind, h.hasToken .crossKeyword rfl,
    h.hasToken .leftKeyword rfl, h.hasToken .rightKeyword rfl,
    h.hasToken .fullKeyword rfl]

/-- Without trivia, a beginning is the beginning without trivia. -/
theorem takeWhile {holds : Piece → Bool} (h : Bare pieces bare)
    (hholds : ∀ leaf, holds (.token leaf) = true) :
    Bare (pieces.takeWhile holds) (bare.takeWhile holds) := by
  induction h with
  | nil => exact .nil
  | keep piece _ ih =>
    rw [List.takeWhile_cons, List.takeWhile_cons]
    split
    · exact .keep piece ih
    · exact .nil
  | @drop _ _ leaf htrivia _ ih =>
    rw [List.takeWhile_cons, if_pos (hholds leaf)]
    exact .drop htrivia ih

/-- The operand of a `CASE` is the same without trivia. -/
theorem caseInput? (h : Bare pieces bare) : Piece.caseInput? bare = Piece.caseInput? pieces :=
  (h.takeWhile fun _ => rfl).findSome? fun _ => rfl

/-- The expression behind an `ELSE` is the same without trivia. -/
theorem caseElse? (h : Bare pieces bare) : Piece.caseElse? bare = Piece.caseElse? pieces := by
  have hexprs : bare.filterMap expr? = pieces.filterMap expr? := h.filterMap fun _ => rfl
  rw [Piece.caseElse?, Piece.caseElse?, h.tokenOf? _ rfl, hexprs]

/-- **A node is read without the trivia in it.** -/
theorem ofNode (h : Bare pieces bare) (info : NodeInfo) :
    Piece.ofNode info bare = Piece.ofNode info pieces := by
  have hidents : (bare.filterMap token?).filter (·.kind == .identifier) =
      (pieces.filterMap token?).filter (·.kind == .identifier) :=
    h.tokens fun leaf htrivia => by
      rw [beq_eq_false_iff_ne]
      intro hkind
      rw [hkind] at htrivia
      cases htrivia
  have hquery : bare.findSome? query? = pieces.findSome? query? := h.findSome? fun _ => rfl
  have hqueries : bare.filterMap query? = pieces.filterMap query? := h.filterMap fun _ => rfl
  have htable : bare.findSome? table? = pieces.findSome? table? := h.findSome? fun _ => rfl
  have htables : bare.filterMap table? = pieces.filterMap table? := h.filterMap fun _ => rfl
  have hexpr : bare.findSome? expr? = pieces.findSome? expr? := h.findSome? fun _ => rfl
  have hexprs : bare.filterMap expr? = pieces.filterMap expr? := h.filterMap fun _ => rfl
  -- the clauses and other parts that only one kind of node has
  have hhead : bare.findSome? selectClause? = pieces.findSome? selectClause? :=
    h.findSome? fun _ => rfl
  have hsource : bare.findSome? fromClause? = pieces.findSome? fromClause? :=
    h.findSome? fun _ => rfl
  have hcondition : ∀ kind, bare.findSome? (condition? kind) = pieces.findSome? (condition? kind) :=
    fun _ => h.findSome? fun _ => rfl
  have hgrouping : bare.findSome? groupBy? = pieces.findSome? groupBy? := h.findSome? fun _ => rfl
  have htop : bare.findSome? top? = pieces.findSome? top? := h.findSome? fun _ => rfl
  have halias : bare.findSome? alias? = pieces.findSome? alias? := h.findSome? fun _ => rfl
  have hnames : bare.findSome? columnNames? = pieces.findSome? columnNames? :=
    h.findSome? fun _ => rfl
  have harguments : bare.findSome? arguments? = pieces.findSome? arguments? :=
    h.findSome? fun _ => rfl
  have htype : bare.findSome? typeName? = pieces.findSome? typeName? := h.findSome? fun _ => rfl
  have hitems : bare.filterMap selectItem? = pieces.filterMap selectItem? := h.filterMap fun _ => rfl
  have hkeys : bare.filterMap orderItem? = pieces.filterMap orderItem? := h.filterMap fun _ => rfl
  have hdefinitions : bare.filterMap commonTable? = pieces.filterMap commonTable? :=
    h.filterMap fun _ => rfl
  have hlabels : bare.filterMap caseLabel? = pieces.filterMap caseLabel? := h.filterMap fun _ => rfl
  unfold Piece.ofNode expression? secondExpression?
  simp only [h.tokenOf? .identifier rfl, h.tokenOf? .numericLiteral rfl,
    h.hasToken .distinctKeyword rfl, h.hasToken .tiesKeyword rfl,
    h.hasToken .descKeyword rfl, h.hasToken .notKeyword rfl,
    h.hasToken .allKeyword rfl, h.leadingToken?, h.infixToken?, h.setOperator?, h.joinKind,
    h.caseInput?, h.caseElse?, hidents, hquery, hqueries, htable, htables, hexpr, hexprs, hhead,
    hsource, hcondition, hgrouping, htop, halias, hnames, harguments, htype, hitems, hkeys,
    hdefinitions, hlabels]

end Bare

end Piece

/-! ## Located trees -/

namespace Located

/-- Whether an element is a blank or a comment. -/
def isTrivia : Located → Bool
  | .token leaf => leaf.kind.isTrivia
  | .node _ _ => false

mutual

/-- **A bare tree**: the tree without the trivia in it. -/
def bare : Located → Located
  | .token leaf => .token leaf
  | .node info children => .node info (bareAll children)

/-- Several trees without trivia. -/
def bareAll : List Located → List Located
  | [] => []
  | part :: rest => if part.isTrivia then bareAll rest else part.bare :: bareAll rest

end

mutual

/-- **A tree is read without the trivia in it.** -/
theorem piece_bare : ∀ part : Located, part.bare.piece = part.piece
  | .token _ => rfl
  | .node info children => (pieces_bareAll children).ofNode info

/-- The readings of several trees without trivia. -/
theorem pieces_bareAll : ∀ parts : List Located, Piece.Bare (pieces parts) (pieces (bareAll parts))
  | [] => .nil
  | .token leaf :: rest => by
    unfold bareAll
    split
    · rename_i htrivia
      exact .drop htrivia (pieces_bareAll rest)
    · exact .keep (.token leaf) (pieces_bareAll rest)
  | .node info children :: rest => by
    have hpiece := piece_bare (.node info children)
    rw [bareAll, if_neg (by simp [isTrivia]), pieces, pieces, hpiece]
    exact .keep _ (pieces_bareAll rest)

end

/-- A node has the same core without trivia. -/
theorem coreInfo_bare (part : Located) (info : NodeInfo) :
    part.bare.coreInfo info = part.coreInfo info := by
  rw [coreInfo, piece_bare, coreInfo]

/-- A node has the same information without trivia. -/
theorem info?_bare (part : Located) : part.bare.info? = part.info? := by
  cases part <;> rfl

mutual

/-- The nodes of a tree without trivia. -/
theorem nodes_bare : ∀ part : Located, part.bare.nodes = part.nodes.map bare
  | .token _ => rfl
  | .node info children => by
    rw [bare, nodes, nodes, nodesOf_bareAll children]
    rfl

/-- The nodes of several trees without trivia. -/
theorem nodesOf_bareAll : ∀ parts : List Located, nodesOf (bareAll parts) = (nodesOf parts).map bare
  | [] => rfl
  | .token leaf :: rest => by
    unfold bareAll
    split
    · exact nodesOf_bareAll rest
    · exact nodesOf_bareAll rest
  | .node info children :: rest => by
    rw [bareAll, if_neg (by simp [isTrivia]), nodesOf, nodesOf, nodes_bare (.node info children),
      nodesOf_bareAll rest, List.map_append]

end

end Located

/-! ## Elements -/

namespace Element

/-- Whether an element is a blank or a comment. -/
def isTrivia : Element → Bool
  | .token kind _ => kind.isTrivia
  | .node _ _ => false

mutual

/-- **A bare element**: the element without the trivia in it. -/
def bare : Element → Element
  | .token kind text => .token kind text
  | .node kind children => .node kind (bareAll children)

/-- Several elements without trivia. -/
def bareAll : List Element → List Element
  | [] => []
  | element :: rest => if element.isTrivia then bareAll rest else element.bare :: bareAll rest

end

mutual

/-- **How much is solid**: the number of bytes before an offset of the element that are no trivia. -/
def solid : Element → Nat → Nat
  | .token kind text, offset => if kind.isTrivia then 0 else min offset text.utf8ByteSize
  | .node _ children, offset => solidOf children offset

/-- How much is solid in several elements, one behind the other. -/
def solidOf : List Element → Nat → Nat
  | [], _ => 0
  | element :: rest, offset => element.solid offset + solidOf rest (offset - element.length)

end

mutual

/-- **Leaves**: the tokens of an element in order, as kinds and texts. -/
def leaves : Element → List (Kind × String)
  | .token kind text => [(kind, text)]
  | .node _ children => leavesOf children

/-- The leaves of several elements, one behind the other. -/
def leavesOf : List Element → List (Kind × String)
  | [] => []
  | element :: rest => element.leaves ++ leavesOf rest

end

/-- Whether a leaf is no `ELSE` without text. -/
def Filled (leaf : Kind × String) : Prop :=
  leaf.1 = .elseKeyword → leaf.2 ≠ ""

/-- It can be decided whether a leaf is no `ELSE` without text. -/
instance : DecidablePred Filled :=
  fun leaf => inferInstanceAs (Decidable (leaf.1 = .elseKeyword → leaf.2 ≠ ""))

/-- **No empty `ELSE`**: every `ELSE` in the element has text. -/
def ElseFilled (element : Element) : Prop :=
  ∀ leaf ∈ element.leaves, Filled leaf

/-- It can be decided whether every `ELSE` has text. -/
instance (element : Element) : Decidable element.ElseFilled :=
  inferInstanceAs (Decidable (∀ leaf ∈ element.leaves, Filled leaf))

mutual

/-- Nothing is solid up to the start of an element. -/
theorem solid_zero : ∀ element : Element, element.solid 0 = 0
  | .token kind text => by simp [solid]
  | .node kind children => solidOf_zero children

/-- Nothing is solid up to the start of elements. -/
theorem solidOf_zero : ∀ elements : List Element, solidOf elements 0 = 0
  | [] => rfl
  | element :: rest => by rw [solidOf, solid_zero element, Nat.zero_sub, solidOf_zero rest]

end

mutual

/-- Further behind, no less is solid. -/
theorem solid_mono : ∀ element : Element, Monotone element.solid
  | .token kind text => fun offset offset' hle => by
    simp only [solid]
    split
    · exact Nat.le_refl _
    · omega
  | .node kind children => solidOf_mono children

/-- Further behind, no less of elements is solid. -/
theorem solidOf_mono : ∀ elements : List Element, Monotone (solidOf elements)
  | [] => fun _ _ _ => Nat.le_refl _
  | element :: rest => fun _ _ hle =>
    Nat.add_le_add (solid_mono element hle) (solidOf_mono rest (Nat.sub_le_sub_right hle _))

end

/-- Trivia are not solid. -/
theorem solid_of_isTrivia {element : Element} (h : element.isTrivia = true) (offset : Nat) :
    element.solid offset = 0 := by
  cases element with
  | token kind text => exact if_pos h
  | node kind children => cases h

mutual

/-- What is solid of an element, and of anything behind it, is as long as the bare element. -/
theorem solid_length : ∀ (element : Element) (extra : Nat), element.isTrivia = false →
    element.solid (element.length + extra) = element.bare.length
  | .token kind text, extra, h => by
    have htrivia : kind.isTrivia = false := h
    simp [solid, bare, length, htrivia]
  | .node kind children, extra, _ => solidOf_length children extra

/-- Up to their end, all that is no trivia in elements is solid. -/
theorem solidOf_length : ∀ (elements : List Element) (extra : Nat),
    solidOf elements (lengthOf elements + extra) = lengthOf (bareAll elements)
  | [], _ => rfl
  | element :: rest, extra => by
    have hrest := solidOf_length rest extra
    rw [solidOf, lengthOf, Nat.add_assoc, Nat.add_sub_cancel_left, hrest, bareAll]
    split
    · rename_i htrivia
      rw [solid_of_isTrivia htrivia, Nat.zero_add]
    · rename_i hsolid
      rw [solid_length element _ (Bool.eq_false_iff.2 hsolid), lengthOf]

end

/-- Behind the end of an element nothing more of it is solid. -/
theorem solid_full (element : Element) (extra : Nat) :
    element.solid (element.length + extra) = element.solid element.length := by
  cases htrivia : element.isTrivia
  · exact (solid_length element extra htrivia).trans (solid_length element 0 htrivia).symm
  · rw [solid_of_isTrivia htrivia, solid_of_isTrivia htrivia]

/-- Where an element is located, it stays trivia or not. -/
theorem isTrivia_locate (element : Element) (index start : Nat) :
    (element.locate index start).1.isTrivia = element.isTrivia := by
  cases element <;> rfl

/-- Trivia take no number. -/
theorem next_locate {element : Element} (h : element.isTrivia = true) (index start : Nat) :
    (element.locate index start).2 = index := by
  cases element with
  | token kind text => rfl
  | node kind children => cases h

end Element

/-! ## Locating -/

/-- **A tree without trivia and the tree with it**: the same nodes and tokens, where `place` tells how much
before an offset is no trivia. -/
def Likeness.bare (place : Nat → Nat) (hplace : Monotone place) : Likeness where
  info info info' := info'.kind = info.kind ∧ info'.index = info.index ∧ place info'.start = info.start
  token leaf leaf' := leaf'.kind = leaf.kind ∧ leaf'.text = leaf.text ∧
    (∀ extra ≤ leaf.text.utf8ByteSize, place (leaf'.start + extra) = leaf.start + extra) ∧
      (leaf.kind = .elseKeyword → leaf.text ≠ "")
  qualifies _ _ := True
  kind_eq := fun h => h.1
  token_kind_eq := fun h => h.1
  token_text_eq := fun h => h.2.1
  follows_iff := by
    rintro leaf leaf' info info' helse ⟨-, htext, htoken, hfilled⟩ ⟨-, -, hinfo⟩
    have hstop := htoken _ (Nat.le_refl _)
    have hsize : 0 < leaf.text.utf8ByteSize :=
      Nat.pos_of_ne_zero fun hzero => hfilled helse (String.utf8ByteSize_eq_zero_iff.1 hzero)
    rw [Token.stop, Token.stop, htext]
    constructor
    · intro h
      have := hplace h
      omega
    · intro h
      by_contra hlt
      -- the last byte of the token is solid, and the node does not start behind it
      have hlast := htoken (leaf.text.utf8ByteSize - 1) (by omega)
      have := hplace (show info'.start ≤ leaf'.start + (leaf.text.utf8ByteSize - 1) by omega)
      omega

/-- Different nodes have different numbers, with trivia or without. -/
theorem Likeness.faithful_bare {place : Nat → Nat} (hplace : Monotone place) :
    (Likeness.bare place hplace).Faithful := by
  rintro info info' other other' ⟨-, hinfo, -⟩ ⟨-, hother, -⟩
  rw [hinfo, hother]

namespace Element

variable {place : Nat → Nat} (hplace : Monotone place)

mutual

/-- **Locating without trivia**: the same tree as with it, but without trivia.

**Proof sketch.** Induction over the elements. What is passed down is that as much of the text before an
offset within the element is solid as before the element and in it up to there. -/
theorem locate_bare : ∀ (element : Element) (index start : Nat), element.isTrivia = false →
    element.ElseFilled → (∀ offset ≤ element.length, place (start + offset) =
      place start + element.solid offset) →
    (element.bare.locate index (place start)).1.Alike (.bare place hplace)
        (element.locate index start).1.bare ∧
      (element.bare.locate index (place start)).2 = (element.locate index start).2
  | .token kind text, index, start, htrivia, hfilled, hsolid => by
    have helse : Filled (kind, text) := hfilled _ List.mem_cons_self
    refine ⟨.token ⟨rfl, rfl, fun extra hextra => ?_, helse⟩, rfl⟩
    have htrivia : kind.isTrivia = false := htrivia
    have := hsolid extra hextra
    rw [solid, if_neg (by simp [htrivia]), Nat.min_eq_left hextra] at this
    exact this
  | .node kind children, index, start, _, hfilled, hsolid => by
    obtain ⟨halike, hnext⟩ := locateAll_bare children (index + 1) start hfilled hsolid
    exact ⟨.node ⟨rfl, rfl, rfl⟩ (fun _ _ _ _ => trivial) halike, hnext⟩

/-- Locating several elements without trivia. -/
theorem locateAll_bare : ∀ (elements : List Element) (index start : Nat),
    (∀ leaf ∈ leavesOf elements, Filled leaf) →
    (∀ offset ≤ lengthOf elements, place (start + offset) = place start + solidOf elements offset) →
    List.Forall₂ (Located.Alike (.bare place hplace))
        (locateAll (bareAll elements) index (place start)).1
        (Located.bareAll (locateAll elements index start).1) ∧
      (locateAll (bareAll elements) index (place start)).2 = (locateAll elements index start).2
  | [], index, start, _, _ => ⟨.nil, rfl⟩
  | element :: rest, index, start, hfilled, hsolid => by
    obtain ⟨hfirst, hfilled⟩ := List.forall_mem_append.1 hfilled
    -- the part of the text that belongs to the first element
    have hsolidFirst : ∀ offset ≤ element.length,
        place (start + offset) = place start + element.solid offset := by
      intro offset hoffset
      have := hsolid offset (Nat.le_add_right_of_le hoffset)
      rw [solidOf, Nat.sub_eq_zero_of_le hoffset, solidOf_zero] at this
      exact this
    have hmiddle := hsolidFirst _ (Nat.le_refl _)
    -- the part of the text behind it
    have hsolidRest : ∀ offset ≤ lengthOf rest, place (start + element.length + offset) =
        place (start + element.length) + solidOf rest offset := by
      intro offset hoffset
      have hbehind := hsolid (element.length + offset) (Nat.add_le_add_left hoffset _)
      rw [solidOf, Nat.add_sub_cancel_left, ← Nat.add_assoc] at hbehind
      rw [hbehind, hmiddle, solid_full, Nat.add_assoc]
    obtain ⟨hrest, hlast⟩ := locateAll_bare rest (element.locate index start).2 _ hfilled hsolidRest
    rw [bareAll, locateAll_cons]
    dsimp only
    rw [Located.bareAll, isTrivia_locate]
    split
    · rename_i htrivia
      -- nothing of the first element is left
      rw [solid_of_isTrivia htrivia, Nat.add_zero] at hmiddle
      rw [hmiddle, next_locate htrivia] at hrest hlast
      rw [next_locate htrivia]
      exact ⟨hrest, hlast⟩
    · rename_i htrivia
      have htrivia : element.isTrivia = false := Bool.eq_false_iff.2 htrivia
      obtain ⟨halike, hnext⟩ := locate_bare element index start htrivia hfirst hsolidFirst
      have hstop : place start + element.bare.length = place (start + element.length) := by
        rw [hmiddle, ← solid_length element 0 htrivia]
        rfl
      rw [locateAll_cons]
      dsimp only
      rw [hstop, hnext]
      exact ⟨.cons halike hrest, hlast⟩

end

end Element

end QuerySemantics
