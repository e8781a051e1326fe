import QuerySemantics.Proofs.Ast.Licensed
import QuerySemantics.Proofs.Draft.Whole

/-!
# Children of drafted nodes

What a node of a draft consists of, besides reserved words and punctuation marks: the nodes below it,
and its identifiers. From this it follows which children its accessors find, whatever blanks are put
between them, and so which of them it licenses.

## Main definitions

* `Element.inner`, `Element.identCount`: the nodes among some elements, and the number of identifiers.
* `Piece.inner`, `Piece.idents`: the same for what elements are read as.
* `Element.IsRead`: an element that is read as a piece of a certain form.
* `Element.Fits`: a node that licenses its children, whatever blanks are between them.
* `Element.Licensed`: an element that is located as a licensed tree.

## Main results

* `Element.ReadsAll.inner`, `Element.ReadsAll.length_idents`: nodes and identifiers are found again.
* `Element.Fits.plain`, `Element.Fits.named`: a node fits if it licenses the nodes below it and knows its
  identifier.
* `Element.Licensed.node`: an element is licensed if its node fits and its children are licensed.
-/

set_option autoImplicit false

namespace QuerySemantics

/-! ## Nodes and identifiers among elements -/

namespace Element

/-- **Inner elements**: those that are nodes. -/
def inner (elements : List Element) : List Element :=
  elements.filter fun element => element.tokenKind?.isNone

/-- **Number of identifiers** among elements. -/
def identCount (elements : List Element) : Nat :=
  (elements.filterMap tokenKind?).count .identifier

section Counting

variable {element : Element} {elements others : List Element}

/-- No elements have no inner elements. -/
@[simp] theorem inner_nil : inner [] = [] :=
  rfl

/-- A token is no inner element. -/
@[simp] theorem inner_token (kind : Kind) (text : String) :
    inner (.token kind text :: elements) = inner elements :=
  rfl

/-- A fixed word is no inner element. -/
@[simp] theorem inner_fixed (kind : Kind) : inner (.fixed kind :: elements) = inner elements :=
  rfl

/-- An identifier is no inner element. -/
@[simp] theorem inner_identifier (text : String) :
    inner (.identifier text :: elements) = inner elements :=
  rfl

/-- A node is an inner element. -/
@[simp] theorem inner_node (kind : Kind) (children : List Element) :
    inner (.node kind children :: elements) = .node kind children :: inner elements :=
  rfl

/-- The inner elements of a list behind another come behind those of the other. -/
@[simp] theorem inner_append : inner (elements ++ others) = inner elements ++ inner others :=
  List.filter_append elements others

/-- Fixed words have no inner elements. -/
@[simp] theorem inner_words (kinds : List Kind) : inner (Draft.words kinds) = [] := by
  induction kinds with
  | nil => rfl
  | cons kind kinds ih => exact ih

/-- Parentheses add no inner elements. -/
@[simp] theorem inner_enclosed : inner (Draft.enclosed elements) = inner elements := by
  simp [Draft.enclosed]

/-- There is a comma between the first two elements. -/
theorem separated_cons_cons (first second : Element) (rest : List Element) :
    Draft.separated (first :: second :: rest) =
      first :: .fixed .comma :: Draft.separated (second :: rest) :=
  rfl

/-- Only nodes are lost sight of if an element is put in front. -/
theorem inner_cons : inner (element :: elements) = inner [element] ++ inner elements :=
  List.filter_append [element] elements

/-- Commas add no inner elements. -/
@[simp] theorem inner_separated : inner (Draft.separated elements) = inner elements := by
  induction elements with
  | nil => rfl
  | cons first rest ih =>
    cases rest with
    | nil => rfl
    | cons second rest => rw [separated_cons_cons, inner_cons, inner_fixed, ih, ← inner_cons]

/-- A node is an inner element. -/
theorem inner_of_node (h : element.tokenKind? = none) :
    inner (element :: elements) = element :: inner elements :=
  List.filter_cons_of_pos (by simp [h])

/-- There are no identifiers among no elements. -/
@[simp] theorem identCount_nil : identCount [] = 0 :=
  rfl

/-- Whether a fixed word is an identifier. -/
@[simp] theorem identCount_fixed (kind : Kind) :
    identCount (.fixed kind :: elements) =
      identCount elements + if kind = .identifier then 1 else 0 := by
  simp [identCount, List.count_cons]

/-- Whether a token is an identifier. -/
@[simp] theorem identCount_token (kind : Kind) (text : String) :
    identCount (.token kind text :: elements) =
      identCount elements + if kind = .identifier then 1 else 0 := by
  simp [identCount, List.count_cons, tokenKind?]

/-- An identifier counts. -/
@[simp] theorem identCount_identifier (text : String) :
    identCount (.identifier text :: elements) = identCount elements + 1 := by
  simp [identCount, Element.identifier, tokenKind?]

/-- A node does not count as an identifier. -/
@[simp] theorem identCount_node (kind : Kind) (children : List Element) :
    identCount (.node kind children :: elements) = identCount elements :=
  rfl

/-- An element that is a node does not count as an identifier. -/
theorem identCount_of_node (h : element.tokenKind? = none) :
    identCount (element :: elements) = identCount elements := by
  rw [identCount, List.filterMap_cons_none h, identCount]

/-- Identifiers of one list and of another. -/
@[simp] theorem identCount_append :
    identCount (elements ++ others) = identCount elements + identCount others := by
  simp [identCount, List.filterMap_append]

/-- Identifiers among fixed words. -/
@[simp] theorem identCount_words (kinds : List Kind) :
    identCount (Draft.words kinds) = kinds.count .identifier := by
  rw [identCount, Draft.filterMap_words]

/-- Parentheses add no identifiers. -/
@[simp] theorem identCount_enclosed :
    identCount (Draft.enclosed elements) = identCount elements := by
  simp [Draft.enclosed]

/-- Identifiers of the first element and of the rest. -/
theorem identCount_cons :
    identCount (element :: elements) = identCount [element] + identCount elements := by
  rw [← List.singleton_append, identCount_append]

/-- Commas add no identifiers. -/
@[simp] theorem identCount_separated :
    identCount (Draft.separated elements) = identCount elements := by
  induction elements with
  | nil => rfl
  | cons first rest ih =>
    cases rest with
    | nil => rfl
    | cons second rest =>
      have hsum : identCount (first :: second :: rest) =
          identCount [first] + identCount (second :: rest) := identCount_cons
      rw [separated_cons_cons, identCount_cons, identCount_fixed, ih, hsum, if_neg (by decide),
        Nat.add_zero]

end Counting

end Element

/-! ## Nodes and identifiers among pieces -/

namespace Piece

/-- **Inner pieces**: those that are no tokens. -/
def inner (pieces : List Piece) : List Piece :=
  pieces.filter fun piece => piece.token?.isNone

/-- **Identifiers** among pieces. -/
def idents (pieces : List Piece) : List Token :=
  (pieces.filterMap token?).filter (·.kind == .identifier)

/-- The inner pieces of a list behind another come behind those of the other. -/
@[simp] theorem inner_append (pieces others : List Piece) :
    inner (pieces ++ others) = inner pieces ++ inner others :=
  List.filter_append pieces others

section Access

variable {α : Type} {pieces found : List Piece} {access : Piece → Option α}

/-- What looks at nodes only finds them among the inner pieces. -/
theorem filterMap_of_inner (h : inner pieces = found) (haccess : ∀ leaf, access (.token leaf) = none) :
    pieces.filterMap access = found.filterMap access := by
  subst h
  induction pieces with
  | nil => rfl
  | cons piece pieces ih =>
    cases piece with
    | token leaf =>
      rw [List.filterMap_cons_none (haccess leaf), ih]
      rfl
    | _ =>
      rw [show inner (_ :: pieces) = _ :: inner pieces from rfl, List.filterMap_cons,
        List.filterMap_cons, ih]

/-- What no token is found as is found among inner pieces. -/
theorem findSome?_of_inner (h : inner pieces = found) (haccess : ∀ leaf, access (.token leaf) = none) :
    pieces.findSome? access = found.findSome? access := by
  rw [← List.head?_filterMap, ← List.head?_filterMap, filterMap_of_inner h haccess]

/-- The first expression is an inner piece. -/
theorem expression?_of_inner (h : inner pieces = found) : expression? pieces = expression? found :=
  findSome?_of_inner h fun _ => rfl

/-- The second expression is an inner piece. -/
theorem secondExpression?_of_inner (h : inner pieces = found) :
    secondExpression? pieces = secondExpression? found :=
  congrArg (·[1]?) (filterMap_of_inner h fun _ => rfl)

/-- What looks for a form finds all pieces of this form. -/
theorem filterMap_form (access : Piece → Option α) (wrap : α → Piece)
    (h : ∀ it, access (wrap it) = some it) (items : List α) :
    (items.map wrap).filterMap access = items := by
  rw [List.filterMap_map, show access ∘ wrap = some from funext h, List.filterMap_some]

/-- What looks for a form finds nothing among pieces of another form. -/
theorem filterMap_other {β : Type} (access : Piece → Option α) (wrap : β → Piece)
    (h : ∀ it, access (wrap it) = none) (items : List β) :
    (items.map wrap).filterMap access = [] := by
  rw [List.filterMap_map, List.filterMap_eq_nil_iff]
  exact fun it _ => h it

/-- Every piece is a token or an inner piece. -/
theorem mem_inner_iff {piece : Piece} :
    piece ∈ inner pieces ↔ piece ∈ pieces ∧ ∀ leaf, piece ≠ .token leaf := by
  rw [inner, List.mem_filter]
  refine and_congr_right fun _ => ?_
  cases piece <;> simp [token?]

/-- A piece licenses all pieces that it was read from if it licenses the inner ones and the
identifiers. -/
theorem licenses_all {piece : Piece} (hinner : ∀ child ∈ inner pieces, piece.Licenses child)
    (hidents : ∀ leaf ∈ idents pieces, piece.Licenses (.token leaf)) :
    ∀ child ∈ pieces, piece.Licenses child := by
  intro child hchild
  by_cases htoken : ∃ leaf, child = .token leaf
  · obtain ⟨leaf, rfl⟩ := htoken
    by_cases hkind : leaf.kind = .identifier
    · refine hidents leaf (List.mem_filter.2 ⟨?_, by simp [hkind]⟩)
      exact List.mem_filterMap.2 ⟨_, hchild, rfl⟩
    · exact .word hkind
  · exact hinner child (mem_inner_iff.2 ⟨hchild, fun leaf hleaf => htoken ⟨leaf, hleaf⟩⟩)

/-- The first identifier is the one that is found. -/
theorem tokenOf?_identifier (pieces : List Piece) :
    tokenOf? .identifier pieces = (idents pieces).head? := by
  rw [tokenOf?, idents, List.head?_filter]

end Access

end Piece

namespace Element

/-! ## Reading nodes and identifiers -/

/-- **Nodes are found again** among the pieces, in order. -/
theorem ReadsAll.inner {elements : List Element} {pieces : List Piece}
    (h : ReadsAll elements pieces) : List.Forall₂ Reads (inner elements) (Piece.inner pieces) := by
  induction h with
  | nil => exact .nil
  | @cons element elements piece pieces hfirst _ ih =>
    cases element with
    | token kind text =>
      obtain ⟨offset, rfl⟩ := hfirst.of_token
      exact ih
    | node kind children =>
      have hpiece : Piece.inner (piece :: pieces) = piece :: Piece.inner pieces :=
        List.filter_cons_of_pos (by simp [hfirst.token?_of_node])
      rw [hpiece]
      exact .cons hfirst ih
  | blank _ _ ih => exact ih

/-- **Identifiers are found again** among the pieces. -/
theorem ReadsAll.length_idents {elements : List Element} {pieces : List Piece}
    (h : ReadsAll elements pieces) : (Piece.idents pieces).length = identCount elements := by
  induction h with
  | nil => rfl
  | @cons element elements piece pieces hfirst _ ih =>
    cases element with
    | token kind text =>
      obtain ⟨offset, rfl⟩ := hfirst.of_token
      rw [identCount_token, ← ih]
      by_cases hkind : kind = .identifier <;> simp [Piece.idents, Piece.token?, hkind]
    | node kind children =>
      rw [identCount_node, ← ih, Piece.idents, List.filterMap_cons_none hfirst.token?_of_node]
      rfl
  | @blank elements pieces leaf hleaf _ ih =>
    rw [← ih]
    simp [Piece.idents, Piece.token?, hleaf]

/-- A token among the pieces is one of the elements, or it is a blank. -/
theorem ReadsAll.token_mem {elements : List Element} {pieces : List Piece} {leaf : Token}
    (h : ReadsAll elements pieces) (hleaf : .token leaf ∈ pieces) :
    leaf.kind = .whitespace ∨ .token leaf.kind leaf.text ∈ elements := by
  induction h with
  | nil => cases hleaf
  | @cons element elements piece pieces hfirst _ ih =>
    rcases List.mem_cons.1 hleaf with rfl | hleaf
    · cases element with
      | token kind text =>
        obtain ⟨offset, hpiece⟩ := hfirst.of_token
        obtain rfl := Piece.token.inj hpiece
        exact .inr List.mem_cons_self
      | node kind children => exact nomatch hfirst.token?_of_node
    · exact (ih hleaf).imp_right (List.mem_cons_of_mem _)
  | blank hblank _ ih =>
    rcases List.mem_cons.1 hleaf with hleaf | hleaf
    · exact .inl (Piece.token.inj hleaf ▸ hblank)
    · exact ih hleaf

/-- **Read in a form**: whatever blanks are inside, the element is read as a piece of the form. -/
def IsRead {α : Type} (wrap : α → Piece) (element : Element) : Prop :=
  ∀ piece, element.Reads piece → ∃ it, piece = wrap it

section Forms

variable {α β : Type} {wrap : α → Piece} {wrap' : β → Piece} {first second : Element}
  {elements : List Element} {pieces : List Piece}

/-- The one node among the elements is the only inner piece. -/
theorem ReadsAll.inner_single (h : ReadsAll elements pieces) (hinner : Element.inner elements = [first])
    (hfirst : first.IsRead wrap) : ∃ it, Piece.inner pieces = [wrap it] := by
  have hread := h.inner
  rw [hinner] at hread
  obtain ⟨piece, rest, hpiece, hrest, hpieces⟩ := List.forall₂_cons_left_iff.1 hread
  obtain rfl := List.forall₂_nil_left_iff.1 hrest
  obtain ⟨it, rfl⟩ := hfirst piece hpiece
  exact ⟨it, hpieces⟩

/-- Two nodes among the elements are the inner pieces. -/
theorem ReadsAll.inner_pair (h : ReadsAll elements pieces)
    (hinner : Element.inner elements = [first, second]) (hfirst : first.IsRead wrap)
    (hsecond : second.IsRead wrap') : ∃ it it', Piece.inner pieces = [wrap it, wrap' it'] := by
  have hread := h.inner
  rw [hinner] at hread
  obtain ⟨piece, others, hpiece, hothers, hpieces⟩ := List.forall₂_cons_left_iff.1 hread
  obtain ⟨other, rest, hother, hrest, rfl⟩ := List.forall₂_cons_left_iff.1 hothers
  obtain rfl := List.forall₂_nil_left_iff.1 hrest
  obtain ⟨it, rfl⟩ := hfirst piece hpiece
  obtain ⟨it', rfl⟩ := hsecond other hother
  exact ⟨it, it', hpieces⟩

/-- **Nodes of one form** are read as pieces of this form. -/
theorem ReadsAll.inner_forms (h : ReadsAll elements pieces)
    (hread : ∀ element ∈ Element.inner elements, element.IsRead wrap) :
    ∃ items : List α, Piece.inner pieces = items.map wrap ∧
      items.length = (Element.inner elements).length := by
  have hall := h.inner
  generalize Piece.inner pieces = found at hall
  generalize Element.inner elements = nodes at hall hread
  induction hall with
  | nil => exact ⟨[], rfl, rfl⟩
  | cons hfirst _ ih =>
    rw [List.forall_mem_cons] at hread
    obtain ⟨it, rfl⟩ := hread.1 _ hfirst
    obtain ⟨items, rfl, hlength⟩ := ih hread.2
    exact ⟨it :: items, rfl, congrArg (· + 1) hlength⟩

/-- **A node that need not be there** is read as a piece of its form exactly where it is there. -/
theorem ReadsAll.inner_option {β : Type} {write : β → Element} {given : Option β}
    (h : ReadsAll elements pieces) (hinner : Element.inner elements = given.toList.map write)
    (hread : ∀ it, (write it).IsRead wrap) :
    ∃ read : Option α, Piece.inner pieces = read.toList.map wrap ∧ read.isSome = given.isSome := by
  cases given with
  | none =>
    have hnone := h.inner
    rw [hinner] at hnone
    exact ⟨none, List.forall₂_nil_left_iff.1 hnone, rfl⟩
  | some it =>
    obtain ⟨read, hsome⟩ := h.inner_single hinner (hread it)
    exact ⟨some read, hsome, rfl⟩

/-- What licenses the reading of the only node below it licenses all inner pieces. -/
theorem ReadsAll.licenses_single {piece : Piece} (h : ReadsAll elements pieces)
    (hinner : Element.inner elements = [first]) (hfirst : first.IsRead wrap)
    (hlicenses : ∀ it, Piece.inner pieces = [wrap it] → piece.Licenses (wrap it)) :
    ∀ child ∈ Piece.inner pieces, piece.Licenses child := by
  obtain ⟨it, hit⟩ := h.inner_single hinner hfirst
  intro child hchild
  rw [hit] at hchild
  obtain rfl := List.mem_singleton.1 hchild
  exact hlicenses it hit

/-- What licenses the readings of the two nodes below it licenses all inner pieces. -/
theorem ReadsAll.licenses_pair {piece : Piece} (h : ReadsAll elements pieces)
    (hinner : Element.inner elements = [first, second]) (hfirst : first.IsRead wrap)
    (hsecond : second.IsRead wrap')
    (hlicenses : ∀ it it', Piece.inner pieces = [wrap it, wrap' it'] →
      piece.Licenses (wrap it) ∧ piece.Licenses (wrap' it')) :
    ∀ child ∈ Piece.inner pieces, piece.Licenses child := by
  obtain ⟨it, it', hboth⟩ := h.inner_pair hinner hfirst hsecond
  rw [hboth, List.forall_mem_cons, List.forall_mem_singleton]
  exact hlicenses it it' hboth

/-- **Splitting**: what elements in a row are read as splits where the elements do. -/
theorem ReadsAll.split {others : List Element} (h : ReadsAll (elements ++ others) pieces) :
    ∃ front back, pieces = front ++ back ∧ ReadsAll elements front ∧ ReadsAll others back := by
  generalize hall : elements ++ others = all at h
  induction h generalizing elements with
  | nil =>
    obtain ⟨rfl, rfl⟩ := List.append_eq_nil_iff.1 hall
    exact ⟨[], [], rfl, .nil, .nil⟩
  | @cons element rest piece pieces hfirst hrest ih =>
    cases elements with
    | nil =>
      obtain rfl : others = element :: rest := hall
      exact ⟨[], _, rfl, .nil, .cons hfirst hrest⟩
    | cons own elements =>
      obtain ⟨rfl, htail⟩ := List.cons.inj hall
      obtain ⟨front, back, rfl, hfront, hback⟩ := ih htail
      exact ⟨_ :: front, back, rfl, .cons hfirst hfront, hback⟩
  | @blank rest pieces leaf hleaf _ ih =>
    obtain ⟨front, back, rfl, hfront, hback⟩ := ih hall
    exact ⟨_ :: front, back, rfl, .blank hleaf hfront, hback⟩

/-- A node of a kind is read in the form of this kind. -/
theorem isRead_node {kind : Kind} {children : List Element}
    (h : ∀ info pieces, info.kind = kind → ∃ it, Piece.ofNode info pieces = wrap it) :
    (Element.node kind children).IsRead wrap := by
  intro piece hreads
  obtain ⟨info, pieces, hinfo, rfl, -⟩ := hreads.of_node
  exact h info pieces hinfo

end Forms

/-! ## Nodes of one form -/

/-- **Nodes of a form**, one after the other. -/
def AllRead {α : Type} (wrap : α → Piece) (elements : List Element) : Prop :=
  ∀ element ∈ elements, element.tokenKind? = none ∧ element.IsRead wrap

namespace AllRead

variable {α : Type} {wrap : α → Piece} {element : Element} {elements : List Element}

/-- No elements are of any form. -/
theorem nil : AllRead wrap [] :=
  fun _ h => nomatch h

/-- A node in front of nodes of a form. -/
theorem cons (hnode : element.tokenKind? = none) (hread : element.IsRead wrap)
    (h : AllRead wrap elements) : AllRead wrap (element :: elements) :=
  List.forall_mem_cons.2 ⟨⟨hnode, hread⟩, h⟩

/-- Nodes of a form are inner elements. -/
theorem inner (h : AllRead wrap elements) : Element.inner elements = elements :=
  List.filter_eq_self.2 fun element helement => by simp [(h element helement).1]

/-- There are no identifiers among nodes of a form. -/
theorem identCount (h : AllRead wrap elements) : Element.identCount elements = 0 := by
  rw [Element.identCount, List.filterMap_eq_nil_iff.2 fun element helement => (h element helement).1]
  rfl

/-- They are read as pieces of this form. -/
theorem reads {others : List Element} {pieces : List Piece} (h : AllRead wrap elements)
    (hothers : Element.inner others = elements) (hreads : ReadsAll others pieces) :
    ∃ items : List α, Piece.inner pieces = items.map wrap := by
  obtain ⟨items, hitems, -⟩ := hreads.inner_forms fun element helement =>
    (h element (hothers ▸ helement)).2
  exact ⟨items, hitems⟩

/-- What looks for the form finds all of them. -/
theorem found {others : List Element} {pieces : List Piece} (h : AllRead wrap elements)
    (access : Piece → Option α) (hwrap : ∀ it, access (wrap it) = some it)
    (htoken : ∀ leaf, access (.token leaf) = none) (hothers : Element.inner others = elements)
    (hreads : ReadsAll others pieces) :
    ∃ items, Piece.inner pieces = items.map wrap ∧ pieces.filterMap access = items := by
  obtain ⟨items, hitems⟩ := h.reads hothers hreads
  refine ⟨items, hitems, ?_⟩
  rw [Piece.filterMap_of_inner hitems htoken, Piece.filterMap_form access wrap hwrap]

end AllRead

end Element

namespace Located

/-! ## Elements in a row -/

/-- **Preceding**: the one element begins and ends no later than the other one begins. -/
def Precedes (before behind : Located) : Prop :=
  before.start ≤ behind.start ∧ before.stop ≤ behind.start

/-- Elements that are placed from an offset on begin there or behind it. -/
theorem PlacedAll.le_start {part : Located} : ∀ {parts : List Located}
    {index offset next stop : Nat}, PlacedAll parts index offset next stop → part ∈ parts →
      offset ≤ part.start
  | first :: rest, _, _, _, _, ⟨_, hfirst, hrest⟩, hpart => by
    obtain ⟨-, hstart, hstop⟩ := hfirst.le
    rcases List.mem_cons.1 hpart with rfl | hpart
    · exact hstart.ge
    · exact hstop.trans (hrest.le_start hpart)

/-- **Placed elements** stand one behind the other. -/
theorem PlacedAll.pairwise : ∀ {parts : List Located} {index offset next stop : Nat},
    PlacedAll parts index offset next stop → parts.Pairwise Precedes
  | [], _, _, _, _, _ => .nil
  | _ :: _, _, _, _, _, ⟨_, hfirst, hrest⟩ => by
    obtain ⟨-, hstart, hstop⟩ := hfirst.le
    refine .cons (fun part hpart => ⟨?_, hrest.le_start hpart⟩) hrest.pairwise
    exact (hstart.trans_le hstop).trans (hrest.le_start hpart)

/-- An expression is read from an element that begins where its node does. -/
theorem start_of_expr {part : Located} {it : Ast.Expr} (h : part.piece = .expr it) :
    part.start = it.info.start := by
  have hinfo := part.info?_piece
  rw [h] at hinfo
  cases part with
  | token leaf => cases hinfo
  | node info children =>
    obtain rfl : it.info = info := Option.some.inj hinfo
    rfl

/-- A token is read from itself. -/
theorem eq_of_piece_token {part : Located} {leaf : Token} (h : part.piece = .token leaf) :
    part = .token leaf := by
  cases part with
  | token own => exact congrArg Located.token (Piece.token.inj h)
  | node info children =>
    have hinfo := (Located.node info children).info?_piece
    rw [h] at hinfo
    cases hinfo

/-- Where the pieces of elements in a row split, the first ones precede the others. -/
theorem precedes_of_pieces {parts : List Located} {front back : List Piece} {one two : Piece}
    (h : parts.Pairwise Precedes) (hpieces : pieces parts = front ++ back) (hone : one ∈ front)
    (htwo : two ∈ back) :
    ∃ before behind, before.piece = one ∧ behind.piece = two ∧ Precedes before behind := by
  rw [pieces_eq_map] at hpieces
  obtain ⟨first, second, rfl, rfl, rfl⟩ := List.map_eq_append_iff.1 hpieces
  obtain ⟨before, hbefore, rfl⟩ := List.mem_map.1 hone
  obtain ⟨behind, hbehind, rfl⟩ := List.mem_map.1 htwo
  exact ⟨before, behind, rfl, rfl, (List.pairwise_append.1 h).2.2 before hbefore behind hbehind⟩

/-- An expression in front of a token begins no later. -/
theorem expr_start_le {parts : List Located} {front back : List Piece} {it : Ast.Expr} {leaf : Token}
    (h : parts.Pairwise Precedes) (hpieces : pieces parts = front ++ back) (hexpr : .expr it ∈ front)
    (hleaf : .token leaf ∈ back) : it.info.start ≤ leaf.start := by
  obtain ⟨before, behind, hbefore, hbehind, hle, -⟩ := precedes_of_pieces h hpieces hexpr hleaf
  rwa [start_of_expr hbefore, eq_of_piece_token hbehind] at hle

/-- An expression behind a token begins no earlier than the token ends. -/
theorem token_stop_le {parts : List Located} {front back : List Piece} {it : Ast.Expr} {leaf : Token}
    (h : parts.Pairwise Precedes) (hpieces : pieces parts = front ++ back)
    (hleaf : .token leaf ∈ front) (hexpr : .expr it ∈ back) : leaf.stop ≤ it.info.start := by
  obtain ⟨before, behind, hbefore, hbehind, -, hle⟩ := precedes_of_pieces h hpieces hleaf hexpr
  rwa [eq_of_piece_token hbefore, start_of_expr hbehind] at hle

end Located

namespace Element

/-! ## Licensed elements -/

/-- **Fitting**: a node of the kind licenses all pieces that its children are read as. -/
def Fits (kind : Kind) (children : List Element) : Prop :=
  ∀ info parts, info.kind = kind → ReadsAll children (Located.pieces parts) →
    parts.Pairwise Located.Precedes →
      ∀ piece ∈ Located.pieces parts, (Piece.ofNode info (Located.pieces parts)).Licenses piece

section Fitting

variable {kind : Kind} {children : List Element}

/-- A node without identifiers fits if it licenses the nodes below it, which stand one behind the
other. -/
theorem Fits.placed (hcount : identCount children = 0)
    (hinner : ∀ info parts, info.kind = kind → ReadsAll children (Located.pieces parts) →
      parts.Pairwise Located.Precedes → ∀ piece ∈ Piece.inner (Located.pieces parts),
        (Piece.ofNode info (Located.pieces parts)).Licenses piece) :
    Fits kind children := by
  intro info parts hinfo hreads hplaced
  refine Piece.licenses_all (hinner info parts hinfo hreads hplaced) fun leaf hleaf => ?_
  rw [List.eq_nil_of_length_eq_zero (hreads.length_idents.trans hcount)] at hleaf
  cases hleaf

/-- A node without identifiers fits if it licenses the nodes below it. -/
theorem Fits.plain (hcount : identCount children = 0)
    (hinner : ∀ info pieces, info.kind = kind → ReadsAll children pieces →
      ∀ piece ∈ Piece.inner pieces, (Piece.ofNode info pieces).Licenses piece) :
    Fits kind children :=
  .placed hcount fun info _ hinfo hreads _ => hinner info _ hinfo hreads

/-- A node with one identifier fits if it licenses the nodes below it and knows the identifier. -/
theorem Fits.named (hcount : identCount children = 1)
    (hinner : ∀ info pieces, info.kind = kind → ReadsAll children pieces →
      ∀ piece ∈ Piece.inner pieces, (Piece.ofNode info pieces).Licenses piece)
    (hident : ∀ info pieces leaf, info.kind = kind → ReadsAll children pieces →
      Piece.tokenOf? .identifier pieces = some leaf →
        (Piece.ofNode info pieces).ownIdent? = some leaf) : Fits kind children := by
  intro info parts hinfo hreads _
  refine Piece.licenses_all (hinner info _ hinfo hreads) fun leaf hleaf => .ident ?_
  obtain ⟨own, hown⟩ := List.length_eq_one_iff.1 (hreads.length_idents.trans hcount)
  rw [hown, List.mem_singleton] at hleaf
  refine hident info _ leaf hinfo hreads ?_
  rw [Piece.tokenOf?_identifier, hown, hleaf, List.head?_cons]

/-- A node without nodes below it. -/
theorem ReadsAll.inner_nil {pieces : List Piece} (h : ReadsAll children pieces)
    (hchildren : Element.inner children = []) : Piece.inner pieces = [] := by
  have hread := h.inner
  rw [hchildren] at hread
  exact List.forall₂_nil_left_iff.1 hread

/-- A node without nodes below it and without identifiers fits. -/
theorem Fits.leaf (hcount : identCount children = 0) (hinner : Element.inner children = []) :
    Fits kind children := by
  refine .plain hcount fun info pieces _ hreads piece hpiece => ?_
  rw [hreads.inner_nil hinner] at hpiece
  cases hpiece

end Fitting

/-- **Licensed element**: with whatever blanks and in whatever place, it is located as a licensed
tree. -/
def Licensed (element : Element) : Prop :=
  ∀ previous index offset, ((element.space previous).1.locate index offset).1.Licensed

/-- Located elements with blanks between them are located elements and blanks. -/
theorem mem_locateAll_spaceAll {parent : Kind} {part : Located} {elements : List Element}
    {previous : Option Kind} {index offset : Nat}
    (h : part ∈ (locateAll (spaceAll parent elements previous).1 index offset).1) :
    (∃ leaf, part = .token leaf) ∨ ∃ element ∈ elements, ∃ previous index offset,
      part = ((element.space previous).1.locate index offset).1 := by
  induction elements generalizing previous index offset with
  | nil => cases h
  | cons element rest ih =>
    have hstep : ∀ {previous index offset}, part ∈
        (locateAll ((element.space previous).1 :: (spaceAll parent rest
          (if attaches parent element then none else (element.space previous).2)).1) index offset).1 →
        (∃ leaf, part = .token leaf) ∨ ∃ other ∈ element :: rest, ∃ previous index offset,
          part = ((other.space previous).1.locate index offset).1 := by
      intro previous index offset h
      rcases List.mem_cons.1 h with rfl | h
      · exact .inr ⟨element, List.mem_cons_self, previous, index, offset, rfl⟩
      · refine (ih h).imp_right fun ⟨other, hother, hpart⟩ => ?_
        exact ⟨other, List.mem_cons_of_mem _ hother, hpart⟩
    simp only [spaceAll] at h
    cases hblank : needsBlank previous element with
    | true =>
      rw [hblank] at h
      rcases List.mem_cons.1 h with rfl | h
      · exact .inl ⟨_, rfl⟩
      · exact hstep h
    | false =>
      rw [hblank] at h
      exact hstep h

/-- **A node is licensed** if it fits and its children are licensed. -/
theorem Licensed.node {kind : Kind} {children : List Element}
    (h : ∀ child ∈ children, child.Licensed) (hfits : Fits kind children) :
    (Element.node kind children).Licensed := by
  intro previous index offset node hnode child hchild
  rw [space, locate, Located.nodes, List.mem_cons, Located.mem_nodesOf] at hnode
  rcases hnode with rfl | ⟨part, hpart, hnode⟩
  · refine hfits _ _ rfl (readsAll_spaceAll kind children previous (index + 1) offset) ?_ _ ?_
    · exact (placedAll_locateAll _ _ _).pairwise
    · rw [Located.pieces_eq_map]
      exact List.mem_map_of_mem hchild
  · rcases mem_locateAll_spaceAll hpart with ⟨leaf, rfl⟩ | ⟨element, helement, _, _, _, rfl⟩
    · cases hnode
    · exact h element helement _ _ _ node hnode child hchild

/-- A token is licensed. -/
theorem Licensed.token (kind : Kind) (text : String) : (Element.token kind text).Licensed :=
  fun _ _ _ _ hnode => nomatch hnode

end Element

end QuerySemantics
