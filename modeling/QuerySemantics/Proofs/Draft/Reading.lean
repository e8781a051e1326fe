import Mathlib.Data.List.Forall2
import QuerySemantics.Draft.Spacing
import QuerySemantics.Proofs.Ast.Complete

/-!
# Reading elements

An element is read the same wherever it stands and whatever blanks are put between its tokens: its
tokens and nodes are found again, in order, among the pieces that it is read from.

## Main definitions

* `Element.isLabelled`: every `CASE` in an element has a label.
* `Element.Reads`, `Element.ReadsAll`: what an element, or several ones, are read as, with blanks and
  in some place.
* `Element.Whole`: an element that is read as a complete piece, if every `CASE` in it has a label.

## Main results

* `Element.ReadsAll.find?_kind`, `Element.ReadsAll.exists_of_sublist`: tokens and nodes are found
  again among the pieces.
* `Element.Whole.node`: a node is whole if its children are and what its form calls for is there.
-/

set_option autoImplicit false

namespace QuerySemantics

namespace Element

/-! ## Labels -/

/-- Whether an element is the label of a `CASE`. -/
def isLabel : Element → Bool
  | .node .caseLabel _ => true
  | _ => false

mutual

/-- **Labelled**: whether every `CASE` in the element has at least one label. -/
def isLabelled : Element → Bool
  | .token _ _ => true
  | .node kind children =>
    (kind != .caseExpression || children.any isLabel) && areLabelled children

/-- Whether every `CASE` in the elements has at least one label. -/
def areLabelled : List Element → Bool
  | [] => true
  | element :: rest => element.isLabelled && areLabelled rest

end

/-- Elements are labelled if each of them is. -/
theorem areLabelled_iff {elements : List Element} :
    areLabelled elements = true ↔ ∀ element ∈ elements, element.isLabelled = true := by
  induction elements with
  | nil => simp [areLabelled]
  | cons element rest ih => simp [areLabelled, ih]

/-! ## Readings of elements -/

/-- **Reading** of an element, with blanks inside and in some place. -/
def Reads (element : Element) (piece : Piece) : Prop :=
  ∃ previous index offset, ((element.space previous).1.locate index offset).1.piece = piece

/-- **Readings** of several elements, with blanks between them. -/
inductive ReadsAll : List Element → List Piece → Prop where
  | nil : ReadsAll [] []
  | cons {element : Element} {elements : List Element} {piece : Piece} {pieces : List Piece} :
      element.Reads piece → ReadsAll elements pieces → ReadsAll (element :: elements) (piece :: pieces)
  | blank {elements : List Element} {pieces : List Piece} {leaf : Token} :
      leaf.kind = .whitespace → ReadsAll elements pieces →
        ReadsAll elements (.token leaf :: pieces)

/-- A token is read as itself. -/
theorem Reads.of_token {kind : Kind} {text : String} {piece : Piece}
    (h : (Element.token kind text).Reads piece) : ∃ offset, piece = .token ⟨kind, text, offset⟩ := by
  obtain ⟨previous, index, offset, rfl⟩ := h
  exact ⟨offset, rfl⟩

/-- Elements with blanks between them are read one after the other. -/
theorem readsAll_spaceAll (parent : Kind) (elements : List Element) (previous : Option Kind)
    (index offset : Nat) :
    ReadsAll elements
      (Located.pieces (locateAll (spaceAll parent elements previous).1 index offset).1) := by
  induction elements generalizing previous index offset with
  | nil => exact .nil
  | cons element rest ih =>
    simp only [spaceAll]
    cases needsBlank previous element with
    | true => exact .blank rfl (.cons ⟨_, _, _, rfl⟩ (ih _ _ _))
    | false => exact .cons ⟨_, _, _, rfl⟩ (ih _ _ _)

/-- **A node is read** from the readings of its children. -/
theorem Reads.of_node {kind : Kind} {children : List Element} {piece : Piece}
    (h : (Element.node kind children).Reads piece) : ∃ info pieces,
      info.kind = kind ∧ piece = .ofNode info pieces ∧ ReadsAll children pieces := by
  obtain ⟨previous, index, offset, rfl⟩ := h
  exact ⟨_, _, rfl, rfl, readsAll_spaceAll kind children previous (index + 1) offset⟩

namespace ReadsAll

variable {elements : List Element} {pieces : List Piece}

/-- A piece is read from one of the elements, or it is a blank. -/
theorem exists_of_mem (h : ReadsAll elements pieces) {piece : Piece} (hpiece : piece ∈ pieces) :
    (∃ leaf, piece = .token leaf) ∨ ∃ element ∈ elements, element.Reads piece := by
  induction h with
  | nil => cases hpiece
  | cons hfirst _ ih =>
    rcases List.mem_cons.1 hpiece with rfl | hpiece
    · exact .inr ⟨_, List.mem_cons_self, hfirst⟩
    · refine (ih hpiece).imp_right fun ⟨element, helement, hreads⟩ => ?_
      exact ⟨element, List.mem_cons_of_mem _ helement, hreads⟩
  | blank _ _ ih =>
    rcases List.mem_cons.1 hpiece with rfl | hpiece
    · exact .inl ⟨_, rfl⟩
    · exact ih hpiece

/-- **Some of the elements** are read as some of the pieces, in order. -/
theorem exists_of_sublist (h : ReadsAll elements pieces) {some : List Element}
    (hsome : some.Sublist elements) :
    ∃ read, List.Forall₂ Reads some read ∧ read.Sublist pieces := by
  induction h generalizing some with
  | nil =>
    obtain rfl := List.sublist_nil.1 hsome
    exact ⟨[], .nil, .slnil⟩
  | cons hfirst _ ih =>
    cases hsome with
    | cons _ hsome =>
      obtain ⟨read, hreads, hread⟩ := ih hsome
      exact ⟨read, hreads, hread.cons _⟩
    | cons_cons _ hsome =>
      obtain ⟨read, hreads, hread⟩ := ih hsome
      exact ⟨_ :: read, .cons hfirst hreads, hread.cons_cons _⟩
  | blank _ _ ih =>
    obtain ⟨read, hreads, hread⟩ := ih hsome
    exact ⟨read, hreads, hread.cons _⟩

/-- An element is read as one of the pieces. -/
theorem exists_of_element (h : ReadsAll elements pieces) {element : Element}
    (helement : element ∈ elements) : ∃ piece ∈ pieces, element.Reads piece := by
  obtain ⟨read, hreads, hread⟩ := h.exists_of_sublist (List.singleton_sublist.2 helement)
  obtain ⟨piece, rest, hpiece, hrest, rfl⟩ := List.forall₂_cons_left_iff.1 hreads
  exact ⟨piece, hread.subset List.mem_cons_self, hpiece⟩

end ReadsAll

/-! ## Tokens -/

/-- A fixed word is a token of its kind. -/
@[simp] theorem tokenKind?_fixed (kind : Kind) : tokenKind? (.fixed kind) = some kind :=
  rfl

/-- A node is read as no token. -/
theorem Reads.token?_of_node {kind : Kind} {children : List Element} {piece : Piece}
    (h : (Element.node kind children).Reads piece) : piece.token? = none := by
  obtain ⟨info, pieces, -, rfl, -⟩ := h.of_node
  have hinfo := Piece.info?_ofNode info pieces
  cases hpiece : Piece.ofNode info pieces <;> rw [hpiece] at hinfo <;> first | rfl | cases hinfo

/-- **Tokens are found again**: blanks aside, the first token of a kind is read from the first such
element. -/
theorem ReadsAll.find?_kind {elements : List Element} {pieces : List Piece}
    (h : ReadsAll elements pieces) (test : Kind → Bool) (htest : test .whitespace = false) :
    ((pieces.filterMap Piece.token?).find? (test ·.kind)).map Token.kind =
      (elements.filterMap tokenKind?).find? test := by
  induction h with
  | nil => rfl
  | @cons element elements piece pieces hfirst _ ih =>
    cases element with
    | token kind text =>
      obtain ⟨offset, rfl⟩ := hfirst.of_token
      simp only [List.filterMap_cons, Piece.token?, tokenKind?, List.find?_cons]
      split
      · rfl
      · exact ih
    | node kind children =>
      rw [List.filterMap_cons_none hfirst.token?_of_node, List.filterMap_cons_none rfl, ih]
  | @blank elements pieces leaf hleaf _ ih =>
    simp only [List.filterMap_cons, Piece.token?]
    rw [List.find?_cons_of_neg (by simp [hleaf, htest]), ih]

/-- The token that spells something, by its kind. -/
theorem isSome_bind_kind {α : Type} {leaf : Option Token} {read : Kind → Option α} {kind : Kind}
    (h : leaf.map Token.kind = some kind) (hread : (read kind).isSome = true) :
    (leaf.bind fun it => read it.kind).isSome = true := by
  obtain ⟨it, rfl, rfl⟩ := Option.map_eq_some_iff.1 h
  exact hread

/-- An identifier is found again. -/
theorem ReadsAll.ident {elements : List Element} {pieces : List Piece}
    (h : ReadsAll elements pieces) (text : String) (htext : .identifier text ∈ elements) :
    (Piece.tokenOf? .identifier pieces).isSome = true := by
  have hkind : (Piece.tokenOf? .identifier pieces).map Token.kind =
      (elements.filterMap tokenKind?).find? (· == .identifier) := h.find?_kind (· == .identifier) rfl
  have hmem : Kind.identifier ∈ elements.filterMap tokenKind? :=
    List.mem_filterMap.2 ⟨_, htext, rfl⟩
  rw [← Option.isSome_map, hkind, List.find?_isSome]
  exact ⟨_, hmem, rfl⟩

/-! ## Whole elements -/

/-- **Whole**: an element that is read as a complete piece, if every `CASE` in it has a label. -/
def Whole (element : Element) : Prop :=
  element.isLabelled = true → ∀ piece, element.Reads piece → piece.Complete

/-- **Whole elements**, one after the other. -/
def AllWhole (elements : List Element) : Prop :=
  ∀ element ∈ elements, element.Whole

/-- **A node is whole** if its children are, and if what its form calls for is found among their
readings. -/
theorem Whole.node {kind : Kind} {children : List Element} (h : AllWhole children)
    (hfilled : (Element.node kind children).isLabelled = true → ∀ info pieces, info.kind = kind →
      ReadsAll children pieces → (∀ piece ∈ pieces, piece.Complete) →
        (Piece.ofNode info pieces).Filled) : (Element.node kind children).Whole := by
  intro hlabelled piece hreads
  obtain ⟨info, pieces, hkind, rfl, hall⟩ := hreads.of_node
  have hchildren := areLabelled_iff.1 (Bool.and_eq_true_iff.1 hlabelled).2
  have hcomplete : ∀ piece ∈ pieces, piece.Complete := by
    intro piece hpiece
    rcases hall.exists_of_mem hpiece with ⟨leaf, rfl⟩ | ⟨child, hchild, hreads⟩
    · exact .ofToken leaf
    · exact h child hchild (hchildren child hchild) piece hreads
  exact .ofNode (hfilled hlabelled info pieces hkind hall hcomplete) hcomplete

namespace AllWhole

variable {element : Element} {elements others : List Element}

/-- No elements are whole. -/
theorem nil : AllWhole [] :=
  fun _ h => nomatch h

/-- A whole element in front of whole elements. -/
theorem cons (h : element.Whole) (hrest : AllWhole elements) : AllWhole (element :: elements) :=
  List.forall_mem_cons.2 ⟨h, hrest⟩

/-- A token is whole. -/
theorem token {kind : Kind} {text : String} (h : AllWhole elements) :
    AllWhole (.token kind text :: elements) := by
  refine cons (fun _ piece hreads => ?_) h
  obtain ⟨offset, rfl⟩ := hreads.of_token
  exact .ofToken _

/-- Whole elements behind others. -/
theorem append (h : AllWhole elements) (hothers : AllWhole others) : AllWhole (elements ++ others) :=
  List.forall_mem_append.2 ⟨h, hothers⟩

/-- Fixed words are whole. -/
theorem words (kinds : List Kind) : AllWhole (Draft.words kinds) := by
  induction kinds with
  | nil => exact nil
  | cons kind kinds ih => exact token ih

/-- Whole elements in parentheses. -/
theorem enclosed (h : AllWhole elements) : AllWhole (Draft.enclosed elements) :=
  token (h.append (token nil))

/-- Whole elements with commas between them. -/
theorem separated (h : AllWhole elements) : AllWhole (Draft.separated elements) := by
  induction elements with
  | nil => exact nil
  | cons first rest ih =>
    have hrest : AllWhole rest := fun element helement => h element (List.mem_cons_of_mem _ helement)
    cases rest with
    | nil => exact h
    | cons second rest => exact cons (h first List.mem_cons_self) (token (ih hrest))

end AllWhole

end Element

end QuerySemantics
