import QuerySemantics.Proofs.Draft.Fitting

/-!
# Words of drafted nodes

The tokens of a node are found again among the pieces that it is read from, with their kinds and texts and
in their order, whatever blanks are put between them.

## Main definitions

* `Element.spelled`: the tokens among some elements whose kinds pass a test.
* `Piece.words`: the tokens among some pieces.
* `Token.Stands`: a token of a kind with a text is among some tokens.

## Main results

* `Element.ReadsAll.stands`: the tokens of a node are found again.
* `Element.ReadsAll.tokenOf?_stands`, `Element.ReadsAll.hasToken_eq` and fellows: what the accessors for
  tokens find.
-/

set_option autoImplicit false

namespace QuerySemantics

open Draft

namespace Element

/-! ## Tokens among elements -/

/-- The kind and the text, of a token. -/
def leaf? : Element → Option (Kind × String)
  | .token kind text => some (kind, text)
  | .node _ _ => none

/-- **Spelled tokens**: those among some elements whose kinds pass a test, in order. -/
def spelled (test : Kind → Bool) (elements : List Element) : List (Kind × String) :=
  (elements.filterMap leaf?).filter fun leaf => test leaf.1

section Spelling

variable {test : Kind → Bool} {element : Element} {elements others : List Element}

/-- No elements spell no words. -/
@[simp] theorem spelled_nil : spelled test [] = [] :=
  rfl

/-- A token spells a word if it passes the test. -/
@[simp] theorem spelled_token (kind : Kind) (text : String) :
    spelled test (.token kind text :: elements) =
      if test kind then (kind, text) :: spelled test elements else spelled test elements :=
  List.filter_cons

/-- A fixed word spells its text if it passes the test. -/
@[simp] theorem spelled_fixed (kind : Kind) :
    spelled test (.fixed kind :: elements) =
      if test kind then (kind, kind.fixedText) :: spelled test elements else spelled test elements :=
  List.filter_cons

/-- An identifier spells its text if identifiers pass the test. -/
@[simp] theorem spelled_identifier (text : String) :
    spelled test (.identifier text :: elements) =
      if test .identifier then (.identifier, text) :: spelled test elements
      else spelled test elements :=
  List.filter_cons

/-- A node spells no word of its own. -/
@[simp] theorem spelled_node (kind : Kind) (children : List Element) :
    spelled test (.node kind children :: elements) = spelled test elements :=
  rfl

/-- A node spells nothing itself. -/
theorem spelled_of_node (h : element.tokenKind? = none) :
    spelled test (element :: elements) = spelled test elements := by
  cases element with
  | token kind text => cases h
  | node kind children => rfl

/-- An expression spells no word of the node around it. -/
@[simp] theorem spelled_expr (it : Expr) :
    spelled test (it.element :: elements) = spelled test elements :=
  spelled_of_node it.tokenKind?_element

/-- A query spells no word of the node around it. -/
@[simp] theorem spelled_query (it : Query) :
    spelled test (it.element :: elements) = spelled test elements :=
  spelled_of_node it.tokenKind?_element

/-- A table reference spells no word of the node around it. -/
@[simp] theorem spelled_table (it : Table) :
    spelled test (it.element :: elements) = spelled test elements :=
  spelled_of_node it.tokenKind?_element

/-- The words of a list behind another come behind those of the other. -/
@[simp] theorem spelled_append :
    spelled test (elements ++ others) = spelled test elements ++ spelled test others := by
  rw [spelled, List.filterMap_append, List.filter_append, spelled, spelled]

/-- Fixed words spell their texts. -/
@[simp] theorem spelled_words (kinds : List Kind) :
    spelled test (words kinds) = (kinds.filter test).map fun kind => (kind, kind.fixedText) := by
  induction kinds with
  | nil => rfl
  | cons kind kinds ih =>
    rw [words, List.map_cons, spelled_fixed, ← words, ih, List.filter_cons]
    split <;> rfl

/-- Parentheses that do not pass the test add no words. -/
@[simp] theorem spelled_enclosed (h : test .openParen = false) (h' : test .closeParen = false) :
    spelled test (enclosed elements) = spelled test elements := by
  simp [enclosed, h, h']

/-- Nodes spell nothing. -/
theorem spelled_nodes (h : ∀ element ∈ elements, element.tokenKind? = none) :
    spelled test elements = [] := by
  induction elements with
  | nil => rfl
  | cons element rest ih =>
    rw [List.forall_mem_cons] at h
    rw [spelled_of_node h.1, ih h.2]

/-- Commas are not spelled if they do not pass the test. -/
@[simp] theorem spelled_separated (h : test .comma = false) :
    spelled test (separated elements) = spelled test elements := by
  have hcons : ∀ (first : Element) (rest : List Element),
      spelled test (first :: rest) = spelled test [first] ++ spelled test rest := by
    intro first rest
    rw [← spelled_append, List.singleton_append]
  induction elements with
  | nil => rfl
  | cons first rest ih =>
    cases rest with
    | nil => rfl
    | cons second rest =>
      rw [separated_cons_cons, hcons, spelled_fixed, h, if_neg Bool.false_ne_true, ih, ← hcons]

/-- Names are spelled one after the other. -/
theorem spelled_identifiers (h : test .identifier = true) (idents : List String) :
    spelled test (idents.map .identifier) = idents.map (Kind.identifier, ·) := by
  induction idents with
  | nil => rfl
  | cons ident rest ih => rw [List.map_cons, spelled_identifier, if_pos h, ih, List.map_cons]

end Spelling

end Element

/-! ## Tokens among pieces -/

/-- **Standing**: the token has the given kind and text and is among the tokens. -/
def Token.Stands (words : List Token) (kind : Kind) (text : String) (leaf : Token) : Prop :=
  leaf ∈ words ∧ leaf.kind = kind ∧ leaf.text = text

/-- **Words** among some pieces: those that are tokens. -/
def Piece.words (pieces : List Piece) : List Token :=
  pieces.filterMap token?

namespace Element.ReadsAll

variable {elements : List Element} {pieces : List Piece} {test : Kind → Bool}

/-- **Tokens are found again** among the pieces, in order, with their kinds and texts. -/
theorem stands (h : ReadsAll elements pieces) (htest : test .whitespace = false) :
    List.Forall₂ (fun it leaf => Token.Stands (Piece.words pieces) it.1 it.2 leaf)
      (spelled test elements) ((Piece.words pieces).filter fun leaf => test leaf.kind) := by
  have hcons : ∀ (leaf : Token) (pieces : List Piece),
      Piece.words (.token leaf :: pieces) = leaf :: Piece.words pieces := fun _ _ => rfl
  have hmono : ∀ (first : Token) (words : List Token) (it : Kind × String) (leaf : Token),
      Token.Stands words it.1 it.2 leaf → Token.Stands (first :: words) it.1 it.2 leaf :=
    fun _ _ _ _ h => ⟨List.mem_cons_of_mem _ h.1, h.2⟩
  induction h with
  | nil => exact .nil
  | @cons element elements piece pieces hfirst _ ih =>
    cases element with
    | token kind text =>
      obtain ⟨offset, rfl⟩ := hfirst.of_token
      have hrest := ih.imp (hmono ⟨kind, text, offset⟩ (Piece.words pieces))
      rw [spelled_token, hcons, List.filter_cons]
      split
      · exact .cons ⟨List.mem_cons_self, rfl, rfl⟩ hrest
      · exact hrest
    | node kind children =>
      rw [spelled_node, Piece.words, List.filterMap_cons_none hfirst.token?_of_node]
      exact ih
  | @blank elements pieces leaf hleaf _ ih =>
    rw [hcons, List.filter_cons_of_neg (by simp [hleaf, htest])]
    exact ih.imp (hmono leaf (Piece.words pieces))

/-- **The first token that passes a test** is found again. -/
theorem find?_stands (h : ReadsAll elements pieces) (htest : test .whitespace = false) {kind : Kind}
    {text : String} (hspelled : (spelled test elements).head? = some (kind, text)) :
    ∃ leaf, ((Piece.words pieces).find? fun leaf => test leaf.kind) = some leaf ∧
      Token.Stands (Piece.words pieces) kind text leaf := by
  have hstands := h.stands htest
  obtain ⟨rest, hrest⟩ := List.head?_eq_some_iff.1 hspelled
  rw [hrest] at hstands
  obtain ⟨leaf, others, hleaf, -, hfilter⟩ := List.forall₂_cons_left_iff.1 hstands
  exact ⟨leaf, by rw [← List.head?_filter, hfilter, List.head?_cons], hleaf⟩

/-- The first token of a kind is found again. -/
theorem tokenOf?_stands (h : ReadsAll elements pieces) (kind : Kind) (text : String)
    (hkind : kind ≠ .whitespace) (hspelled : (spelled (· == kind) elements).head? = some (kind, text)) :
    ∃ leaf, Piece.tokenOf? kind pieces = some leaf ∧ Token.Stands (Piece.words pieces) kind text leaf :=
  h.find?_stands (by simpa using hkind.symm) hspelled

/-- The first token that is not trivia is found again. -/
theorem leadingToken?_stands (h : ReadsAll elements pieces) (kind : Kind) (text : String)
    (hspelled : (spelled (!·.isTrivia) elements).head? = some (kind, text)) :
    ∃ leaf, Piece.leadingToken? pieces = some leaf ∧ Token.Stands (Piece.words pieces) kind text leaf :=
  h.find?_stands rfl hspelled

/-- The first token that is neither trivia nor a `NOT` is found again. -/
theorem infixToken?_stands (h : ReadsAll elements pieces) (kind : Kind) (text : String)
    (hspelled : (spelled (fun kind => !kind.isTrivia && kind != .notKeyword) elements).head? =
      some (kind, text)) :
    ∃ leaf, Piece.infixToken? pieces = some leaf ∧ Token.Stands (Piece.words pieces) kind text leaf :=
  h.find?_stands rfl hspelled

/-- **Whether a node has a token** of a kind. -/
theorem hasToken_eq (h : ReadsAll elements pieces) (kind : Kind) (hkind : kind ≠ .whitespace) :
    Piece.hasToken kind pieces = !(spelled (· == kind) elements).isEmpty := by
  have hstands := @stands elements pieces (· == kind) h (by simpa using hkind.symm)
  rw [Piece.hasToken, Piece.tokenOf?, ← Piece.words, ← List.head?_filter]
  cases hspelled : spelled (· == kind) elements with
  | nil =>
    rw [hspelled] at hstands
    rw [List.forall₂_nil_left_iff.1 hstands]
    rfl
  | cons first rest =>
    rw [hspelled] at hstands
    obtain ⟨leaf, others, -, -, hfilter⟩ := List.forall₂_cons_left_iff.1 hstands
    rw [hfilter]
    rfl

end Element.ReadsAll

end QuerySemantics
