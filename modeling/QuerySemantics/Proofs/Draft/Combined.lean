import QuerySemantics.Proofs.Draft.Wrapping

/-!
# Sides of a set operation

In the tree of a set operation both sides have the same blanks as alone. The left one stands at the
beginning of the text, and the right one at its end.

## Main definitions

* `Draft.Query.between`: the tokens between the sides of a set operation.

## Main results

* `Draft.Query.text_combined`: the text of a set operation.
* `Draft.Query.combined_reads`: what the tree of a set operation is read as.
-/

set_option autoImplicit false

namespace QuerySemantics

open Element

namespace Element

/-- No blank follows a blank. -/
theorem unspaced_whitespace : Unspaced (some .whitespace) := by
  intro element
  unfold needsBlank
  split
  · rename_i hkind _
    cases hkind
    rfl
  · rfl

/-- **Behind a blank** an element is spaced like one that stands alone. -/
theorem space_whitespace (element : Element) :
    (space element (some .whitespace)).1 = (space element none).1 :=
  (SameSpacing.space element (.inr ⟨unspaced_whitespace, unspaced_none⟩)).1

end Element

namespace Draft

namespace Query

/-- The words that a query can begin with. -/
def beginnings : List Kind :=
  [.selectKeyword, .withKeyword, .openParen]

/-- **A query begins** with a word or a parenthesis. -/
theorem exists_firstKind? : ∀ query : Query,
    ∃ kind ∈ beginnings, query.element.firstKind? = some kind
  | .select distinct _ _ _ _ _ _ => ⟨.selectKeyword, by decide, by cases distinct <;> rfl⟩
  | .withTables .. => ⟨.withKeyword, by decide, rfl⟩
  | .parenthesized _ => ⟨.openParen, by decide, rfl⟩
  | .combined left _ _ => by
    obtain ⟨kind, hkind, hfirst⟩ := exists_firstKind? left
    refine ⟨kind, hkind, ?_⟩
    rw [Query.element, List.cons_append, firstKind?, firstKindOf?, hfirst, Option.some_or]
  | .ordered input _ => by
    obtain ⟨kind, hkind, hfirst⟩ := exists_firstKind? input
    refine ⟨kind, hkind, ?_⟩
    rw [Query.element, List.cons_append, firstKind?, firstKindOf?, hfirst, Option.some_or]

/-- **Tokens between the sides**: the words of the operator, each with a blank behind it, and a blank
before them if the left side calls for one. -/
def between (left : Query) (operator : SetOperator) : List Element :=
  (if needsBlank (space left.element none).2 (.fixed (operator.kinds.headD .unionKeyword)) then [blank]
    else []) ++ operator.kinds.flatMap fun kind => [.fixed kind, blank]

/-- The right side behind the last word of the operator. -/
theorem spaceAll_right (right : Query) {previous : Kind}
    (h : ∀ kind ∈ beginnings, isSpaced previous kind = true) :
    (spaceAll .combinedQuery [right.element] (some previous)).1 = [blank, right.spaced] := by
  obtain ⟨kind, hkind, hfirst⟩ := exists_firstKind? right
  have hblank : needsBlank (some previous) right.element = true := by
    simp only [needsBlank, hfirst]
    exact h kind hkind
  simp only [spaceAll, hblank, if_true, space_whitespace]
  rfl

/-- The operator and the right side, behind the left side. -/
theorem spaceAll_behind (right : Query) (operator : SetOperator) (last : Option Kind) :
    (spaceAll .combinedQuery (words operator.kinds ++ [right.element]) last).1 =
      (if needsBlank last (.fixed (operator.kinds.headD .unionKeyword)) then [blank] else []) ++
        (operator.kinds.flatMap fun kind => [.fixed kind, blank]) ++ [right.spaced] := by
  have hword : ∀ (kind : Kind) (rest : List Element),
      attaches .combinedQuery (.fixed kind) = false →
      (spaceAll .combinedQuery (.fixed kind :: rest) last).1 =
        (if needsBlank last (.fixed kind) then [blank] else []) ++
          .fixed kind :: (spaceAll .combinedQuery rest (some kind)).1 := by
    intro kind rest h
    simp only [spaceAll, h]
    rfl
  have hunion : (spaceAll .combinedQuery [right.element] (some .unionKeyword)).1 = [blank, right.spaced] :=
    spaceAll_right right (by decide)
  have hall : (spaceAll .combinedQuery [right.element] (some .allKeyword)).1 = [blank, right.spaced] :=
    spaceAll_right right (by decide)
  have hintersect : (spaceAll .combinedQuery [right.element] (some .intersectKeyword)).1 =
      [blank, right.spaced] := spaceAll_right right (by decide)
  have hexcept : (spaceAll .combinedQuery [right.element] (some .exceptKeyword)).1 =
      [blank, right.spaced] := spaceAll_right right (by decide)
  cases operator with
  | union =>
    refine (hword .unionKeyword _ rfl).trans ?_
    rw [List.append_assoc]
    exact congrArg (_ ++ Element.fixed .unionKeyword :: ·) hunion
  | unionAll =>
    refine (hword .unionKeyword _ rfl).trans ?_
    rw [List.append_assoc]
    have hrest : (spaceAll .combinedQuery [.fixed .allKeyword, right.element] (some .unionKeyword)).1 =
        blank :: .fixed .allKeyword ::
          (spaceAll .combinedQuery [right.element] (some .allKeyword)).1 := rfl
    rw [hall] at hrest
    exact congrArg (_ ++ Element.fixed .unionKeyword :: ·) hrest
  | intersect =>
    refine (hword .intersectKeyword _ rfl).trans ?_
    rw [List.append_assoc]
    exact congrArg (_ ++ Element.fixed .intersectKeyword :: ·) hintersect
  | except =>
    refine (hword .exceptKeyword _ rfl).trans ?_
    rw [List.append_assoc]
    exact congrArg (_ ++ Element.fixed .exceptKeyword :: ·) hexcept

/-- The tree of a set operation. -/
theorem unit_combined (left right : Query) (operator : SetOperator) :
    (combined left operator right).element.unit = .node .compilationUnit
      [.node .combinedQuery (left.spaced :: (left.between operator ++ [right.spaced]))] := by
  have hleft : attaches .combinedQuery left.element = false := by
    unfold attaches
    split <;> rfl
  have hunit : (combined left operator right).element.unit = .node .compilationUnit
      [.node .combinedQuery
        (spaceAll .combinedQuery (left.element :: (words operator.kinds ++ [right.element])) none).1] :=
    rfl
  rw [hunit]
  simp only [spaceAll, hleft]
  exact congrArg (fun rest => Element.node .compilationUnit [.node .combinedQuery (left.spaced :: rest)])
    (spaceAll_behind right operator (space left.element none).2)

/-! ## Places -/

/-- Between the sides there are only tokens. -/
theorem exists_tokens (left : Query) (operator : SetOperator) :
    ∀ element ∈ left.between operator, ∃ kind text, element = .token kind text := by
  intro element helement
  rcases List.mem_append.1 helement with helement | helement
  · split at helement
    · exact ⟨_, _, List.mem_singleton.1 helement⟩
    · cases helement
  · obtain ⟨kind, -, helement⟩ := List.mem_flatMap.1 helement
    simp only [List.mem_cons, List.not_mem_nil, or_false] at helement
    rcases helement with rfl | rfl
    · exact ⟨_, _, rfl⟩
    · exact ⟨_, _, rfl⟩

/-- **An element behind tokens** stands where they end. -/
theorem locateAll_behind {elements : List Element}
    (h : ∀ element ∈ elements, ∃ kind text, element = .token kind text) (last : Element)
    (index offset : Nat) :
    ∃ leaves : List Token, (locateAll (elements ++ [last]) index offset).1 =
      leaves.map Located.token ++ [(last.locate index (offset + (textOf elements).utf8ByteSize)).1] := by
  induction elements generalizing offset with
  | nil => exact ⟨[], rfl⟩
  | cons element rest ih =>
    obtain ⟨⟨kind, text, rfl⟩, hrest⟩ := List.forall_mem_cons.1 h
    obtain ⟨leaves, hleaves⟩ := ih hrest (offset + text.utf8ByteSize)
    refine ⟨⟨kind, text, offset⟩ :: leaves, ?_⟩
    have hoffset : offset + (textOf (.token kind text :: rest)).utf8ByteSize =
        offset + text.utf8ByteSize + (textOf rest).utf8ByteSize := by
      rw [textOf, Element.text, String.utf8ByteSize_append, Nat.add_assoc]
    rw [hoffset, List.map_cons]
    exact congrArg (Located.token ⟨kind, text, offset⟩ :: ·) hleaves

/-- The number of bytes before the right side. -/
def offsetOfRight (left : Query) (operator : SetOperator) : Nat :=
  ((Whole.query left).text ++ textOf (left.between operator)).utf8ByteSize

/-- **The right side stands behind the left one**, with text between them. -/
theorem length_lt_offsetOfRight (left : Query) (operator : SetOperator) :
    left.spaced.length < left.offsetOfRight operator := by
  have htext : (Whole.query left).text = left.spaced.text := by
    change left.element.unit.text = _
    rw [unit_element]
    simp only [Element.text, textOf, String.append_empty]
  have hwords : 0 < (textOf (left.between operator)).utf8ByteSize := by
    rw [between, textOf_append, String.utf8ByteSize_append, ← lengthOf_eq (operator.kinds.flatMap _)]
    refine Nat.lt_add_left _ ?_
    cases operator <;> decide
  rw [offsetOfRight, htext, String.utf8ByteSize_append, length_eq]
  exact Nat.lt_add_of_pos_right hwords

/-- **The located tree of a set operation.** -/
theorem locate_combined (left right : Query) (operator : SetOperator) :
    ∃ info own leaves, info.kind = .compilationUnit ∧ own.kind = .combinedQuery ∧ own.index = 1 ∧
      ((combined left operator right).element.unit.locate 0 0).1 = .node info [.node own
        ((left.spaced.locate 2 0).1 :: (List.map Located.token leaves ++
          [(right.spaced.locate (left.spaced.locate 2 0).2 (left.offsetOfRight operator)).1]))] := by
  obtain ⟨leaves, hleaves⟩ := locateAll_behind (left.exists_tokens operator) right.spaced
    (left.spaced.locate 2 0).2 (left.spaced.locate 2 0).1.stop
  have hstop : (left.spaced.locate 2 0).1.stop + (textOf (left.between operator)).utf8ByteSize =
      left.offsetOfRight operator := by
    change _ = (left.element.unit.text ++ _).utf8ByteSize
    rw [stop_locate, length_eq, unit_element, String.utf8ByteSize_append, Nat.zero_add]
    simp only [Element.text, textOf, String.append_empty]
  have hroot : ∃ info own, info.kind = .compilationUnit ∧ own.kind = .combinedQuery ∧ own.index = 1 ∧
      ((combined left operator right).element.unit.locate 0 0).1 = .node info [.node own
        ((left.spaced.locate 2 0).1 :: (locateAll (left.between operator ++ [right.spaced])
          (left.spaced.locate 2 0).2 (left.spaced.locate 2 0).1.stop).1)] := by
    rw [unit_combined]
    refine ⟨_, _, ?_, ?_, ?_, rfl⟩ <;> rfl
  obtain ⟨info, own, hinfo, hkind, hindex, hroot⟩ := hroot
  rw [hleaves, hstop] at hroot
  exact ⟨info, own, leaves, hinfo, hkind, hindex, hroot⟩

/-- Tokens are read as no queries. -/
theorem filterMap_query?_tokens (leaves : List Token) :
    (Located.pieces (leaves.map Located.token)).filterMap Piece.query? = [] := by
  induction leaves with
  | nil => rfl
  | cons leaf rest ih => exact ih

/-- **The tree of a set operation** is read as the operation, with both sides. -/
theorem combined_reads {info own : NodeInfo} (leaves : List Token) {part part' : Located}
    {read read' : Ast.Query} (hinfo : info.kind = .compilationUnit) (hkind : own.kind = .combinedQuery)
    (h : part.piece = .query read) (h' : part'.piece = .query read') :
    ∃ operator, (Located.node info
      [.node own (part :: (leaves.map Located.token ++ [part']))]).piece =
        .unit ⟨info, some (.combined own (some read) operator (some read')), none⟩ := by
  have hpieces : Located.pieces (part :: (leaves.map Located.token ++ [part'])) =
      .query read :: (Located.pieces (leaves.map Located.token) ++ [.query read']) := by
    rw [Located.pieces_eq_map, Located.pieces_eq_map, List.map_cons, List.map_append, h, List.map_singleton,
      h']
  have hqueries : (Piece.query read :: (Located.pieces (leaves.map Located.token) ++
      [.query read'])).filterMap Piece.query? = [read, read'] := by
    rw [List.filterMap_cons, List.filterMap_append, filterMap_query?_tokens]
    rfl
  have hown : (Located.node own (part :: (leaves.map Located.token ++ [part']))).piece =
      .query (.combined own (some read) (Piece.setOperator? (Located.pieces
        (part :: (leaves.map Located.token ++ [part'])))) (some read')) := by
    simp only [Located.piece, Piece.ofNode, hkind, hpieces, hqueries]
    rfl
  have hunit : ∀ child : Located, (Located.node info [child]).piece =
      .unit ⟨info, [child.piece].findSome? Piece.query?, Piece.expression? [child.piece]⟩ := by
    intro child
    simp only [Located.piece, Located.pieces, Piece.ofNode, hinfo]
  exact ⟨_, by rw [hunit, hown]; rfl⟩

/-- **The text of a set operation.** -/
theorem text_combined (left right : Query) (operator : SetOperator) :
    (Whole.query (combined left operator right)).text = (Whole.query left).text ++
      textOf (left.between operator) ++ (Whole.query right).text := by
  change (combined left operator right).element.unit.text =
    left.element.unit.text ++ _ ++ right.element.unit.text
  rw [unit_combined, unit_element, unit_element]
  simp only [Element.text, textOf, textOf_append, String.append_assoc, String.append_empty]

end Query

end Draft

end QuerySemantics
