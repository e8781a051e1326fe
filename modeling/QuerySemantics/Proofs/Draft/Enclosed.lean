import QuerySemantics.Draft.Spacing

/-!
# Elements between parentheses

No blank follows an opening parenthesis, and none comes before a closing one. So an element between
parentheses gets the same blanks as if it stood alone.

## Main definitions

* `Element.Unspaced`: a token that no blank follows, whatever comes next.

## Main results

* `Element.space_openParen`: an element behind an opening parenthesis is spaced like one that stands
  alone.
* `Element.spaceAll_enclosed`: the spacing of elements that begin with parentheses around one of them.
-/

set_option autoImplicit false

namespace QuerySemantics

namespace Element

/-! ## Behind an opening parenthesis -/

/-- **Unspaced**: no blank comes next. -/
def Unspaced (previous : Option Kind) : Prop :=
  ∀ element, needsBlank previous element = false

/-- No blank comes first. -/
theorem unspaced_none : Unspaced none :=
  fun _ => rfl

/-- No blank comes behind an opening parenthesis. -/
theorem unspaced_openParen : Unspaced (some .openParen) := by
  intro element
  unfold needsBlank
  split
  · rename_i hkind _
    cases hkind
    rfl
  · rfl

/-- Two previous tokens behind which the same blanks come. -/
def SameSpacing (previous previous' : Option Kind) : Prop :=
  previous = previous' ∨ Unspaced previous ∧ Unspaced previous'

/-- Behind both tokens an element needs a blank, or behind neither. -/
theorem SameSpacing.needsBlank_eq {previous previous' : Option Kind}
    (h : SameSpacing previous previous') (element : Element) :
    needsBlank previous element = needsBlank previous' element := by
  rcases h with rfl | ⟨h, h'⟩
  · rfl
  · rw [h element, h' element]

mutual

/-- **An element** gets the same blanks behind two tokens behind which the same blanks come, and what
follows it does too. -/
theorem SameSpacing.space : ∀ (element : Element) {previous previous' : Option Kind},
    SameSpacing previous previous' → (space element previous).1 = (space element previous').1 ∧
      SameSpacing (space element previous).2 (space element previous').2
  | .token _ _, _, _, _ => ⟨rfl, .inl rfl⟩
  | .node kind children, _, _, h => by
    obtain ⟨hparts, hlast⟩ := SameSpacing.spaceAll kind children h
    exact ⟨congrArg (Element.node kind) hparts, hlast⟩

/-- Elements get the same blanks behind two tokens behind which the same blanks come. -/
theorem SameSpacing.spaceAll (parent : Kind) : ∀ (elements : List Element)
    {previous previous' : Option Kind}, SameSpacing previous previous' →
      (spaceAll parent elements previous).1 = (spaceAll parent elements previous').1 ∧
        SameSpacing (spaceAll parent elements previous).2 (spaceAll parent elements previous').2
  | [], _, _, h => ⟨rfl, h⟩
  | element :: rest, previous, previous', h => by
    have hbehind : SameSpacing
        (if needsBlank previous element then some Kind.whitespace else previous)
        (if needsBlank previous' element then some Kind.whitespace else previous') := by
      rw [← h.needsBlank_eq element]
      split
      · exact .inl rfl
      · exact h
    obtain ⟨hpart, hlast⟩ := SameSpacing.space element hbehind
    have hnext : SameSpacing
        (if attaches parent element then none else
          (Element.space element
            (if needsBlank previous element then some Kind.whitespace else previous)).2)
        (if attaches parent element then none else
          (Element.space element
            (if needsBlank previous' element then some Kind.whitespace else previous')).2) := by
      split
      · exact .inl rfl
      · exact hlast
    obtain ⟨hparts, hfinal⟩ := SameSpacing.spaceAll parent rest hnext
    refine ⟨?_, hfinal⟩
    simp only [Element.spaceAll]
    rw [hpart, hparts, h.needsBlank_eq element]

end

/-- **Behind an opening parenthesis** an element is spaced like one that stands alone. -/
theorem space_openParen (element : Element) :
    (space element (some .openParen)).1 = (space element none).1 :=
  (SameSpacing.space element (.inr ⟨unspaced_openParen, unspaced_none⟩)).1

/-! ## Before a closing parenthesis -/

/-- No blank comes before a closing parenthesis. -/
theorem needsBlank_closeParen (previous : Option Kind) :
    needsBlank previous (.fixed .closeParen) = false := by
  cases previous with
  | none => rfl
  | some previous => cases previous <;> rfl

/-- **Parentheses around an element**, and what follows them. -/
theorem spaceAll_enclosed {parent : Kind} (hparent : parent ≠ .unaryExpression) (element : Element)
    (rest : List Element) (previous : Option Kind) :
    (spaceAll parent (.fixed .openParen :: element :: .fixed .closeParen :: rest) previous).1 =
      (if needsBlank previous (.fixed .openParen) then [blank] else []) ++
        .fixed .openParen :: (space element none).1 :: .fixed .closeParen ::
          (spaceAll parent rest (some .closeParen)).1 := by
  have hattaches : attaches parent element = false := by
    unfold attaches
    split <;> simp [hparent]
  have hopen : ∀ previous, space (.fixed .openParen) previous = (.fixed .openParen, some .openParen) :=
    fun _ => rfl
  have hclose : ∀ previous, space (.fixed .closeParen) previous =
      (.fixed .closeParen, some .closeParen) := fun _ => rfl
  have hopens : attaches parent (.fixed .openParen) = false := rfl
  have hcloses : attaches parent (.fixed .closeParen) = false := rfl
  simp [spaceAll, hattaches, hopens, hcloses, hopen, hclose, needsBlank_closeParen,
    unspaced_openParen element, space_openParen]

end Element

end QuerySemantics
