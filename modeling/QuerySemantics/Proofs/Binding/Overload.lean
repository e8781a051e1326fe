import Mathlib.Data.List.Forall2
import QuerySemantics.Binding.Overload

/-!
# Selected overloads

## Main definitions

* `Overload.Choice.Alike`: choices that are the same but for what is chosen from.

## Main results

* `Overload.select_selected`: a selected candidate is one of those to choose from, and it applies.
* `Overload.select_alike`: only the parameters of the candidates matter.
-/

set_option autoImplicit false

namespace QuerySemantics

namespace Overload

variable {α : Type} {parameters : α → List SqlType} {arguments : List SqlType}
  {candidates : List α}

/-- An applicable candidate is a candidate whose parameters the arguments convert to. -/
theorem mem_applicable {candidate : α × List Conversion} :
    candidate ∈ applicable parameters arguments candidates ↔
      candidate.1 ∈ candidates ∧
        conversions? arguments (parameters candidate.1) = some candidate.2 := by
  obtain ⟨it, conversions⟩ := candidate
  simp only [applicable, List.mem_filterMap, Option.map_eq_some_iff, Prod.mk.injEq]
  constructor
  · rintro ⟨other, hother, found, hfound, rfl, rfl⟩
    exact ⟨hother, hfound⟩
  · rintro ⟨hit, hfound⟩
    exact ⟨it, hit, conversions, hfound, rfl, rfl⟩

/-- The preferred candidates are among those they are chosen from. -/
theorem preferred_subset (contenders : List (α × List Conversion)) :
    preferred contenders ⊆ contenders := by
  unfold preferred
  split
  · exact List.filter_sublist.subset
  · exact List.Subset.refl _

/-- The best candidate is one of those that are looked at. -/
theorem exists_of_best? {before contenders : List (α × List Conversion)} {it : α}
    (h : best? before contenders = some it) : ∃ contender ∈ contenders, contender.1 = it := by
  induction contenders generalizing before with
  | nil => simp [best?] at h
  | cons first rest ih =>
    rw [best?] at h
    split at h
    · cases h
      exact ⟨first, List.mem_cons_self, rfl⟩
    · obtain ⟨contender, hmem, heq⟩ := ih h
      exact ⟨contender, List.mem_cons_of_mem _ hmem, heq⟩

/-- **A selected candidate** is one of the candidates, and each argument converts to its
parameter. -/
theorem select_selected {it : α} (h : select parameters arguments candidates = .selected it) :
    it ∈ candidates ∧ (conversions? arguments (parameters it)).isSome = true := by
  unfold select at h
  split at h
  · cases h
  · split at h <;> cases h
    rename_i hbest
    obtain ⟨contender, hmem, rfl⟩ := exists_of_best? hbest
    obtain ⟨hcandidate, happlies⟩ := mem_applicable.1 (preferred_subset _ hmem)
    exact ⟨hcandidate, happlies ▸ rfl⟩

/-! ## Candidates with the same parameters -/

/-- Choices that are the same but for what is chosen from. -/
inductive Choice.Alike (relation : α → α → Prop) : Choice α → Choice α → Prop
  | selected {it other : α} (h : relation it other) :
      Choice.Alike relation (.selected it) (.selected other)
  | ambiguous {its others : List α} (h : List.Forall₂ relation its others) :
      Choice.Alike relation (.ambiguous its) (.ambiguous others)
  | noMatch : Choice.Alike relation .noMatch .noMatch

/-- Contenders with the same conversions. -/
def Contend (relation : α → α → Prop) (it other : α × List Conversion) : Prop :=
  relation it.1 other.1 ∧ other.2 = it.2

variable {relation : α → α → Prop}

/-- Contenders that are alike take the same conversions. -/
theorem conversions_eq {its others : List (α × List Conversion)}
    (h : List.Forall₂ (Contend relation) its others) : others.map Prod.snd = its.map Prod.snd := by
  induction h with
  | nil => rfl
  | cons h _ ih => rw [List.map_cons, List.map_cons, h.2, ih]

/-- Of contenders that are alike, those preferred are alike. -/
theorem preferred_alike {its others : List (α × List Conversion)}
    (h : List.Forall₂ (Contend relation) its others) :
    List.Forall₂ (Contend relation) (preferred its) (preferred others) := by
  have hany : others.any castFree = its.any castFree := by
    have hsnd : ∀ contenders : List (α × List Conversion), contenders.any castFree =
        (contenders.map Prod.snd).any fun conversions => !conversions.any Conversion.isExplicit := by
      intro contenders
      rw [List.any_map]
      rfl
    rw [hsnd, hsnd, conversions_eq h]
  unfold preferred
  rw [hany]
  split
  · exact List.rel_filter (fun {_ _} h => by simp only [castFree, h.2]) h
  · exact h

/-- Of contenders that are alike, the best ones are alike. -/
theorem best?_alike {before before' its others : List (α × List Conversion)}
    (hbefore : List.Forall₂ (Contend relation) before before')
    (h : List.Forall₂ (Contend relation) its others) :
    Option.Rel relation (best? before its) (best? before' others) := by
  induction h generalizing before before' with
  | nil => exact .none
  | @cons it other rest rest' h hrest ih =>
    have hall : (before' ++ rest').all (better other.2 ·.2) =
        (before ++ rest).all (better it.2 ·.2) := by
      have hsnd : ∀ (conversions : List Conversion) (contenders : List (α × List Conversion)),
          contenders.all (better conversions ·.2) =
            (contenders.map Prod.snd).all (better conversions) := by
        intro conversions contenders
        rw [List.all_map]
        rfl
      rw [hsnd, hsnd, conversions_eq (List.rel_append hbefore hrest), h.2]
    rw [best?, best?, hall]
    split
    · exact .some h.1
    · exact ih (.cons h hbefore)

/-- **Selection looks at parameters only.** -/
theorem select_alike (relation : α → α → Prop)
    (hparameters : ∀ it other, relation it other → parameters other = parameters it)
    {others : List α} (h : List.Forall₂ relation candidates others) :
    Choice.Alike relation (select parameters arguments candidates)
      (select parameters arguments others) := by
  have happlicable : List.Forall₂ (Contend relation) (applicable parameters arguments candidates)
      (applicable parameters arguments others) := by
    refine List.rel_filterMap (fun {it other} h => ?_) h
    rw [hparameters it other h]
    cases conversions? arguments (parameters it) with
    | none => exact .none
    | some conversions => exact .some ⟨h, rfl⟩
  have hpreferred := preferred_alike happlicable
  unfold select
  revert hpreferred
  generalize preferred (applicable parameters arguments candidates) = contenders
  generalize preferred (applicable parameters arguments others) = contenders'
  intro hpreferred
  cases hpreferred with
  | nil => exact .noMatch
  | @cons it other rest rest' h hrest =>
    have hbest := best?_alike .nil (.cons h hrest)
    dsimp only
    revert hbest
    generalize best? [] (it :: rest) = found
    generalize best? [] (other :: rest') = found'
    intro hbest
    cases hbest with
    | none => exact .ambiguous (List.rel_map (fun {_ _} h => h.1) (.cons h hrest))
    | some h => exact .selected h

end Overload

end QuerySemantics
