import QuerySemantics.Binding.Call
import QuerySemantics.Proofs.Binding.Selection
import QuerySemantics.Proofs.Value.Known

/-!
# Filling in types

What could not be typed fits everywhere. So a rule that refuses operands of which some could not be typed
refuses them whatever their types may be: filling types in can only take away what is accepted.

## Main definitions

* `SqlType.Filled`, `SqlType.AllFilled`: types, of which those that are not known are replaced.

## Main results

* `UnaryOperator.result?_of_filled`, `BinaryOperator.result?_of_filled`, `SqlType.common?_of_filled`,
  `Binding.aggregateResult?_of_filled`: what is refused stays refused.
* `Overload.select_of_filled`: overloads that do not fit still do not.
-/

set_option autoImplicit false

namespace QuerySemantics

/-! ## Types -/

namespace SqlType

/-- **Filling in** a type: one that is not known becomes any type, and a known one stays. -/
def Filled (type type' : SqlType) : Prop :=
  type = .unknown ∨ type' = type

/-- Filling in several types. -/
def AllFilled (types types' : List SqlType) : Prop :=
  List.Forall₂ Filled types types'

variable {type type' left left' right right' : SqlType}

/-- Known types stay. -/
theorem AllFilled.eq_of_known {types types' : List SqlType} (h : AllFilled types types')
    (hknown : ∀ type ∈ types, type.Known) : types' = types := by
  induction h with
  | nil => rfl
  | cons hfilled _ ih =>
    obtain ⟨hfirst, hrest⟩ := List.forall_mem_cons.1 hknown
    rw [hfilled.resolve_left hfirst, ih hrest]

/-- What is not known converts implicitly. -/
theorem unknown_convertsTo (type : SqlType) : SqlType.unknown.convertsTo type = true := by
  cases type <;> rfl

/-- A type that is filled in converts to fewer types. -/
theorem convertsTo_of_filled (h : type.Filled type') {target : SqlType}
    (hconverts : type'.convertsTo target = true) : type.convertsTo target = true := by
  rcases h with rfl | rfl
  · exact unknown_convertsTo target
  · exact hconverts

/-- A type that is filled in can be converted to fewer types. -/
theorem isPossible_of_filled (h : type.Filled type') {target : SqlType}
    (hpossible : (Conversion.classify type' target).isPossible = true) :
    (Conversion.classify type target).isPossible = true := by
  rcases h with rfl | rfl
  · cases target <;> rfl
  · exact hpossible

/-- The unknown type has a type in common with every type. -/
theorem unknown_common? (type : SqlType) : (SqlType.unknown.common? type).isSome = true := by
  cases type <;> rfl

/-- Every type has a type in common with the unknown type. -/
theorem common?_unknown (type : SqlType) : (type.common? .unknown).isSome = true := by
  cases type <;> rfl

/-- **Types without a common type** have none when they are filled in. -/
theorem common?_of_filled (hleft : left.Filled left') (hright : right.Filled right')
    (h : left.common? right = none) : left'.common? right' = none := by
  rcases hleft with rfl | rfl
  · have hsome := unknown_common? right
    rw [h] at hsome
    cases hsome
  · rcases hright with rfl | rfl
    · have hsome := common?_unknown left'
      rw [h] at hsome
      cases hsome
    · exact h

end SqlType

open SqlType (Filled AllFilled)

/-! ## Operators and aggregates -/

/-- **An operand that is refused** is refused when its type is filled in. -/
theorem UnaryOperator.result?_of_filled {operator : UnaryOperator} {operand operand' : SqlType}
    (hoperand : operand.Filled operand') (h : operator.result? operand = none) :
    operator.result? operand' = none := by
  rcases hoperand with rfl | rfl
  · cases operator <;> cases h
  · exact h

/-- A right operand that is not known is not refused. -/
theorem BinaryOperator.result?_unknown (operator : BinaryOperator) (left : SqlType) :
    operator.result? left .unknown =
      some (if operator.yieldsBoolean then .boolean else .unknown) := by
  unfold result?
  rw [SqlType.isUnknown, Bool.or_true, if_pos rfl]

/-- **Operands that are refused** are refused when their types are filled in. -/
theorem BinaryOperator.result?_of_filled {operator : BinaryOperator} {left left' right right' : SqlType}
    (hleft : left.Filled left') (hright : right.Filled right')
    (h : operator.result? left right = none) : operator.result? left' right' = none := by
  rcases hleft with rfl | rfl
  · cases h
  · rcases hright with rfl | rfl
    · rw [result?_unknown] at h
      cases h
    · exact h

/-- An argument that an aggregate refuses is refused when its type is filled in. -/
theorem AggregateSignature.returns?_of_filled {signature : AggregateSignature}
    {argument argument' : SqlType} (hargument : argument.Filled argument')
    (h : signature.returns? argument = none) : signature.returns? argument' = none := by
  rcases hargument with rfl | rfl
  · cases signature with
    | fixed parameter returns =>
      rw [returns?, SqlType.unknown_convertsTo, if_pos rfl] at h
      cases h
    | _ => cases h
  · exact h

/-- **Arguments that an aggregate refuses** are refused when their types are filled in. -/
theorem Binding.aggregateResult?_of_filled {signature : AggregateSignature}
    {arguments arguments' : List SqlType} (harguments : AllFilled arguments arguments')
    (h : aggregateResult? signature arguments = none) :
    aggregateResult? signature arguments' = none := by
  cases harguments with
  | nil => rfl
  | cons hfirst hrest =>
    cases hrest with
    | nil => exact AggregateSignature.returns?_of_filled hfirst h
    | cons _ _ => rfl

/-! ## Overloads -/

namespace Overload

variable {arguments arguments' : List SqlType}

/-- The conversions of arguments that are not known are possible. -/
theorem Applies.of_filled (hfilled : AllFilled arguments arguments') {parameters : List SqlType}
    (h : Applies arguments' parameters) : Applies arguments parameters := by
  induction hfilled generalizing parameters with
  | nil => exact h
  | cons hfirst _ ih =>
    cases parameters with
    | nil => cases h.1
    | cons parameter parameters =>
      obtain ⟨hown, hothers⟩ := applies_cons.1 h
      exact applies_cons.2 ⟨SqlType.isPossible_of_filled hfirst hown, ih hothers⟩

/-- **Overloads that do not fit** do not fit when types are filled in, and with known types nothing is
filled in. -/
theorem select_of_filled {α : Type} (parameters : α → List SqlType)
    (hfilled : AllFilled arguments arguments') (candidates : List α) :
    arguments' = arguments ∨ arguments.any SqlType.isUnknown = true ∧
      (select parameters arguments candidates = .noMatch →
        select parameters arguments' candidates = .noMatch) := by
  cases hany : arguments.any SqlType.isUnknown with
  | false =>
    left
    apply hfilled.eq_of_known
    intro type htype
    exact SqlType.isUnknown_eq_false_iff.1 (by simpa using List.any_eq_false.1 hany type htype)
  | true =>
    refine .inr ⟨rfl, fun h => ?_⟩
    rw [select_eq_noMatch_iff, contenders_eq_nil_iff] at h ⊢
    intro it hit happlies
    exact h it hit (happlies.of_filled hfilled)

end Overload

end QuerySemantics
