import QuerySemantics.Bound.Operator
import QuerySemantics.Value.Basic

/-!
# Known types

What could not be typed has the type `unknown`, which fits everywhere. A rule that is applied to
operands whose types are known never gives it.

## Main definitions

* `SqlType.Known`: the type is not that of something that could not be typed.

## Main results

* `SqlType.Known.common`, `UnaryOperator.known_of_result?`, `BinaryOperator.known_of_result?`: the
  rules for types keep to known ones.
-/

set_option autoImplicit false

namespace QuerySemantics

/-! ## Types -/

namespace SqlType

/-- **Known**: not the type of something that could not be typed. -/
def Known (type : SqlType) : Prop :=
  type ≠ .unknown

/-- A type is looked at for unknown parts. -/
instance (type : SqlType) : Decidable type.Known :=
  match type with
  | .unknown => .isFalse fun h => h rfl
  | .null | .boolean | .int8 | .int16 | .int32 | .int64 | .float32 | .float64 | .decimal | .string
  | .char | .dateTime | .timeSpan | .object | .host _ => .isTrue nofun

/-- A type is known if it is not the unknown one. -/
theorem isUnknown_eq_false_iff {type : SqlType} : type.isUnknown = false ↔ type.Known := by
  cases type <;> simp [isUnknown, Known]

/-- The type of conditions is known. -/
theorem known_boolean : boolean.Known :=
  nofun

/-- A number type is known. -/
theorem known_of_isNumeric {type : SqlType} (h : type.isNumeric = true) : type.Known := by
  rintro rfl
  cases h

/-- An integer type is known. -/
theorem known_of_isInteger {type : SqlType} (h : type.isInteger = true) : type.Known := by
  rintro rfl
  cases h

/-- Promotion keeps to known types. -/
theorem Known.promote {type : SqlType} (h : type.Known) : type.promote.Known := by
  intro hpromote
  cases type <;> first | exact h rfl | cases hpromote

/-- **The common type** of two types is one of them. -/
theorem common?_eq {left right type : SqlType} (h : left.common? right = some type) :
    type = left ∨ type = right := by
  unfold common? at h
  split at h
  · exact .inr (Option.some.inj h).symm
  · split at h
    · exact .inl (Option.some.inj h).symm
    · cases h

/-- The common type of known types is known. -/
theorem Known.common {left right type : SqlType} (hleft : left.Known) (hright : right.Known)
    (h : left.common? right = some type) : type.Known := by
  rcases common?_eq h with rfl | rfl
  · exact hleft
  · exact hright

/-- A type that a query can write is known. -/
theorem known_of_ofName? {name : String} {type : SqlType} (h : ofName? name = some type) :
    type.Known := by
  obtain ⟨entry, hentry, rfl⟩ := Option.map_eq_some_iff.1 h
  have hmem : entry ∈ spellings := List.mem_of_find?_eq_some hentry
  have hall : ∀ entry ∈ spellings, entry.1.Known := by decide
  exact hall entry hmem

end SqlType

/-- A value has a known type. -/
theorem Value.type_known (value : Value) : value.type.Known := by
  cases value <;> exact nofun

/-! ## Operators -/

/-- **The result of a unary operator** on an operand of a known type has a known type. -/
theorem UnaryOperator.known_of_result? {operator : UnaryOperator} {operand type : SqlType}
    (hoperand : operand.Known) (h : operator.result? operand = some type) : type.Known := by
  unfold UnaryOperator.result? at h
  split at h
  case h_1 | h_2 => exact absurd rfl hoperand
  case h_3 | h_7 | h_8 =>
    split at h <;> cases h
    first
    | exact (SqlType.known_of_isInteger ‹_›).promote
    | exact (SqlType.known_of_isNumeric ‹_›).promote
    | exact nofun
  case h_4 | h_5 | h_6 =>
    cases h
    exact nofun

namespace BinaryOperator

/-- The result of arithmetic on operands of known types has a known type. -/
theorem known_of_arithmetic? {operator : BinaryOperator} {left right type : SqlType}
    (h : operator.arithmetic? left right = some type) : type.Known := by
  unfold arithmetic? at h
  split at h
  · cases h
  · cases h
    exact nofun
  · cases h
    exact nofun
  · split at h <;> cases h
    exact (SqlType.known_of_isNumeric ‹_›).promote

/-- The result of an operation on bits has a known type. -/
theorem known_of_bitwise? {left right type : SqlType} (h : bitwise? left right = some type) :
    type.Known := by
  unfold bitwise? at h
  split at h
  · cases h
  · cases h
    exact nofun
  · cases h
    exact nofun
  · split at h <;> cases h
    exact (SqlType.known_of_isInteger ‹_›).promote

/-- A truth value has a known type. -/
theorem known_of_both? {expected left right type : SqlType}
    (h : both? expected left right = some type) : type.Known := by
  unfold both? at h
  split at h <;> cases h
  exact nofun

/-- **The result of a binary operator** on operands of known types has a known type. -/
theorem known_of_result? {operator : BinaryOperator} {left right type : SqlType}
    (hleft : left.Known) (hright : right.Known) (h : operator.result? left right = some type) :
    type.Known := by
  have hknown : (left.isUnknown || right.isUnknown) = false := by
    rw [SqlType.isUnknown_eq_false_iff.2 hleft, SqlType.isUnknown_eq_false_iff.2 hright,
      Bool.or_self]
  unfold result? at h
  rw [hknown, if_neg Bool.false_ne_true] at h
  -- moments and spans, arithmetic, bits, connectives, texts, comparisons
  split at h
  all_goals
    first
    | exact known_of_arithmetic? h
    | exact known_of_bitwise? h
    | exact known_of_both? h
    | obtain ⟨common, -, rfl⟩ := Option.map_eq_some_iff.1 h
      exact nofun
    | cases h
      exact nofun

end BinaryOperator

end QuerySemantics
