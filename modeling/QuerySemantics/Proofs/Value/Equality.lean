import Mathlib.Tactic.SplitIfs
import QuerySemantics.Value.Conversion

/-!
# Equal types

Host types are compared by name, so that equal types need not be the same: two host types of one name
may list other bases.

## Main results

* `SqlType.beq_iff`: which types are equal.
* `Conversion.classify_eq_identity_iff`: only equal types convert by the identity.
-/

set_option autoImplicit false

namespace QuerySemantics

namespace SqlType

/-- Types are equal if they are the same but for the bases of a host type. -/
theorem beq_iff {type other : SqlType} : (type == other) = true ↔
    type = other ∨ ∃ name bases bases', type = .host ⟨name, bases⟩ ∧ other = .host ⟨name, bases'⟩ := by
  constructor
  · intro h
    cases type with
    | host host =>
      cases other with
      | host other =>
        obtain ⟨name, bases⟩ := host
        obtain ⟨name', bases'⟩ := other
        obtain rfl : name = name' := LawfulBEq.eq_of_beq h
        exact .inr ⟨name, bases, bases', rfl, rfl⟩
      | _ => cases h
    | _ => cases other <;> first | exact .inl rfl | cases h
  · rintro (rfl | ⟨name, bases, bases', rfl, rfl⟩)
    · cases type with
      | host host => exact beq_self_eq_true host.name
      | _ => rfl
    · exact beq_self_eq_true name

/-- Types are compared by name, which is an equivalence. -/
instance : EquivBEq SqlType where
  rfl := SqlType.beq_iff.2 (.inl rfl)
  symm h := by
    rcases SqlType.beq_iff.1 h with rfl | ⟨name, bases, bases', rfl, rfl⟩
    · exact h
    · exact SqlType.beq_iff.2 (.inr ⟨name, bases', bases, rfl, rfl⟩)
  trans h h' := by
    rcases SqlType.beq_iff.1 h with rfl | ⟨name, bases, bases', rfl, rfl⟩
    · exact h'
    · rcases SqlType.beq_iff.1 h' with rfl | ⟨_, _, bases'', heq, rfl⟩
      · exact h
      · cases heq
        exact SqlType.beq_iff.2 (.inr ⟨name, bases, bases'', rfl, rfl⟩)

end SqlType

/-! ## Conversions between equal types -/

namespace Conversion

/-- Between types of different classes there is no identity. -/
theorem between_ne_identity (source target : SqlType) : between source target ≠ .identity := by
  unfold between
  split
  case h_5 => split_ifs <;> decide
  all_goals decide

/-- **The identity** converts between equal types, and between no others. -/
theorem classify_eq_identity_iff {source target : SqlType} :
    classify source target = .identity ↔ (source == target) = true := by
  by_cases hequal : (source == target) = true
  · simp [classify, hequal]
  · refine iff_of_false ?_ hequal
    unfold classify
    rw [if_neg hequal]
    split_ifs
    · decide
    · decide
    · decide
    · split
      · decide
      · split_ifs <;> decide
      · exact between_ne_identity _ _

end Conversion

end QuerySemantics
