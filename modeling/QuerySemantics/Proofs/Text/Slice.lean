import Mathlib.Data.String.Basic
import QuerySemantics.Text.Span

/-!
# Slicing texts

A span that begins behind one part of a text and ends behind the next one covers just this next part,
so its ends stand between characters.

## Main results

* `Span.slice_append`: the slice between two parts of a text.
-/

set_option autoImplicit false

namespace QuerySemantics

namespace Span

/-- Characters take the bytes of the text that they make up. -/
theorem byteLength_toList (text : String) : byteLength text.toList = text.utf8ByteSize := by
  have hlen : ∀ chars, byteLength chars = String.utf8Len chars := by
    intro chars
    induction chars with
    | nil => rfl
    | cons c rest ih => rw [byteLength, ih, String.utf8Len_cons, Nat.add_comm]
  rw [hlen, ← String.utf8ByteSize_ofList, String.ofList_toList]

/-- The bytes of a character and more go over the character. -/
theorem dropBytes_cons (c : Char) (rest : List Char) (bytes : Nat) :
    dropBytes (c :: rest) (c.utf8Size + bytes) = dropBytes rest bytes := by
  obtain ⟨total, htotal⟩ : ∃ total, c.utf8Size + bytes = total + 1 :=
    Nat.exists_eq_succ_of_ne_zero (by have := c.utf8Size_pos; omega)
  rw [htotal, dropBytes, if_pos (by omega)]
  congr 1
  omega

/-- The bytes of a character and more begin with the character. -/
theorem takeBytes_cons (c : Char) (rest : List Char) (bytes : Nat) :
    takeBytes (c :: rest) (c.utf8Size + bytes) = (takeBytes rest bytes).map (c :: ·) := by
  obtain ⟨total, htotal⟩ : ∃ total, c.utf8Size + bytes = total + 1 :=
    Nat.exists_eq_succ_of_ne_zero (by have := c.utf8Size_pos; omega)
  rw [htotal, takeBytes, if_pos (by omega)]
  congr 2
  omega

/-- Behind the bytes of a front stands what follows it. -/
theorem dropBytes_append (front back : List Char) :
    dropBytes (front ++ back) (byteLength front) = some back := by
  induction front with
  | nil => simp [byteLength, dropBytes]
  | cons c rest ih => rw [List.cons_append, byteLength, dropBytes_cons, ih]

/-- The bytes of a front make it up. -/
theorem takeBytes_append (front back : List Char) :
    takeBytes (front ++ back) (byteLength front) = some front := by
  induction front with
  | nil => simp [byteLength, takeBytes]
  | cons c rest ih => rw [List.cons_append, byteLength, takeBytes_cons, ih, Option.map_some]

/-- **Slice of a part**: the bytes of a text behind a first part, as many as the next part takes, are
this next part. -/
theorem slice_append (before inside behind : String) :
    slice ⟨before.utf8ByteSize, before.utf8ByteSize + inside.utf8ByteSize⟩
      (before ++ inside ++ behind) = some inside := by
  have hdrop : dropBytes (before ++ inside ++ behind).toList before.utf8ByteSize =
      some (inside.toList ++ behind.toList) := by
    rw [← byteLength_toList, String.toList_append, String.toList_append, List.append_assoc,
      dropBytes_append]
  have htake : takeBytes (inside.toList ++ behind.toList) inside.utf8ByteSize =
      some inside.toList := by
    rw [← byteLength_toList, takeBytes_append]
  rw [slice, if_pos (Nat.le_add_right _ _), hdrop]
  simp only [Option.bind_eq_bind, Option.bind_some, Nat.add_sub_cancel_left, htake]
  exact congrArg some String.ofList_toList

end Span

end QuerySemantics
