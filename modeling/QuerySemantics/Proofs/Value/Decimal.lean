import Mathlib.Algebra.Field.Rat
import Mathlib.Data.List.TakeWhile
import Mathlib.Tactic.FieldSimp
import QuerySemantics.Proofs.Number.Numeral
import QuerySemantics.Value.Basic

/-!
# Written decimals

A decimal is written with as many digits behind the point as its scale says, and with at least one digit
before it. Nothing is lost: what is written denotes the mantissa divided by the power of ten, and both the
mantissa and the scale can be read from it.

## Main definitions

* `Decimal.Numeral`: a numeral with a fraction; `Decimal.Numeral.value` is the number that it denotes.
* `Decimal.read?`: the mantissa and the scale of a written decimal.
* `Decimal.Shows`: a numeral of the form and the value that a decimal calls for.

## Main results

* `Decimal.Numeral.read?_text`: what is read from a numeral with a fraction.
* `Decimal.shows_written`: the numeral that is written for a decimal.
* `Decimal.read?_text`: reading a written decimal gives its mantissa and its scale.
* `Decimal.text_exact`: a written decimal denotes the decimal, and no other one is written like it.
-/

set_option autoImplicit false

namespace QuerySemantics

/-! ## Digits -/

namespace Integer

/-- Digits in two groups: those in front count a power of ten more for each digit behind them. -/
theorem ofDigitChars_grouped (front back : List Char) :
    Nat.ofDigitChars 10 (front ++ back) 0 =
      10 ^ back.length * Nat.ofDigitChars 10 front 0 + Nat.ofDigitChars 10 back 0 := by
  rw [Nat.ofDigitChars_append, Nat.ofDigitChars_eq_ofDigitChars_zero]

/-- What is written for a number begins with a zero for zero only. -/
theorem eq_zero_of_head?_toDigits {n : Nat} (h : (Nat.toDigits 10 n).head? = some '0') : n = 0 := by
  induction n using Nat.strongRecOn with
  | ind n ih =>
    rw [Nat.toDigits_eq_if (by decide)] at h
    split at h
    · rename_i hsmall
      have hdigit : Nat.digitChar n = '0' := by simpa using h
      have hwritten := Nat.toNat_digitChar_of_lt_ten hsmall
      rw [hdigit] at hwritten
      exact Nat.left_eq_add.1 hwritten
    · rename_i hlarge
      rw [List.head?_append_of_ne_nil _ Nat.toDigits_ne_nil] at h
      have := ih (n / 10) (by omega) h
      omega

/-- A sign in front of some characters stands in front of more of them too. -/
theorem Numeral.signed_append (negative : Bool) (front back : List Char) :
    signed negative front ++ back = signed negative (front ++ back) := by
  cases negative <;> rfl

end Integer

namespace Decimal

/-! ## Numerals with a fraction -/

/-- **Numeral with a fraction**: a numeral, a point and some digits. -/
structure Numeral where
  whole : Integer.Numeral
  fraction : List Char
  isDigit : ∀ c ∈ fraction, c.isDigit = true

namespace Numeral

/-- A numeral with a fraction as it is written. -/
def text (it : Numeral) : String :=
  it.whole.text ++ "." ++ String.ofList it.fraction

/-- **The number that it denotes**: the digits behind the point are parts of a power of ten. -/
def value (it : Numeral) : ℚ :=
  let magnitude : ℚ :=
    it.whole.magnitude + Nat.ofDigitChars 10 it.fraction 0 / 10 ^ it.fraction.length
  if it.whole.negative then -magnitude else magnitude

/-- **Plain**: no zero stands before other digits in front of the point. -/
def Plain (it : Numeral) : Prop :=
  it.whole.digits.head? = some '0' → it.whole.digits = ['0']

/-- The numeral without its point. -/
def joined (it : Numeral) : Integer.Numeral where
  negative := it.whole.negative
  digits := it.whole.digits ++ it.fraction
  ne_nil := List.append_ne_nil_of_left_ne_nil it.whole.ne_nil _
  isDigit := List.forall_mem_append.2 ⟨it.whole.isDigit, it.isDigit⟩

/-- Without its point, a numeral denotes a power of ten times as much. -/
theorem value_eq (it : Numeral) : it.value = it.joined.value / 10 ^ it.fraction.length := by
  have hmagnitude : it.joined.magnitude = 10 ^ it.fraction.length * it.whole.magnitude +
      Nat.ofDigitChars 10 it.fraction 0 := Integer.ofDigitChars_grouped _ _
  have hparts : (it.joined.magnitude : ℚ) / 10 ^ it.fraction.length =
      it.whole.magnitude + Nat.ofDigitChars 10 it.fraction 0 / 10 ^ it.fraction.length := by
    rw [hmagnitude]
    push_cast
    field_simp
  rw [value, Integer.Numeral.value, ← hparts]
  cases hnegative : it.whole.negative with
  | false =>
    have hjoined : it.joined.negative = false := hnegative
    simp [hjoined]
  | true =>
    have hjoined : it.joined.negative = true := hnegative
    simp [hjoined, neg_div]

end Numeral

/-! ## Reading -/

/-- **Reading a decimal**: the mantissa is the integer without the point, and the scale is the number of
digits behind the point. -/
def read? (text : String) : Option (Int × Nat) :=
  let before := text.toList.takeWhile (· ≠ '.')
  let behind := (text.toList.dropWhile (· ≠ '.')).tail
  (Integer.signed? (String.ofList (before ++ behind))).map fun mantissa => (mantissa, behind.length)

/-- There is no point in a numeral. -/
theorem ne_point_of_mem_text {it : Integer.Numeral} {c : Char} (h : c ∈ it.text.toList) : c ≠ '.' := by
  rw [Integer.Numeral.text, String.toList_ofList, Integer.Numeral.signed] at h
  have hc : c = '-' ∨ c.isDigit = true := by
    split at h
    · exact (List.mem_cons.1 h).imp_right (it.isDigit c)
    · exact .inr (it.isDigit c h)
  rintro rfl
  exact absurd hc (by decide)

/-- A numeral without a fraction is read as a decimal of scale zero. -/
theorem read?_numeral (it : Integer.Numeral) : read? it.text = some (it.value, 0) := by
  have hplain : ∀ c ∈ it.text.toList, decide (c ≠ '.') = true := fun c hc =>
    decide_eq_true (ne_point_of_mem_text hc)
  rw [read?, List.takeWhile_eq_self_iff.2 hplain, List.dropWhile_eq_nil_iff.2 hplain, List.tail_nil,
    List.append_nil, String.ofList_toList, it.signed?_text]
  rfl

/-- **Reading a numeral with a fraction.** -/
theorem Numeral.read?_text (it : Numeral) :
    read? it.text = some (it.joined.value, it.fraction.length) := by
  have hplain : ∀ c ∈ it.whole.text.toList, decide (c ≠ '.') = true := fun c hc =>
    decide_eq_true (ne_point_of_mem_text hc)
  have hchars : it.text.toList = it.whole.text.toList ++ '.' :: it.fraction := by
    rw [text, String.toList_append, String.toList_append, List.append_assoc, String.toList_ofList,
      String.toList_ofList, List.singleton_append]
  have hbefore : it.text.toList.takeWhile (· ≠ '.') = it.whole.text.toList := by
    rw [hchars, List.takeWhile_append_of_pos hplain, List.takeWhile_cons_of_neg (by decide),
      List.append_nil]
  have hbehind : it.text.toList.dropWhile (· ≠ '.') = '.' :: it.fraction := by
    rw [hchars, List.dropWhile_append_of_pos hplain, List.dropWhile_cons_of_neg (by decide)]
  have hjoined : String.ofList (it.whole.text.toList ++ it.fraction) = it.joined.text := by
    rw [Integer.Numeral.text, String.toList_ofList, Integer.Numeral.signed_append]
    rfl
  rw [read?, hbefore, hbehind, List.tail_cons, hjoined, it.joined.signed?_text]
  rfl

/-! ## Writing -/

/-- **Padded digits** of a mantissa: with zeros in front, so that there are more of them than the scale. -/
def padded (mantissa : Int) (scale : Nat) : List Char :=
  let digits := Nat.toDigits 10 mantissa.natAbs
  List.replicate (scale + 1 - digits.length) '0' ++ digits

section Padded

variable (mantissa : Int) (scale : Nat)

/-- A padded mantissa has digits only. -/
theorem isDigit_padded {c : Char} (h : c ∈ padded mantissa scale) : c.isDigit = true := by
  rcases List.mem_append.1 h with h | h
  · rw [List.eq_of_mem_replicate h]
    rfl
  · exact Nat.isDigit_of_mem_toDigits (by decide) (by decide) h

/-- A padded mantissa has more digits than the scale. -/
theorem lt_length_padded : scale < (padded mantissa scale).length := by
  rw [padded, List.length_append, List.length_replicate]
  omega

/-- A mantissa with more digits than the scale is written as it is. -/
theorem padded_of_lt (h : scale < (Nat.toDigits 10 mantissa.natAbs).length) :
    padded mantissa scale = Nat.toDigits 10 mantissa.natAbs := by
  rw [padded, Nat.sub_eq_zero_of_le h, List.replicate_zero, List.nil_append]

/-- A mantissa with fewer digits gets zeros until there is one digit more than the scale. -/
theorem length_padded_of_le (h : (Nat.toDigits 10 mantissa.natAbs).length ≤ scale) :
    (padded mantissa scale).length = scale + 1 := by
  rw [padded, List.length_append, List.length_replicate]
  omega

/-- The zeros in front do not count. -/
theorem ofDigitChars_padded : Nat.ofDigitChars 10 (padded mantissa scale) 0 = mantissa.natAbs := by
  rw [padded, Nat.ofDigitChars_append, Nat.ofDigitChars_replicate_zero, Nat.mul_zero,
    Nat.ofDigitChars_ten_toDigits]

/-- **The numeral of a decimal**: the last digits, as many as the scale says, stand behind the point. -/
def written : Numeral where
  whole := {
    negative := decide (mantissa < 0)
    digits := (padded mantissa scale).take ((padded mantissa scale).length - scale)
    ne_nil := by
      have := lt_length_padded mantissa scale
      rw [← List.length_pos_iff, List.length_take]
      omega
    isDigit := fun _ h => isDigit_padded mantissa scale (List.mem_of_mem_take h) }
  fraction := (padded mantissa scale).drop ((padded mantissa scale).length - scale)
  isDigit _ h := isDigit_padded mantissa scale (List.mem_of_mem_drop h)

/-- As many digits as the scale are written behind the point. -/
theorem length_fraction_written : (written mantissa scale).fraction.length = scale := by
  have := lt_length_padded mantissa scale
  rw [written, List.length_drop]
  omega

/-- Without its point, the numeral of a decimal denotes the mantissa. -/
theorem value_joined_written : (written mantissa scale).joined.value = mantissa := by
  have hmagnitude : (written mantissa scale).joined.magnitude = mantissa.natAbs := by
    rw [Integer.Numeral.magnitude, ← ofDigitChars_padded mantissa scale]
    exact congrArg (Nat.ofDigitChars 10 · 0) (List.take_append_drop _ _)
  have hnegative : (written mantissa scale).joined.negative = decide (mantissa < 0) := rfl
  rw [Integer.Numeral.value, hmagnitude, hnegative]
  by_cases hsign : mantissa < 0
  · rw [if_pos (decide_eq_true hsign)]
    omega
  · rw [if_neg (by simpa using hsign)]
    omega

/-- **No digit could be left out** in front of the point: if a zero stands first there, it was put there for
want of digits, or the mantissa is zero, and so there is only this one. -/
theorem plain_written : (written mantissa scale).Plain := by
  intro hzero
  have hdigits : (written mantissa scale).whole.digits =
      (padded mantissa scale).take ((padded mantissa scale).length - scale) := rfl
  rcases Nat.lt_or_ge scale (Nat.toDigits 10 mantissa.natAbs).length with hmany | hfew
  · have hpadded := padded_of_lt mantissa scale hmany
    have hhead : (Nat.toDigits 10 mantissa.natAbs).head? = some '0' := by
      rw [hdigits, hpadded, List.head?_take, if_neg (by omega)] at hzero
      exact hzero
    have habs := Integer.eq_zero_of_head?_toDigits hhead
    rw [habs, Nat.toDigits_zero, List.length_singleton, Nat.lt_one_iff] at hmany
    rw [hdigits, hpadded, habs, hmany]
    rfl
  · have hone : (written mantissa scale).whole.digits.length = 1 := by
      rw [hdigits, List.length_take, length_padded_of_le mantissa scale hfew]
      omega
    obtain ⟨rest, hfront⟩ := List.head?_eq_some_iff.1 hzero
    rw [hfront] at hone ⊢
    rw [List.eq_nil_of_length_eq_zero (Nat.succ.inj hone)]

end Padded

/-- **What is written** for a decimal that has a fraction is its numeral. -/
theorem text_written {mantissa : Int} {scale : Nat} (h : 1 ≤ scale) :
    (Value.decimal mantissa scale).text = (written mantissa scale).text := by
  have htext : (Value.decimal mantissa scale).text = (if mantissa < 0 then "-" else "") ++
      String.ofList ((written mantissa scale).whole.digits ++
        '.' :: (written mantissa scale).fraction) := if_neg (by omega)
  have hnegative : (written mantissa scale).whole.negative = decide (mantissa < 0) := rfl
  rw [htext, Numeral.text, Integer.Numeral.text, hnegative, ← String.toList_inj]
  by_cases hneg : mantissa < 0 <;> simp [hneg, Integer.Numeral.signed]

/-- **Reading a written decimal** gives its mantissa and its scale. -/
theorem read?_text (mantissa : Int) (scale : Nat) :
    read? (Value.decimal mantissa scale).text = some (mantissa, scale) := by
  rcases Nat.eq_zero_or_pos scale with rfl | hscale
  · obtain ⟨it, htext, hvalue⟩ := Integer.Numeral.exists_of_int mantissa
    have hplain : (Value.decimal mantissa 0).text = it.text := htext.symm
    rw [hplain, read?_numeral, hvalue]
  · rw [text_written hscale, Numeral.read?_text, value_joined_written, length_fraction_written]

/-- **Showing** a decimal: a numeral without a zero too many in front of the point, with a minus sign only if
the mantissa is negative, and with as many digits behind the point as the scale says, that denotes the
mantissa divided by the power of ten. -/
structure Shows (mantissa : Int) (scale : Nat) (it : Numeral) : Prop where
  plain : it.Plain
  negative_iff : it.whole.negative = true ↔ mantissa < 0
  length_fraction : it.fraction.length = scale
  value_eq : it.value = (mantissa : ℚ) / 10 ^ scale

/-- The numeral of a decimal shows it. -/
theorem shows_written (mantissa : Int) (scale : Nat) : Shows mantissa scale (written mantissa scale) where
  plain := plain_written mantissa scale
  negative_iff := decide_eq_true_iff
  length_fraction := length_fraction_written mantissa scale
  value_eq := by rw [Numeral.value_eq, value_joined_written, length_fraction_written]

/-- **Nothing is lost** when a decimal with a fraction is written: what is written is a numeral that shows it,
its mantissa and its scale can be read from it, and no other decimal is written like it. -/
theorem text_exact (mantissa : Int) (scale : Nat) (h : 1 ≤ scale) :
    (∃ it, Shows mantissa scale it ∧ (Value.decimal mantissa scale).text = it.text) ∧
      read? (Value.decimal mantissa scale).text = some (mantissa, scale) ∧
      ∀ mantissa' scale', (Value.decimal mantissa' scale').text = (Value.decimal mantissa scale).text →
        mantissa' = mantissa ∧ scale' = scale := by
  refine ⟨⟨_, shows_written mantissa scale, text_written h⟩, read?_text mantissa scale, ?_⟩
  intro mantissa' scale' htext
  have hread := read?_text mantissa' scale'
  rw [htext, read?_text] at hread
  obtain ⟨rfl, rfl⟩ := Prod.mk.inj (Option.some.inj hread)
  exact ⟨rfl, rfl⟩

/-- The least mantissa of 128 bits, with a fraction that takes more digits than it has. -/
theorem text_exact_least : 1 ≤ 40 ∧
    (Value.decimal (-2 ^ 127) 40).text = "-0.0170141183460469231731687303715884105728" ∧
    (∃ it, Shows (-2 ^ 127) 40 it ∧ (Value.decimal (-2 ^ 127) 40).text = it.text) ∧
      read? (Value.decimal (-2 ^ 127) 40).text = some (-2 ^ 127, 40) ∧
      ∀ mantissa' scale', (Value.decimal mantissa' scale').text = (Value.decimal (-2 ^ 127) 40).text →
        mantissa' = -2 ^ 127 ∧ scale' = 40 :=
  ⟨by decide, by decide +kernel, text_exact (-2 ^ 127) 40 (by decide)⟩

end Decimal

end QuerySemantics
