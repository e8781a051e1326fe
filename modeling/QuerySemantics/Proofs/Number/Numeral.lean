import QuerySemantics.Number.Integer

/-!
# Numerals

A numeral consists of digits, possibly behind a minus sign. It is read as the integer that it denotes,
however many digits it has, and that integer is written like the numeral, but without leading zeros.

## Main definitions

* `Integer.Numeral`: digits, possibly behind a minus sign.
* `Integer.Numeral.value`, `Integer.Numeral.plain`: the integer that a numeral denotes, and the numeral
  without leading zeros.

## Main results

* `Integer.Numeral.signed?_text`: a numeral is read as the integer that it denotes.
* `Integer.Numeral.toString_value`: what is written for that integer.
* `Integer.Numeral.exists_of_int`: what is written for an integer is a numeral for it.
-/

set_option autoImplicit false

namespace QuerySemantics

namespace Integer

/-! ## Digits -/

variable {c : Char} {digits : List Char}

/-- A digit has its distance to `0` as value. -/
theorem digit?_of_isDigit (h : c.isDigit = true) : digit? c = some (c.toNat - '0'.toNat) := by
  rw [Char.isDigit, Bool.and_eq_true, decide_eq_true_eq, decide_eq_true_eq] at h
  exact if_pos h

/-- Digits stand between `0` and `9`. -/
theorem bounds_of_isDigit (h : c.isDigit = true) : '0'.toNat ≤ c.toNat ∧ c.toNat < '0'.toNat + 10 := by
  rw [Char.isDigit, Bool.and_eq_true, decide_eq_true_eq, decide_eq_true_eq] at h
  exact ⟨h.1, Nat.lt_succ_of_le h.2⟩

/-- A digit is what is written for its value. -/
theorem digitChar_of_isDigit (h : c.isDigit = true) : Nat.digitChar (c.toNat - '0'.toNat) = c := by
  have hbounds := bounds_of_isDigit h
  have hwritten : (Nat.digitChar (c.toNat - '0'.toNat)).toNat = '0'.toNat + (c.toNat - '0'.toNat) :=
    Nat.toNat_digitChar_of_lt_ten (by omega)
  apply Char.toNat_inj.1
  omega

/-- Digits are read from the left to the right. -/
theorem digitsFrom_eq (hdigits : ∀ c ∈ digits, c.isDigit = true) (value : Nat) :
    digitsFrom value digits = some (Nat.ofDigitChars 10 digits value) := by
  induction digits generalizing value with
  | nil => rfl
  | cons c rest ih =>
    obtain ⟨hc, hrest⟩ := List.forall_mem_cons.1 hdigits
    rw [digitsFrom, digit?_of_isDigit hc, Option.bind_eq_bind, Option.bind_some, ih hrest]
    rfl

/-- At least one digit, and nothing else, is read as a number in base 10. -/
theorem digits?_eq (hne : digits ≠ []) (hdigits : ∀ c ∈ digits, c.isDigit = true) :
    digits? digits = some (Nat.ofDigitChars 10 digits 0) := by
  cases digits with
  | nil => exact absurd rfl hne
  | cons c rest => exact digitsFrom_eq hdigits 0

/-- Leading zeros do not count. -/
theorem ofDigitChars_dropWhile (digits : List Char) :
    Nat.ofDigitChars 10 (digits.dropWhile (· == '0')) 0 = Nat.ofDigitChars 10 digits 0 := by
  induction digits with
  | nil => rfl
  | cons c rest ih =>
    rw [List.dropWhile_cons]
    split
    · rename_i hzero
      rw [ih, eq_of_beq hzero]
      rfl
    · rfl

/-- **Digits behind a positive number** are written as they are read. -/
theorem toDigits_append_eq (hdigits : ∀ c ∈ digits, c.isDigit = true) {value : Nat} (hvalue : 0 < value) :
    Nat.toDigits 10 value ++ digits = Nat.toDigits 10 (Nat.ofDigitChars 10 digits value) := by
  induction digits generalizing value with
  | nil => rw [List.append_nil, Nat.ofDigitChars_nil]
  | cons c rest ih =>
    obtain ⟨hc, hrest⟩ := List.forall_mem_cons.1 hdigits
    have hlt : c.toNat - '0'.toNat < 10 := by
      have := bounds_of_isDigit hc
      omega
    calc
      Nat.toDigits 10 value ++ c :: rest
          = (Nat.toDigits 10 value ++ Nat.toDigits 10 (c.toNat - '0'.toNat)) ++ rest := by
        rw [Nat.toDigits_of_lt_base hlt, digitChar_of_isDigit hc, List.append_assoc, List.singleton_append]
      _ = Nat.toDigits 10 (10 * value + (c.toNat - '0'.toNat)) ++ rest := by
        rw [Nat.toDigits_append_toDigits (by decide) hvalue hlt]
      _ = Nat.toDigits 10 (Nat.ofDigitChars 10 (c :: rest) value) := by
        rw [ih hrest (by omega), Nat.ofDigitChars_cons]

/-- **Digits without leading zeros** denote a positive number, and are what is written for it. -/
theorem toDigits_ofDigitChars (hdigits : ∀ other ∈ c :: digits, other.isDigit = true) (hc : c ≠ '0') :
    0 < Nat.ofDigitChars 10 (c :: digits) 0 ∧
      Nat.toDigits 10 (Nat.ofDigitChars 10 (c :: digits) 0) = c :: digits := by
  obtain ⟨hdigit, hrest⟩ := List.forall_mem_cons.1 hdigits
  have hbounds := bounds_of_isDigit hdigit
  have hpositive : 0 < c.toNat - '0'.toNat := by
    have hne : c.toNat ≠ '0'.toNat := fun heq => hc (Char.toNat_inj.1 heq)
    omega
  have hwritten : Nat.toDigits 10 (Nat.ofDigitChars 10 (c :: digits) 0) = c :: digits := by
    rw [Nat.ofDigitChars_cons, Nat.mul_zero, Nat.zero_add, ← toDigits_append_eq hrest hpositive,
      Nat.toDigits_of_lt_base (by omega), digitChar_of_isDigit hdigit, List.singleton_append]
  refine ⟨Nat.pos_of_ne_zero fun heq => ?_, hwritten⟩
  rw [heq, Nat.toDigits_zero] at hwritten
  exact hc (List.cons.inj hwritten).1.symm

/-! ## Numerals -/

/-- **Numeral**: one or more digits, possibly behind a minus sign. -/
structure Numeral where
  negative : Bool
  digits : List Char
  ne_nil : digits ≠ []
  isDigit : ∀ c ∈ digits, c.isDigit = true

namespace Numeral

/-- Characters behind a minus sign, if there is one. -/
def signed (negative : Bool) (digits : List Char) : List Char :=
  if negative then '-' :: digits else digits

/-- A numeral as it is written. -/
def text (it : Numeral) : String :=
  String.ofList (signed it.negative it.digits)

/-- The number that the digits denote. -/
def magnitude (it : Numeral) : Nat :=
  Nat.ofDigitChars 10 it.digits 0

/-- **The integer that a numeral denotes.** -/
def value (it : Numeral) : Int :=
  if it.negative then -it.magnitude else it.magnitude

/-- **The numeral without leading zeros**, and without a minus sign before a zero. -/
def plain (it : Numeral) : String :=
  match it.digits.dropWhile (· == '0') with
  | [] => "0"
  | significant => String.ofList (signed it.negative significant)

/-- A numeral without a sign does not begin with one. -/
theorem signedOf_digits (it : Numeral) : signedOf it.digits = (digits? it.digits).map Int.ofNat := by
  have hdigits := it.isDigit
  cases hchars : it.digits with
  | nil => exact absurd hchars it.ne_nil
  | cons c rest =>
    rw [hchars] at hdigits
    have hc : c.isDigit = true := hdigits c List.mem_cons_self
    unfold signedOf
    split
    · rename_i heq
      cases heq
      exact absurd hc (by decide)
    · rename_i heq
      cases heq
      exact absurd hc (by decide)
    · rfl

/-- **Reading a numeral** gives the integer that it denotes. -/
theorem signed?_text (it : Numeral) : signed? it.text = some it.value := by
  have hdigits : digits? it.digits = some it.magnitude := digits?_eq it.ne_nil it.isDigit
  rw [signed?, text, String.toList_ofList, signed, value]
  cases it.negative with
  | true => exact congrArg (Option.map fun n => -Int.ofNat n) hdigits
  | false => exact it.signedOf_digits.trans (congrArg (Option.map Int.ofNat) hdigits)

/-- A numeral is read with a bound on its size if the integer that it denotes keeps to it. -/
theorem signedFitting?_text (it : Numeral) (bits : Nat) :
    signedFitting? bits it.text = if fits bits it.value then some it.value else none := by
  rw [signedFitting?, it.signed?_text, Option.filter_some]

/-- What is written for a number behind a minus sign, if it is not zero. -/
theorem toString_signed (negative : Bool) {n : Nat} (h : 0 < n) :
    toString (if negative then -(n : Int) else n) =
      String.ofList (signed negative (Nat.toDigits 10 n)) := by
  cases negative with
  | false => exact Nat.toString_eq_ofList_toDigits
  | true =>
    obtain ⟨m, rfl⟩ : ∃ m, n = m + 1 := ⟨n - 1, by omega⟩
    have hneg : toString (-((m + 1 : Nat) : Int)) = "-" ++ (m + 1).repr := rfl
    rw [if_pos rfl, hneg, Nat.repr_eq_ofList_toDigits, signed, if_pos rfl,
      ← List.singleton_append, String.ofList_append]

/-- **Writing the integer** that a numeral denotes gives the numeral without leading zeros. -/
theorem toString_value (it : Numeral) : toString it.value = it.plain := by
  have hmagnitude := ofDigitChars_dropWhile it.digits
  unfold plain
  cases hsignificant : it.digits.dropWhile (· == '0') with
  | nil =>
    rw [hsignificant, Nat.ofDigitChars_nil] at hmagnitude
    rw [value, magnitude, ← hmagnitude]
    cases it.negative <;> rfl
  | cons c rest =>
    have hne : c ≠ '0' := by
      have := List.head?_dropWhile_not (· == '0') it.digits
      rw [hsignificant] at this
      simpa using this
    have hdigits : ∀ other ∈ c :: rest, other.isDigit = true := fun other hother =>
      it.isDigit other ((List.dropWhile_suffix _).subset (hsignificant ▸ hother))
    obtain ⟨hpositive, hwritten⟩ := toDigits_ofDigitChars hdigits hne
    rw [hsignificant] at hmagnitude
    rw [hmagnitude] at hpositive hwritten
    rw [value, magnitude, toString_signed it.negative hpositive, hwritten]

/-- The numeral of a number, behind a minus sign or not. -/
def ofNat (negative : Bool) (n : Nat) : Numeral where
  negative := negative
  digits := Nat.toDigits 10 n
  ne_nil := Nat.toDigits_ne_nil
  isDigit _ h := Nat.isDigit_of_mem_toDigits (by decide) (by decide) h

/-- The value of what is written for a number, with or without a minus. -/
theorem value_ofNat (negative : Bool) (n : Nat) :
    (ofNat negative n).value = if negative then -(n : Int) else n := by
  have hmagnitude : (ofNat negative n).magnitude = n := Nat.ofDigitChars_ten_toDigits
  rw [value, hmagnitude]
  rfl

/-- **What is written for an integer** is a numeral for it. -/
theorem exists_of_int (n : Int) : ∃ it : Numeral, it.text = toString n ∧ it.value = n := by
  cases n with
  | ofNat m => exact ⟨ofNat false m, Nat.toString_eq_ofList_toDigits.symm, value_ofNat false m⟩
  | negSucc m =>
    exact ⟨ofNat true (m + 1), (toString_signed true m.succ_pos).symm, value_ofNat true (m + 1)⟩

end Numeral

end Integer

end QuerySemantics
