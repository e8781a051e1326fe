import Mathlib.Algebra.Order.Ring.Int
import QuerySemantics.Binding.Literal
import QuerySemantics.Draft.Element
import QuerySemantics.Proofs.Number.Numeral

/-!
# Numerals as literals

A numeral without fraction and exponent is bound to the integer that it denotes, in the narrowest type
that holds it, and reported only if 128 bits do not hold it.

## Main definitions

* `Integer.Numeral.token`: a numeral as a token.
* `Literal.Narrowest`: the value of the narrowest type that holds an integer.

## Main results

* `Literal.ofInt?_of_fits`, `Literal.ofInt?_of_not_fits`: which integers have a value.
* `Literal.Narrowest.text`: the value of an integer is written like the integer.
* `Binding.literal_numeral`: what a numeral is bound to.
-/

set_option autoImplicit false

namespace QuerySemantics

/-- An integer fits into the bits of a type if it is in its range. -/
theorem Integer.fits_iff (bits : Nat) (n : Int) :
    fits bits n = true ↔ -2 ^ (bits - 1) ≤ n ∧ n < 2 ^ (bits - 1) := by
  have hpow : Int.ofNat (Nat.pow 2 (bits - 1)) = 2 ^ (bits - 1) := Int.natCast_pow 2 (bits - 1)
  rw [fits, hpow, Bool.and_eq_true, decide_eq_true_eq, decide_eq_true_eq]

/-- **A numeral as a token** at some place of a text. -/
def Integer.Numeral.token (it : Integer.Numeral) (start : Nat) : Token :=
  ⟨.numericLiteral, it.text, start⟩

namespace Literal

/-! ## The narrowest type -/

/-- **The narrowest value of an integer**: an `INT`, or else a `BIGINT`, or else a `DECIMAL` of 128 bits
that has no fraction. -/
inductive Narrowest : Int → Value → Prop where
  | int32 (held : Int32) : Narrowest held.toInt (.int32 held)
  | int64 (held : Int64) (hwide : ∀ narrow : Int32, narrow.toInt ≠ held.toInt) :
      Narrowest held.toInt (.int64 held)
  | decimal (n : Int) (hwide : ∀ narrow : Int64, narrow.toInt ≠ n)
      (hfits : -2 ^ 127 ≤ n ∧ n < 2 ^ 127) : Narrowest n (.decimal n 0)

/-- The value of an integer is written like the integer. -/
theorem Narrowest.text {n : Int} {value : Value} (h : Narrowest n value) : value.text = toString n := by
  cases h with
  | int32 held => rfl
  | int64 held hwide => rfl
  | decimal hwide hfits => rfl

/-- **An integer of 128 bits** has a value, of the narrowest type that holds it. -/
theorem ofInt?_of_fits {n : Int} (h : -2 ^ 127 ≤ n ∧ n < 2 ^ 127) :
    ∃ value, ofInt? n = some value ∧ Narrowest n value := by
  unfold ofInt?
  split
  · rename_i hfits
    obtain ⟨hlow, hhigh⟩ := (Integer.fits_iff 32 n).1 hfits
    have hheld : (Int32.ofInt n).toInt = n := Int32.toInt_ofInt_of_le hlow hhigh
    have hnarrowest := Narrowest.int32 (Int32.ofInt n)
    rw [hheld] at hnarrowest
    exact ⟨_, rfl, hnarrowest⟩
  · rename_i hwide
    have hwide : ∀ narrow : Int32, narrow.toInt ≠ n := by
      rintro narrow rfl
      exact hwide ((Integer.fits_iff 32 _).2 ⟨narrow.le_toInt, narrow.toInt_lt⟩)
    split
    · rename_i hfits
      obtain ⟨hlow, hhigh⟩ := (Integer.fits_iff 64 n).1 hfits
      have hheld : (Int64.ofInt n).toInt = n := Int64.toInt_ofInt_of_le hlow hhigh
      rw [← hheld] at hwide
      have hnarrowest := Narrowest.int64 (Int64.ofInt n) hwide
      rw [hheld] at hnarrowest
      exact ⟨_, rfl, hnarrowest⟩
    · rename_i hwider
      have hwider : ∀ narrow : Int64, narrow.toInt ≠ n := by
        rintro narrow rfl
        exact hwider ((Integer.fits_iff 64 _).2 ⟨narrow.le_toInt, narrow.toInt_lt⟩)
      rw [if_pos ((Integer.fits_iff 128 n).2 h)]
      exact ⟨_, rfl, .decimal n hwider h⟩

/-- An integer of more than 128 bits has no value. -/
theorem ofInt?_of_not_fits {n : Int} (h : n < -2 ^ 127 ∨ 2 ^ 127 ≤ n) : ofInt? n = none := by
  have hfits : ∀ bits, bits ≤ 128 → ¬Integer.fits bits n = true := by
    intro bits hbits hfits
    obtain ⟨hlow, hhigh⟩ := (Integer.fits_iff bits n).1 hfits
    have hpow : (2 : Int) ^ (bits - 1) ≤ 2 ^ 127 := by
      exact_mod_cast Nat.pow_le_pow_right (n := 2) (by decide) (by omega : bits - 1 ≤ 127)
    omega
  rw [ofInt?, if_neg (hfits 32 (by decide)), if_neg (hfits 64 (by decide)), if_neg (hfits 128 (by decide))]

/-! ## Numerals -/

/-- A numeral has neither a point nor an exponent. -/
theorem number?_numeral (it : Integer.Numeral) : number? it.text = ofInt? it.value := by
  have hplain : ¬it.text.toList.any (fun c => c = '.' ∨ c = 'e' ∨ c = 'E') = true := by
    rw [List.any_eq_true]
    rintro ⟨c, hc, hmark⟩
    have hmark : c = '.' ∨ c = 'e' ∨ c = 'E' := of_decide_eq_true hmark
    rw [Integer.Numeral.text, String.toList_ofList, Integer.Numeral.signed] at hc
    have hdigit : c = '-' ∨ c.isDigit = true := by
      split at hc
      · exact (List.mem_cons.1 hc).imp_right (it.isDigit c)
      · exact .inr (it.isDigit c hc)
    rcases hmark with rfl | rfl | rfl <;> exact absurd hdigit (by decide)
  rw [number?, if_neg hplain, integer?, it.signed?_text]
  rfl

end Literal

namespace Binding

open Literal (Narrowest)

/-- **A numeral of 128 bits** is bound to the integer that it denotes. -/
theorem literal_of_fits {it : Integer.Numeral} (h : -2 ^ 127 ≤ it.value ∧ it.value < 2 ^ 127)
    (start : Nat) : ∃ value, Narrowest it.value value ∧
      literal (some (it.token start)) = (return .literal value value.type) := by
  obtain ⟨value, hvalue, hnarrowest⟩ := Literal.ofInt?_of_fits h
  have hread : Literal.value? (it.token start) = some value :=
    (Literal.number?_numeral it).trans hvalue
  exact ⟨value, hnarrowest, by rw [literal, hread]⟩

/-- A numeral of more than 128 bits is reported. -/
theorem literal_of_not_fits {it : Integer.Numeral} (h : it.value < -2 ^ 127 ∨ 2 ^ 127 ≤ it.value)
    (start : Nat) : literal (some (it.token start)) = (do
      report (it.token start).span (.invalidLiteral it.text)
      return .literal .null .unknown) := by
  have hread : Literal.value? (it.token start) = none :=
    (Literal.number?_numeral it).trans (Literal.ofInt?_of_not_fits h)
  rw [literal, hread]
  rfl

/-- **Integer literals are exact.** A numeral of any length is bound to the integer that it denotes, in
the narrowest of `INT`, `BIGINT` and `DECIMAL` that holds it, which is written like the numeral but
without leading zeros; and nothing is reported. If 128 bits do not hold the integer, then the numeral is
reported, and its value and type are not known.

What a draft writes for an integer is a numeral for it. -/
theorem literal_numeral :
    (∀ (it : Integer.Numeral) (start : Nat),
      (-2 ^ 127 ≤ it.value ∧ it.value < 2 ^ 127 → ∃ value, Narrowest it.value value ∧
        literal (some (it.token start)) = (return .literal value value.type) ∧
          value.text = it.plain) ∧
      (it.value < -2 ^ 127 ∨ 2 ^ 127 ≤ it.value → literal (some (it.token start)) = (do
        report (it.token start).span (.invalidLiteral it.text)
        return .literal .null .unknown))) ∧
    ∀ n : Int, ∃ it : Integer.Numeral,
      (Draft.Expr.integer n).element = Draft.literal (.token .numericLiteral it.text) ∧
        it.value = n ∧ it.plain = it.text := by
  refine ⟨fun it start => ⟨fun hfits => ?_, fun hwide => literal_of_not_fits hwide start⟩, ?_⟩
  · obtain ⟨value, hnarrowest, hbound⟩ := literal_of_fits hfits start
    exact ⟨value, hnarrowest, hbound, hnarrowest.text.trans it.toString_value⟩
  · intro n
    obtain ⟨it, htext, rfl⟩ := Integer.Numeral.exists_of_int n
    refine ⟨it, ?_, rfl, it.toString_value.symm.trans htext.symm⟩
    rw [htext]
    rfl

/-- The numeral `-00170141183460469231731687303715884105728`, of the least integer of 128 bits. -/
def leastNumeral : Integer.Numeral :=
  ⟨true, "00170141183460469231731687303715884105728".toList, by decide +kernel,
    List.all_eq_true.1 (by decide +kernel)⟩

/-- The same numeral without the minus sign, of the first integer that 128 bits do not hold. -/
def wideNumeral : Integer.Numeral :=
  { leastNumeral with negative := false }

/-- The least integer of 128 bits is bound exactly; the same digits without the minus sign are reported. -/
theorem literal_numeral_least :
    (∃ value, Narrowest (-2 ^ 127) value ∧
      literal (some ⟨.numericLiteral, "-00170141183460469231731687303715884105728", 7⟩) =
        (return .literal value value.type) ∧
      value.text = "-170141183460469231731687303715884105728") ∧
    literal (some ⟨.numericLiteral, "00170141183460469231731687303715884105728", 7⟩) = (do
      report ⟨7, 48⟩ (.invalidLiteral "00170141183460469231731687303715884105728")
      return .literal .null .unknown) := by
  obtain ⟨hnumerals, -⟩ := literal_numeral
  have hleast : leastNumeral.value = -2 ^ 127 := by decide +kernel
  have hwide : wideNumeral.value = 2 ^ 127 := by decide +kernel
  have hleastText : leastNumeral.text = "-00170141183460469231731687303715884105728" := by
    decide +kernel
  have hwideText : wideNumeral.text = "00170141183460469231731687303715884105728" := by
    decide +kernel
  have hplain : leastNumeral.plain = "-170141183460469231731687303715884105728" := by
    decide +kernel
  constructor
  · have hbound := (hnumerals leastNumeral 7).1 (by rw [hleast]; decide)
    rwa [hleast, hplain, Integer.Numeral.token, hleastText] at hbound
  · have hbound := (hnumerals wideNumeral 7).2 (by rw [hwide]; decide)
    rwa [Integer.Numeral.token, hwideText] at hbound

end Binding

end QuerySemantics
