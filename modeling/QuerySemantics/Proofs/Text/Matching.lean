import Mathlib.Data.Char
import QuerySemantics.Text.Matching

/-!
# Names that differ in case

What is selected by a name is called so, but for case. Entries that are called otherwise are never
selected, wherever they stand; and if no entry differs from the name in case alone, then it does not
matter whether case does.

## Main definitions

* `Matching.Inserted`: a list with further entries at any places.

## Main results

* `Matching.equalIgnoringCase_of_ascii`: names that agree up to the case of ASCII letters agree up to
  case.
* `Matching.select_inserted`: entries with other names are not selected.
* `Matching.select_cased`: a selection in which case does not matter.
-/

set_option autoImplicit false

namespace QuerySemantics

/-! ## Lower case -/

namespace Lowercase

/-- No character is lost. -/
theorem ofChar_ne_nil (c : Char) : ofChar c ≠ [] := by
  unfold ofChar
  split
  · exact List.cons_ne_nil _ _
  · split
    · exact List.cons_ne_nil _ _
    · split <;> exact List.cons_ne_nil _ _

/-- Only the empty text has an empty lower case. -/
theorem eq_empty_of_ofString {text : String} (h : ofString text = []) : text = "" := by
  have hnil : text.toList = [] := by
    cases hlist : text.toList with
    | nil => rfl
    | cons c rest =>
      rw [ofString, hlist, List.flatMap_cons, List.append_eq_nil_iff] at h
      exact absurd h.1 (ofChar_ne_nil c)
  exact String.toList_eq_nil_iff.1 hnil

/-- A letter of ASCII and its capital have one lower case. -/
theorem ofChar_toUpper (c : Char) : ofChar c.toUpper = ofChar c := by
  by_cases hascii : c.toNat < 128
  · have hall : ∀ n < 128, ofChar (Char.ofNat n).toUpper = ofChar (Char.ofNat n) := by
      decide +kernel
    have := hall c.toNat hascii
    rwa [Char.ofNat_toNat] at this
  · -- only letters of ASCII have capitals here
    have hupper : ¬('a'.val ≤ c.val ∧ c.val ≤ 'z'.val) := by
      rintro ⟨-, hle⟩
      have : c.toNat ≤ 122 := hle
      omega
    have hsame : c.toUpper = c := dif_neg hupper
    rw [hsame]

end Lowercase

namespace Matching

/-! ## Equality up to case -/

variable {a b name : String}

/-- A name is equal to itself, ignoring case. -/
theorem equalIgnoringCase_refl (name : String) : equalIgnoringCase name name = true :=
  beq_self_eq_true _

/-- Only the empty name is equal to the empty name. -/
theorem eq_empty_of_equalIgnoringCase (h : equalIgnoringCase "" name = true) : name = "" :=
  Lowercase.eq_empty_of_ofString (eq_of_beq h).symm

/-- **Names that agree up to the case of ASCII letters** agree up to case. -/
theorem equalIgnoringCase_of_ascii (h : equalIgnoringAsciiCase a b = true) :
    equalIgnoringCase a b = true := by
  have hupper : a.toList.map Char.toUpper = b.toList.map Char.toUpper := eq_of_beq h
  have hlower : ∀ text : String,
      (text.toList.map Char.toUpper).flatMap Lowercase.ofChar = Lowercase.ofString text := by
    intro text
    rw [List.flatMap_map]
    exact congrArg (text.toList.flatMap ·) (funext Lowercase.ofChar_toUpper)
  rw [equalIgnoringCase, beq_iff_eq, ← hlower a, ← hlower b, hupper]

/-! ## What is selected -/

section Selection

variable {α : Type} {nameOf : α → String} {cased : Bool} {items more : List α} {item : α}

/-- **What is selected has the name**, but for case. -/
theorem equalIgnoringCase_of_mem_select (h : item ∈ select cased nameOf name items) :
    equalIgnoringCase (nameOf item) name = true := by
  unfold select at h
  split at h
  · split at h
    · cases h
    · exact (List.mem_filter.1 h).2
  · have hname : nameOf item = name := eq_of_beq (List.mem_filter.1 h).2
    rw [hname]
    exact equalIgnoringCase_refl name

/-- **Insertion**: further entries at any places of a list, each of which is as told. -/
inductive Inserted (added : α → Prop) : List α → List α → Prop where
  | nil : Inserted added [] []
  | keep {items more : List α} (item : α) : Inserted added items more →
      Inserted added (item :: items) (item :: more)
  | insert {items more : List α} {item : α} : added item → Inserted added items more →
      Inserted added items (item :: more)

namespace Inserted

variable {added added' : α → Prop}

/-- Nothing inserted. -/
theorem refl (items : List α) : Inserted added items items := by
  induction items with
  | nil => exact .nil
  | cons item rest ih => exact .keep item ih

/-- What is inserted may be described in other words. -/
theorem imp (hle : ∀ item, added item → added' item) (h : Inserted added items more) :
    Inserted added' items more := by
  induction h with
  | nil => exact .nil
  | keep item _ ih => exact .keep item ih
  | insert hitem _ ih => exact .insert (hle _ hitem) ih

/-- A test that no further entry passes filters the same. -/
theorem filter_eq {test : α → Bool} (h : Inserted (fun item => test item = false) items more) :
    more.filter test = items.filter test := by
  induction h with
  | nil => rfl
  | keep item _ ih => rw [List.filter_cons, List.filter_cons, ih]
  | insert hitem _ ih => rw [List.filter_cons_of_neg (by simp [hitem]), ih]

/-- A test that no further entry passes finds the same. -/
theorem find?_eq {test : α → Bool} (h : Inserted (fun item => test item = false) items more) :
    more.find? test = items.find? test := by
  rw [← List.head?_filter, ← List.head?_filter, h.filter_eq]

end Inserted

/-- **Entries with other names** are not selected, wherever they are put. -/
theorem select_inserted (cased : Bool)
    (h : Inserted (fun item => equalIgnoringCase (nameOf item) name = false) items more) :
    select cased nameOf name more = select cased nameOf name items := by
  have hexact : Inserted (fun item => (nameOf item == name) = false) items more := by
    refine h.imp fun item hdiffer => ?_
    rw [beq_eq_false_iff_ne]
    rintro rfl
    rw [equalIgnoringCase_refl] at hdiffer
    cases hdiffer
  rw [select, select, hexact.filter_eq, h.filter_eq]

/-- **A selection in which case does not matter**: no entry differs from the name in case alone. -/
theorem select_cased (h : ∀ item ∈ items, equalIgnoringCase (nameOf item) name = true →
    nameOf item = name) (cased cased' : Bool) :
    select cased nameOf name items = select cased' nameOf name items := by
  have hnone : items.filter (nameOf · == name) = [] →
      items.filter (fun item => equalIgnoringCase (nameOf item) name) = [] := by
    intro hexact
    refine List.filter_eq_nil_iff.2 fun item hitem hequal => ?_
    exact List.filter_eq_nil_iff.1 hexact item hitem (beq_iff_eq.2 (h item hitem hequal))
  unfold select
  cases hexact : items.filter (nameOf · == name) with
  | nil => simp only [hnone hexact, ite_self]
  | cons first rest => rfl

end Selection

end Matching

end QuerySemantics
