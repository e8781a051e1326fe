import QuerySemantics.Text.Lowercase

/-!
# Matching names

Names are compared exactly, or ignoring case. A name written in a query refers to the entries that
match it exactly; only when there is none, and case is to be ignored, to those that differ from it
in case alone.

## Main definitions

* `Matching.equalIgnoringCase`: equality of names up to case.
* `Matching.select`: the entries of a list that a name refers to.
-/

set_option autoImplicit false

namespace QuerySemantics

namespace Matching

/-- Whether two names agree when each character is taken in lower case. -/
def equalIgnoringCase (a b : String) : Bool :=
  Lowercase.ofString a == Lowercase.ofString b

/-- Whether two names agree when the letters of ASCII are taken in upper case. -/
def equalIgnoringAsciiCase (a b : String) : Bool :=
  a.toList.map Char.toUpper == b.toList.map Char.toUpper

/-- **Selection by name**: the items called exactly `name`; when there is none and case does not
matter, those whose names differ from `name` only in case. -/
def select {α : Type} (caseSensitive : Bool) (nameOf : α → String) (name : String)
    (items : List α) : List α :=
  match items.filter (nameOf · == name) with
  | [] => if caseSensitive then [] else items.filter fun item => equalIgnoringCase (nameOf item) name
  | exact => exact

/-- A selected item is one of the items. -/
theorem mem_of_mem_select {α : Type} {caseSensitive : Bool} {nameOf : α → String} {name : String}
    {items : List α} {item : α} (h : item ∈ select caseSensitive nameOf name items) :
    item ∈ items := by
  unfold select at h
  split at h
  · split at h
    · simp at h
    · exact (List.mem_filter.1 h).1
  · exact (List.mem_filter.1 h).1

end Matching

end QuerySemantics
