import Mathlib.Data.List.Basic
import QuerySemantics.Report.Basic

/-!
# The texts of a report

A report knows each of its texts by a name and by a number. A text that is registered stays: neither
another text under the same name nor any other text replaces it, and its number goes on to be its.

## Main definitions

* `Report.source?`: the text that is registered under a name.

## Main results

* `Report.getElem?_addFile`: the number that registering gives is that of the text under the name.
* `Report.source?_addFile`: what registering a text changes about the texts under all names.
-/

set_option autoImplicit false

namespace QuerySemantics

namespace Report

variable {report : Report} {name source : String}

/-- **The text under a name**: that of the first registered text that has the name. -/
def source? (report : Report) (name : String) : Option String :=
  (report.files.find? (·.name == name)).map SourceFile.source

/-- The number of a name is that of the text under the name. -/
theorem getElem?_fileId? {id : Nat} (h : report.fileId? name = some id) :
    ∃ text, report.source? name = some text ∧ report.files[id]? = some ⟨name, text⟩ := by
  obtain ⟨hlt, hname, hbefore⟩ := List.findIdx?_eq_some_iff_getElem.1 h
  have hfind : report.files.find? (·.name == name) = some report.files[id] :=
    List.find?_eq_some_iff_getElem.2 ⟨hname, id, hlt, rfl, by simpa using hbefore⟩
  refine ⟨report.files[id].source, by rw [source?, hfind]; rfl, ?_⟩
  rw [List.getElem?_eq_getElem hlt, ← (beq_iff_eq.1 hname : report.files[id].name = name)]

/-- A name without number is one without text. -/
theorem source?_eq_none (h : report.fileId? name = none) : report.source? name = none := by
  rw [source?, Option.map_eq_none_iff, List.find?_eq_none]
  exact fun file hfile => by simpa using List.findIdx?_eq_none_iff.1 h file hfile

/-- **Texts stay** what they are when another is registered. -/
theorem getElem?_addFile_of_some {id : Nat} {file : SourceFile}
    (h : report.files[id]? = some file) (name source : String) :
    (report.addFile name source).2.files[id]? = some file := by
  unfold addFile
  cases report.fileId? name with
  | some _ => exact h
  | none => exact (List.getElem?_append_left (List.getElem?_eq_some_iff.1 h).1).trans h

/-- Registering a text gives no notice. -/
theorem notices_addFile (report : Report) (name source : String) :
    (report.addFile name source).2.notices = report.notices := by
  unfold addFile
  cases report.fileId? name <;> rfl

/-- **The number that registering gives** is that of the text under the name: the text that was there
before, or else the new one. -/
theorem getElem?_addFile (report : Report) (name source : String) :
    (report.addFile name source).2.files[(report.addFile name source).1]? =
      some ⟨name, (report.source? name).getD source⟩ := by
  unfold addFile
  cases h : report.fileId? name with
  | some id =>
    obtain ⟨text, htext, hfile⟩ := getElem?_fileId? h
    simp only [htext, hfile, Option.getD_some]
  | none => simp only [source?_eq_none h, Option.getD_none, List.getElem?_concat_length]

/-- **Registering** a text changes what is under its name only, and only if nothing is there yet. -/
theorem source?_addFile (report : Report) (name source other : String) :
    (report.addFile name source).2.source? other =
      (report.source? other).or (if other = name then some source else none) := by
  unfold addFile
  cases h : report.fileId? name with
  | some id =>
    obtain ⟨text, htext, -⟩ := getElem?_fileId? h
    by_cases hother : other = name
    · simp only [hother, htext, Option.some_or]
    · simp only [hother, if_false, Option.or_none]
  | none =>
    by_cases hother : other = name
    · have hfind : report.files.find? (·.name == name) = none :=
        Option.map_eq_none_iff.1 (source?_eq_none h)
      simp [source?, hother, hfind]
    · simp [source?, hother, List.find?_append, Ne.symm hother]

end Report

end QuerySemantics
