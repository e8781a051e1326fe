import Mathlib.Data.List.Forall2
import QuerySemantics.Bound.Basic
import QuerySemantics.Proofs.Value.Order

/-!
# Nests of set operations

Set operations may stand in set operations, and row limits, `ORDER BY` and `WITH` around any of them. At
the leaves of such a nest there are `SELECT`s. The columns of a set operation are merged pair by pair, and
pass through all that stands around it, so that a column of the nest comes to be the greatest of the
columns at its place in the leaves.

## Main definitions

* `Bound.Query.leaves`, `Bound.Query.leafTypes`: the `SELECT`s at the leaves of a nest, and the types that
  they have at a place.
* `Bound.Query.Merged`: all set operations of a nest fit their sides.

## Main results

* `Bound.Query.Merged.greatest`: a column of a nest has the greatest of the types at its place.
-/

set_option autoImplicit false

namespace QuerySemantics

open SqlType (Greatest)

namespace Bound

namespace Query

/-- **The leaves** of a nest of set operations, from left to right. -/
def leaves : Query → List Query
  | .select distinct tables filter grouping having items =>
    [.select distinct tables filter grouping having items]
  | .combined left _ right _ => left.leaves ++ right.leaves
  | .ordered input _ => input.leaves
  | .withTables _ body => body.leaves
  | .top input _ _ => input.leaves

/-- **The types at a place**: those of the columns that the leaves of a nest have there. -/
def leafTypes (query : Query) (place : Nat) : List SqlType :=
  query.leaves.filterMap fun leaf => leaf.output[place]?.map QueryColumn.type

/-- **Fitting sides**: as many columns on both sides, whose common types are those of the output. -/
structure Fitting (left right output : List QueryColumn) : Prop where
  length_eq : left.length = right.length
  types : List.Forall₂ (fun pair column => pair.1.type.common? pair.2.type = some column.type)
    (left.zip right) output

/-- **A merged nest**: each of its set operations fits its sides. -/
def Merged : Query → Prop
  | .select _ _ _ _ _ _ => True
  | .combined left _ right output => left.Merged ∧ right.Merged ∧ Fitting left.output right.output output
  | .ordered input _ => input.Merged
  | .withTables _ body => body.Merged
  | .top input _ _ => input.Merged

namespace Fitting

variable {left right output : List QueryColumn}

/-- The output has as many columns as each side. -/
theorem length_output (h : Fitting left right output) : output.length = left.length := by
  have hzip : (left.zip right).length = output.length := h.types.length_eq
  rw [List.length_zip, ← h.length_eq, Nat.min_self] at hzip
  exact hzip.symm

/-- A column of the output comes from a column of each side. -/
theorem exists_of_getElem? (h : Fitting left right output) {place : Nat} {column : QueryColumn}
    (hcolumn : output[place]? = some column) : ∃ one other, left[place]? = some one ∧
      right[place]? = some other ∧ one.type.common? other.type = some column.type := by
  obtain ⟨hplace, rfl⟩ := List.getElem?_eq_some_iff.1 hcolumn
  have hplace' : place < (left.zip right).length := h.types.length_eq ▸ hplace
  have hpair : (left.zip right)[place]? = some (left.zip right)[place] :=
    List.getElem?_eq_getElem hplace'
  obtain ⟨hone, hother⟩ := List.getElem?_zip_eq_some.1 hpair
  exact ⟨_, _, hone, hother, h.types.get hplace' hplace⟩

end Fitting

variable {hosts : HostType → Prop}

/-- The types at a place are over a hierarchy if all columns of the leaves are. -/
theorem over_of_mem_leafTypes {query : Query}
    (hover : ∀ leaf ∈ query.leaves, ∀ column ∈ leaf.output, column.type.Over hosts) {place : Nat}
    {type : SqlType} (h : type ∈ query.leafTypes place) : type.Over hosts := by
  obtain ⟨leaf, hleaf, hat⟩ := List.mem_filterMap.1 h
  obtain ⟨column, hcolumn, rfl⟩ := Option.map_eq_some_iff.1 hat
  exact hover leaf hleaf column (List.mem_of_getElem? hcolumn)

/-- **The columns of a merged nest**: each leaf has as many as the nest, and a column of the nest has the
greatest of the types at its place.

**Proof sketch.** By recursion on the nest. What is greatest on both sides of a set operation is joined by
it, and all else passes the columns of the query inside on. -/
theorem Merged.greatest (h : HostType.Hierarchy hosts) : ∀ query : Query, query.Merged →
    (∀ leaf ∈ query.leaves, ∀ column ∈ leaf.output, column.type.Over hosts) →
    (∀ leaf ∈ query.leaves, leaf.output.length = query.output.length) ∧
      ∀ place column, query.output[place]? = some column →
        Greatest (query.leafTypes place) column.type
  | .select distinct tables filter grouping having items, _, _ => by
    constructor
    · intro leaf hleaf
      rw [List.mem_singleton.1 hleaf]
    · intro place column hcolumn
      have htypes : (Query.select distinct tables filter grouping having items).leafTypes place =
          [column.type] := by
        rw [leafTypes, leaves, List.filterMap_cons, hcolumn]
        rfl
      rw [htypes]
      exact SqlType.greatest_singleton column.type
  | .combined left operator right output, ⟨hleft, hright, hfitting⟩, hover => by
    obtain ⟨hover₁, hover₂⟩ := List.forall_mem_append.1 hover
    obtain ⟨hlength₁, hgreatest₁⟩ := Merged.greatest h left hleft hover₁
    obtain ⟨hlength₂, hgreatest₂⟩ := Merged.greatest h right hright hover₂
    constructor
    · intro leaf hleaf
      show leaf.output.length = output.length
      rw [hfitting.length_output]
      rcases List.mem_append.1 hleaf with hleaf | hleaf
      · exact hlength₁ leaf hleaf
      · rw [hlength₂ leaf hleaf, hfitting.length_eq]
    · intro place column hcolumn
      obtain ⟨one, other, hone, hother, hcommon⟩ := hfitting.exists_of_getElem? hcolumn
      have htypes : (Query.combined left operator right output).leafTypes place =
          left.leafTypes place ++ right.leafTypes place := List.filterMap_append
      rw [htypes]
      exact (hgreatest₁ place one hone).append h (fun _ => over_of_mem_leafTypes hover₁)
        (fun _ => over_of_mem_leafTypes hover₂) (hgreatest₂ place other hother) hcommon
  | .ordered input _, hmerged, hover => Merged.greatest h input hmerged hover
  | .withTables _ body, hmerged, hover => Merged.greatest h body hmerged hover
  | .top input _ _, hmerged, hover => Merged.greatest h input hmerged hover

end Query

end Bound

end QuerySemantics
