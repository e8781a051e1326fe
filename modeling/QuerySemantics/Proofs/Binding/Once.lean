import QuerySemantics.Proofs.Ast.Apart
import QuerySemantics.Proofs.Binding.Visit

/-!
# Visiting once

A visit to pieces that are apart from each other comes to no node twice, and so it records no node
twice.

## Main results

* `Binding.Visit.nodup_records`: the records of a visit are of different nodes.
-/

set_option autoImplicit false

namespace QuerySemantics

namespace Binding

section Concludes

variable {scope inner : Scope} {early : List Step} {first last : SymbolId} {piece : Piece}
  {outcome : Outcome} {own : List Record}

/-- A piece is recorded under its own number, or not at all. -/
theorem Concludes.map_index (h : Concludes scope inner early first last piece outcome own) :
    own.map (·.info.index) = if piece.isRecorded then piece.index?.toList else [] := by
  have hmap := congrArg (List.map NodeInfo.index) h.map_info
  rw [List.map_map] at hmap
  refine hmap.trans ?_
  rw [Piece.index?]
  split
  · cases piece.info? <;> rfl
  · rfl

/-- The records of a piece that is left are those of the node it is. -/
theorem Concludes.index_of_mem (h : Concludes scope inner early first last piece outcome own)
    {number : Nat} (hnumber : number ∈ own.map (·.info.index)) : piece.index? = some number := by
  rw [h.map_index] at hnumber
  split at hnumber
  · exact Option.mem_toList.1 hnumber
  · cases hnumber

/-- A piece has one record at most when it is left. -/
theorem Concludes.nodup_index (h : Concludes scope inner early first last piece outcome own) :
    (own.map (·.info.index)).Nodup := by
  rw [h.map_index]
  split
  · cases piece.index? <;> simp
  · exact List.nodup_nil

end Concludes

namespace Visit

variable {steps : List Step} {first last : SymbolId} {log : Log}

/-- The pieces of steps. -/
def pieces (steps : List Step) : List Piece :=
  steps.filterMap Step.piece

/-- A record is of a node that one of the visited pieces covers. -/
theorem exists_covers (h : Visit steps first last log) {number : Nat}
    (hnumber : number ∈ log.records.map (·.info.index)) :
    ∃ piece ∈ pieces steps, piece.Covers number := by
  obtain ⟨record, hrecord, rfl⟩ := List.mem_map.1 hnumber
  obtain ⟨inner, ⟨step, hstep, start, hstart, hreached⟩, -, hinfo⟩ :=
    (h.exists_record_iff record.info).1 ⟨record, hrecord, rfl⟩
  exact ⟨start, List.mem_filterMap.2 ⟨step, hstep, hstart⟩, inner, hreached, inner, .inl rfl,
    by rw [Piece.index?, hinfo, Option.map_some]⟩

/-- The pieces of early and late steps are the visited parts. -/
theorem pieces_append {early late : List Step} {piece : Piece}
    (hearly : early.map Step.piece = piece.early) (hlate : late.map Step.piece = piece.late) :
    pieces early ++ pieces late = piece.visited := by
  rw [Piece.visited, ← hearly, ← hlate, List.filterMap_append, List.filterMap_map,
    List.filterMap_map]
  rfl

/-- **What is recorded below a piece** is of nodes that its parts cover. -/
theorem exists_visited_covers {early late : List Step} {piece : Piece} {first' middle : SymbolId}
    {log₁ log₂ : Log} (hearly : early.map Step.piece = piece.early)
    (hlate : late.map Step.piece = piece.late) (h₁ : Visit early first middle log₁)
    (h₂ : Visit late first' last log₂) {number : Nat}
    (hnumber : number ∈ log₂.records.map (·.info.index) ∨
      number ∈ log₁.records.map (·.info.index)) :
    ∃ part ∈ piece.visited, part.Covers number := by
  rw [← pieces_append hearly hlate]
  rcases hnumber with hmem | hmem
  · obtain ⟨part, hpart, hcovers⟩ := h₂.exists_covers hmem
    exact ⟨part, List.mem_append_right _ hpart, hcovers⟩
  · obtain ⟨part, hpart, hcovers⟩ := h₁.exists_covers hmem
    exact ⟨part, List.mem_append_left _ hpart, hcovers⟩

/-- **No node is recorded twice** on a visit to pieces that are apart. -/
theorem nodup_records (h : Visit steps first last log) (hspread : Piece.Spread (pieces steps)) :
    (log.records.map (·.info.index)).Nodup := by
  induction h with
  | nil => exact List.nodup_nil
  | missing _ _ _ ih => exact ih hspread
  | @node _ inner piece _ early late rest _ _ _ _ _ log₁ log₂ log₃ own hearly hlate _ _ h₁ h₂ _ hown
      h₃ ih₁ ih₂ ih₃ =>
    obtain ⟨hapart, hrest, hfirst⟩ := hspread.of_cons
    have hvisited := hapart.spread
    rw [← pieces_append hearly hlate] at hvisited
    obtain ⟨hspread₁, hspread₂, hbetween⟩ := hvisited.of_append
    have hbelow : ∀ number, _ → ∃ part ∈ piece.visited, part.Covers number :=
      fun _ => exists_visited_covers hearly hlate h₁ h₂
    have hcovers : ∀ number, number ∈ own.map (·.info.index) ∨
        number ∈ log₂.records.map (·.info.index) ∨ number ∈ log₁.records.map (·.info.index) →
          piece.Covers number := by
      rintro number (hmem | hmem)
      · exact Piece.covers_self (hown.index_of_mem hmem)
      · obtain ⟨part, hpart, hcovers⟩ := hbelow number hmem
        exact .of_reached (.step hpart (.refl part)) hcovers
    simp only [Log.records_append, List.nil_append, List.map_append, List.nodup_append,
      List.mem_append]
    refine ⟨ih₃ hrest, ⟨hown.nodup_index, ⟨ih₂ hspread₂, ih₁ hspread₁, ?_⟩, ?_⟩, ?_⟩
    · rintro number hmem _ hmem' rfl
      obtain ⟨part, hpart, hcovered⟩ := h₂.exists_covers hmem
      obtain ⟨other, hother, hcovered'⟩ := h₁.exists_covers hmem'
      exact hbetween other hother part hpart number hcovered' hcovered
    · rintro number hmem _ hmem' rfl
      obtain ⟨part, hpart, hcovered⟩ := hbelow number hmem'
      exact (hapart piece (.refl piece)).own part hpart piece (.inl rfl) number
        (hown.index_of_mem hmem) hcovered
    · rintro number hmem _ hmem' rfl
      obtain ⟨other, hother, hcovered⟩ := h₃.exists_covers hmem
      exact hfirst other hother number (hcovers number hmem') hcovered

end Visit

end Binding

end QuerySemantics
