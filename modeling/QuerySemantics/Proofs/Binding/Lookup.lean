import QuerySemantics.Proofs.Binding.Visit

/-!
# Looking visits up

A log holds the latest record of a node and the latest scope that it entered. What these look-ups
find for the nodes of one subtree is decided by the last step that comes to the subtree.

## Main definitions

* `Binding.Log.record?`, `Binding.Log.scope?`: the latest record and scope of a node.

## Main results

* `Binding.Visit.isSome_record?_iff`, `Binding.Visit.isSome_scope?_iff`: which look-ups find
  anything.
* `Binding.Visit.exists_last`: the last step that comes to a piece decides look-ups below it.
-/

set_option autoImplicit false

namespace QuerySemantics

namespace Binding

/-- A look-up in two parts of a log, where the later part knows all that the earlier one does. -/
theorem or_eq_left_of_isSome {α : Type} {later earlier : Option α}
    (h : earlier.isSome = true → later.isSome = true) : later.or earlier = later := by
  cases later with
  | some found => rfl
  | none =>
    cases earlier with
    | some found => cases h rfl
    | none => rfl

namespace Log

/-- The latest record of the node with a number. -/
def record? (log : Log) (index : Nat) : Option Record :=
  log.records.find? (·.info.index == index)

/-- The latest scope of the node with a number. -/
def scope? (log : Log) (index : Nat) : Option Scope :=
  (log.scopes.find? (·.1.index == index)).map (·.2)

/-- A record of a later part of a pass is found first. -/
theorem record?_append (later earlier : Log) (index : Nat) :
    (later ++ earlier).record? index = (later.record? index).or (earlier.record? index) := by
  rw [record?, records_append, List.find?_append]
  rfl

/-- A scope of a later part of a pass is found first. -/
theorem scope?_append (later earlier : Log) (index : Nat) :
    (later ++ earlier).scope? index = (later.scope? index).or (earlier.scope? index) := by
  rw [scope?, scopes_append, List.find?_append, Option.map_or]
  rfl

/-- A record is found where there is one. -/
theorem isSome_record?_iff (log : Log) (index : Nat) : (log.record? index).isSome = true ↔
    ∃ record ∈ log.records, record.info.index = index := by
  simp [record?]

/-- A scope is found where there is one. -/
theorem isSome_scope?_iff (log : Log) (index : Nat) : (log.scope? index).isSome = true ↔
    ∃ entered ∈ log.scopes, entered.1.index = index := by
  simp [scope?]

end Log

namespace Visit

variable {steps : List Step} {first last : SymbolId} {log : Log}

/-- A record is found for the nodes that the visit comes to and that are bound. -/
theorem isSome_record?_iff (h : Visit steps first last log) (index : Nat) :
    (log.record? index).isSome = true ↔ ∃ piece info, Comes steps piece ∧
      piece.isRecorded = true ∧ piece.info? = some info ∧ info.index = index := by
  rw [Log.isSome_record?_iff]
  constructor
  · rintro ⟨record, hrecord, rfl⟩
    obtain ⟨piece, hcomes, hrecorded, hinfo⟩ := (h.exists_record_iff _).1 ⟨record, hrecord, rfl⟩
    exact ⟨piece, _, hcomes, hrecorded, hinfo, rfl⟩
  · rintro ⟨piece, info, hcomes, hrecorded, hinfo, rfl⟩
    obtain ⟨record, hrecord, heq⟩ := (h.exists_record_iff info).2 ⟨piece, hcomes, hrecorded, hinfo⟩
    exact ⟨record, hrecord, congrArg _ heq⟩

/-- A scope is found for the nodes that the visit comes to and that enter one. -/
theorem isSome_scope?_iff (h : Visit steps first last log) (index : Nat) :
    (log.scope? index).isSome = true ↔ ∃ piece info, Comes steps piece ∧
      piece.enters = true ∧ piece.info? = some info ∧ info.index = index := by
  rw [Log.isSome_scope?_iff]
  constructor
  · rintro ⟨entered, hentered, rfl⟩
    obtain ⟨piece, hcomes, henters, hinfo⟩ := (h.exists_scope_iff _).1 ⟨entered, hentered, rfl⟩
    exact ⟨piece, _, hcomes, henters, hinfo, rfl⟩
  · rintro ⟨piece, info, hcomes, henters, hinfo, rfl⟩
    obtain ⟨entered, hentered, heq⟩ := (h.exists_scope_iff info).2 ⟨piece, hcomes, henters, hinfo⟩
    exact ⟨entered, hentered, congrArg _ heq⟩

/-! ## The last visit of a piece -/

/-- The first step is visited before the others. -/
theorem uncons {step : Step} (h : Visit (step :: steps) first last log) :
    ∃ middle log₁ log₂, Visit [step] first middle log₁ ∧ Visit steps middle last log₂ ∧
      log = log₂ ++ log₁ := by
  cases h with
  | missing hle hinstances hrest =>
    exact ⟨_, .empty, _, .missing hle hinstances (.nil (Nat.le_refl _)), hrest,
      (Log.append_empty _).symm⟩
  | node hearly hlate henters hscope h₁ h₂ hle hown hrest =>
    exact ⟨_, _, _, .node hearly hlate henters hscope h₁ h₂ hle hown (.nil (Nat.le_refl _)), hrest,
      rfl⟩

/-- **Apart**: steps come to nodes with one of the given numbers by way of one piece only. -/
def Apart (steps : List Step) (target : Piece) (numbers : Nat → Prop) : Prop :=
  ∀ step ∈ steps, ∀ start, step.piece = some start → ∀ piece info, start.Reached piece →
    piece.info? = some info → numbers info.index → start = target

/-- **The last step that comes to a piece** decides the look-ups below it.

**Proof sketch.** By induction on the steps. If a later step comes to the piece again, then it
records the same nodes again; if none does, then no later step records a node below it. -/
theorem exists_last {target : Piece} {numbers : Nat → Prop} (h : Visit steps first last log)
    (hapart : Apart steps target numbers) (hcomes : ∃ step ∈ steps, step.piece = some target) :
    ∃ step ∈ steps, step.piece = some target ∧ ∃ first' last' log', Visit [step] first' last' log' ∧
      ∀ index, numbers index →
        log.record? index = log'.record? index ∧ log.scope? index = log'.scope? index := by
  induction steps generalizing first log with
  | nil =>
    obtain ⟨step, hstep, -⟩ := hcomes
    exact absurd hstep List.not_mem_nil
  | cons step rest ih =>
    obtain ⟨middle, log₁, log₂, h₁, h₂, rfl⟩ := h.uncons
    have hapart' : Apart rest target numbers := fun step hstep =>
      hapart step (List.mem_cons_of_mem _ hstep)
    by_cases hrest : ∃ step ∈ rest, step.piece = some target
    · obtain ⟨found, hfound, hpiece, first', last', log', hvisit, hlook⟩ := ih h₂ hapart' hrest
      refine ⟨found, List.mem_cons_of_mem _ hfound, hpiece, first', last', log', hvisit,
        fun index hindex => ?_⟩
      -- what the first step comes to, the later ones come to again
      have hagain : ∀ {piece info}, Comes [step] piece → piece.info? = some info →
          info.index = index → Comes rest piece := by
        rintro piece info ⟨_, hstep, start, hstart, hreached⟩ hinfo rfl
        obtain rfl := List.mem_singleton.1 hstep
        obtain rfl := hapart _ List.mem_cons_self start hstart piece info hreached hinfo hindex
        obtain ⟨later, hlater, hpiece'⟩ := hrest
        exact ⟨later, hlater, start, hpiece', hreached⟩
      have hrecords : (log₁.record? index).isSome = true → (log₂.record? index).isSome = true := by
        rw [h₁.isSome_record?_iff, h₂.isSome_record?_iff]
        rintro ⟨piece, info, hcomes, hrecorded, hinfo, heq⟩
        exact ⟨piece, info, hagain hcomes hinfo heq, hrecorded, hinfo, heq⟩
      have hscopes : (log₁.scope? index).isSome = true → (log₂.scope? index).isSome = true := by
        rw [h₁.isSome_scope?_iff, h₂.isSome_scope?_iff]
        rintro ⟨piece, info, hcomes, henters, hinfo, heq⟩
        exact ⟨piece, info, hagain hcomes hinfo heq, henters, hinfo, heq⟩
      rw [Log.record?_append, Log.scope?_append, or_eq_left_of_isSome hrecords,
        or_eq_left_of_isSome hscopes]
      exact hlook index hindex
    · obtain ⟨found, hfound, hpiece⟩ := hcomes
      rcases List.mem_cons.1 hfound with rfl | hfound
      · refine ⟨found, List.mem_cons_self, hpiece, _, _, log₁, h₁, fun index hindex => ?_⟩
        -- no later step comes to a node with one of the numbers
        have hnever : ∀ {piece info}, Comes rest piece → piece.info? = some info →
            info.index ≠ index := by
          rintro piece info ⟨later, hlater, start, hstart, hreached⟩ hinfo rfl
          obtain rfl := hapart' later hlater start hstart piece info hreached hinfo hindex
          exact hrest ⟨later, hlater, hstart⟩
        have hrecords : log₂.record? index = none := by
          rw [← Option.not_isSome_iff_eq_none, h₂.isSome_record?_iff]
          rintro ⟨piece, info, hcomes, -, hinfo, heq⟩
          exact hnever hcomes hinfo heq
        have hscopes : log₂.scope? index = none := by
          rw [← Option.not_isSome_iff_eq_none, h₂.isSome_scope?_iff]
          rintro ⟨piece, info, hcomes, -, hinfo, heq⟩
          exact hnever hcomes hinfo heq
        rw [Log.record?_append, Log.scope?_append, hrecords, hscopes]
        exact ⟨rfl, rfl⟩
      · exact absurd ⟨found, hfound, hpiece⟩ hrest

end Visit

end Binding

end QuerySemantics
