import QuerySemantics.Proofs.Binding.Behind
import QuerySemantics.Proofs.Binding.Hygiene
import QuerySemantics.Proofs.Binding.LockstepPass
import QuerySemantics.Proofs.Catalog.Reliable

/-!
# The first identity

Binding takes new identities from a first one on. Which one that is decides nothing: if one tree is bound
twice, from different first identities, the same is reported, and each node is bound to twins. So what is
stated for two passes from the same first identity holds up to the names of symbols for any two.

The providers have to be reliable. One that looks at the identity at hand can answer with other members.

## Main definitions

* `Binding.PassComparison.anew`: how two passes over one tree are compared.
* `BindingResult.Anew`: results of binding one node twice.

## Main results

* `SyntaxTree.bindAt_anew`: binding a node of a tree from two first identities.
* `Analysis.model_anew`: the models of one analysis from two first identities.
-/

set_option autoImplicit false

namespace QuerySemantics

open Binding

/-! ## Passes -/

/-- **Comparing two passes over one tree.** They report the same, and record twins. -/
def Binding.PassComparison.anew {catalog : Catalog} (hcatalog : catalog.Reliable) (options : Options)
    (root : Located) : PassComparison where
  toLikeness := .refl root
  typed := catalog.anyTyped
  options := options
  span span span' := span' = span
  members := MemberCache.Alike
  records pairing records records' := Twin catalog.anyTyped pairing records records'
  diagnostics reported reported' := reported' = reported
  span_info h := congrArg NodeInfo.span h
  span_token h := congrArg Token.span h
  askMethods pairing {_ _ type} next next' hmembers _ :=
    hcatalog.methods_twin pairing hmembers type next next'
  askProperties pairing {_ _ type} next next' hmembers _ :=
    hcatalog.properties_twin pairing hmembers type next next'
  records_mono hle h := Twinned.mono hle h
  records_cons _ _ hinfo hnode h := .cons ⟨hinfo, hnode⟩ h
  diagnostics_keep _ hspan hreported := by rw [hspan, hreported]

/-- **A pass over a node goes in parallel with itself.** -/
theorem Located.pass_parallel_self {c : PassComparison} {node : Located}
    (h : node.Alike c.toLikeness node) (pairing : Pairing) :
    Parallel c pairing (pass node) (pass node) := by
  have hpiece : node.piece.Strict (parallelForms c).toCorrespondence node.piece :=
    Located.Alike.strict (c := parallelForms c) h
  unfold Binding.pass
  cases node.info? with
  | none => exact .pure trivial
  | some info => exact (Parallel.recordScope info info).next fun _ _ => piece_parallel hpiece

/-! ## Results -/

/-- **Results of binding one node twice**: the same diagnostics, alike members, and records that are twins,
in the same order. -/
structure BindingResult.Anew (typed : TypedCatalog) (pairing : Pairing) (result result' : BindingResult) :
    Prop where
  root : result'.root = result.root
  coincidences : result'.coincidences = result.coincidences
  records : Twin typed pairing result.records result'.records
  diagnostics : result'.diagnostics = result.diagnostics
  members : result.members.Alike result'.members

namespace BindingResult.Anew

variable {typed : TypedCatalog} {pairing : Pairing} {result result' : BindingResult}

/-- The same nodes are one in both results. -/
theorem isSame_eq (h : result.Anew typed pairing result') (index other : Nat) :
    result'.isSame index other = result.isSame index other := by
  unfold isSame
  rw [h.coincidences]

/-- **Each node is bound to twins**, or in neither result. -/
theorem twin (h : result.Anew typed pairing result') (index : Nat) :
    Twin typed pairing (result.boundNode? index) (result'.boundNode? index) := by
  have hfound : Option.Rel (Record.Twins typed pairing)
      (result.records.find? (result.isSame ·.info.index index))
      (result'.records.find? (result'.isSame ·.info.index index)) :=
    h.records.find? fun record record' hrecord => by
      rw [hrecord.info]
      exact h.isSame_eq record.info.index index
  exact hfound.map fun _ _ hrecord => hrecord.node

end BindingResult.Anew

/-- **The first identity decides nothing.** Binding a node of a tree from two first identities, against a
catalog with reliable providers, gives the same diagnostics, and one pairing of identities makes twins of
all that is recorded. -/
theorem SyntaxTree.bindAt_anew {catalog : Catalog} (hcatalog : catalog.Reliable) (tree : SyntaxTree)
    (node : Located) (options : Options) (next next' : SymbolId) :
    ∃ pairing : Pairing, pairing.OneToOne ∧
      (tree.bindAt node options catalog next).1.Anew catalog.anyTyped pairing
        (tree.bindAt node options catalog next').1 := by
  let c : PassComparison := .anew hcatalog options node
  have halike : node.Alike c.toLikeness node := Located.alike_refl node fun _ hnode => hnode
  have hstart : Abreast c (fun _ _ => False) (.start (next + 1)) (.start (next' + 1)) :=
    ⟨bounded_nothing _ _, MemberCache.alike_empty, .nil, rfl⟩
  obtain ⟨pairing, -, -, habreast⟩ := Located.pass_parallel_self halike _ ⟨next, catalog, []⟩
    ⟨next', catalog, []⟩ ⟨rfl, rfl, .nil⟩ _ _ hstart
  exact ⟨pairing, habreast.bounded.one, rfl, rfl, habreast.records, habreast.diagnostics,
    habreast.members⟩

/-! ## Models -/

/-- **The models of one analysis** report the same, and bind each node to twins, whichever identities were
free when they were made. -/
theorem Analysis.model_anew {analysis : Analysis} (hcatalog : analysis.catalog.Reliable)
    (next next' : SymbolId) :
    ∃ pairing : Pairing, pairing.OneToOne ∧
      (analysis.model next').1.diagnostics = (analysis.model next).1.diagnostics ∧
      ∀ index, Twin analysis.catalog.anyTyped pairing ((analysis.model next).1.result.boundNode? index)
        ((analysis.model next').1.result.boundNode? index) := by
  obtain ⟨pairing, hone, hanew⟩ :=
    analysis.tree.bindAt_anew hcatalog analysis.tree.root analysis.options next next'
  exact ⟨pairing, hone, hanew.diagnostics, hanew.twin⟩

end QuerySemantics
