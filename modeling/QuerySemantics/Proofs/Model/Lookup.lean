import Mathlib.Data.List.Nodup
import QuerySemantics.Binding.Result
import QuerySemantics.Proofs.Binding.Lookup
import QuerySemantics.Proofs.Tree.Coincidence

/-!
# Looking results up

A result finds the latest record of a node, where nodes that coincide are one node. A node that coincides
with no other one is found by its number alone, as it is in the log of the pass.

## Main definitions

* `BindingResult.log`: the log of a result.
* `BindingResult.latest?`: what the latest record of a number says.
* `SyntaxTree.Alone`: numbers of nodes that coincide with no other node.

## Main results

* `BindingResult.boundNode?_eq`, `BindingResult.scope?_eq`: a node alone is found by its number.
* `BindingResult.isSome_boundNode?_iff`: what is found for a node is a record of one that coincides with it.
-/

set_option autoImplicit false

namespace QuerySemantics

open Binding

/-! ## Nodes that coincide with no other -/

/-- **Alone**: no other node coincides with the node of a number. -/
def SyntaxTree.Alone (tree : SyntaxTree) (index : Nat) : Prop :=
  ∀ other, tree.Same index other → other = index

namespace SyntaxTree

variable {tree : SyntaxTree} {node : Located} {info : NodeInfo} {index : Nat}

/-- Distinct nodes are alone. -/
theorem Distinct.alone (h : tree.Distinct) (index : Nat) : tree.Alone index :=
  fun _ hsame => (h.same_iff.1 hsame).symm

/-- A node with text is alone. -/
theorem alone_of_text (hnode : node ∈ tree.root.nodes) (hinfo : node.info? = some info)
    (htext : info.start < info.stop) : tree.Alone info.index := by
  obtain ⟨own, children, rfl⟩ := Located.exists_info_of_mem_nodes hnode
  cases hinfo
  exact fun other hsame => (hsame.eq_of_text (node?_eq_some_iff.2 ⟨hnode, rfl⟩) htext).symm

/-- The result of binding a tree knows which of its nodes coincide. -/
theorem coincidences_bind {options : Options} {catalog : Catalog} {next : SymbolId} (tree : SyntaxTree) :
    (tree.bind options catalog next).1.coincidences = tree.coincidences :=
  rfl

/-- The root is alone. -/
theorem alone_zero : tree.Alone 0 :=
  fun _ hsame => hsame.eq_zero

end SyntaxTree

/-! ## Looking up -/

namespace BindingResult

/-- The records and scopes of a result, as a log. -/
def log (result : BindingResult) : Log :=
  ⟨result.records, result.scopes⟩

/-- What the latest record of a number says. -/
def latest? (result : BindingResult) (index : Nat) : Option Bound.Node :=
  (result.log.record? index).map Record.node

variable {tree : SyntaxTree} {result : BindingResult} {index other : Nat}

/-- A result of a tree takes those nodes for one that coincide in the tree. -/
theorem isSame_iff (h : result.coincidences = tree.coincidences) :
    result.isSame index other = true ↔ tree.Same index other := by
  rw [isSame, h, SyntaxTree.Same, Bool.or_eq_true, beq_iff_eq, List.contains_iff_mem]

/-- A node alone is the same as itself only. -/
theorem isSame_of_alone (h : result.coincidences = tree.coincidences) (halone : tree.Alone index)
    (number : Nat) : result.isSame number index = (number == index) := by
  rw [Bool.eq_iff_iff, isSame_iff h, beq_iff_eq]
  exact ⟨fun hnumber => halone _ hnumber.symm, fun heq => heq ▸ .inl rfl⟩

/-- **A node alone** is bound to what its latest record says. -/
theorem boundNode?_eq (h : result.coincidences = tree.coincidences) (halone : tree.Alone index) :
    result.boundNode? index = result.latest? index := by
  unfold boundNode?
  simp only [isSame_of_alone h halone]
  rfl

/-- **A number that was recorded once** has its record as the latest one. -/
theorem latest?_of_nodup (h : (result.records.map (·.info.index)).Nodup) {record : Record}
    (hrecord : record ∈ result.records) : result.latest? record.info.index = some record.node := by
  obtain ⟨found, hfound⟩ : ∃ found, result.log.record? record.info.index = some found :=
    Option.isSome_iff_exists.1 (List.find?_isSome.2 ⟨record, hrecord, beq_self_eq_true _⟩)
  have hindex : found.info.index = record.info.index := by simpa using List.find?_some hfound
  obtain rfl := List.inj_on_of_nodup_map h (List.mem_of_find?_eq_some hfound) hrecord hindex
  rw [latest?, hfound, Option.map_some]

/-- **A node alone** enters the scope that it entered last. -/
theorem scope?_eq (h : result.coincidences = tree.coincidences) (halone : tree.Alone index) :
    result.scope? index = result.log.scope? index := by
  unfold scope?
  simp only [isSame_of_alone h halone]
  rfl

/-- **What is found for a node** is a record of a node that coincides with it. -/
theorem isSome_boundNode?_iff (h : result.coincidences = tree.coincidences) :
    (result.boundNode? index).isSome = true ↔
      ∃ record ∈ result.records, tree.Same index record.info.index := by
  simp only [boundNode?, Option.isSome_map, List.find?_isSome, isSame_iff h]
  exact ⟨fun ⟨record, hrecord, hsame⟩ => ⟨record, hrecord, hsame.symm⟩,
    fun ⟨record, hrecord, hsame⟩ => ⟨record, hrecord, hsame.symm⟩⟩

end BindingResult

end QuerySemantics
