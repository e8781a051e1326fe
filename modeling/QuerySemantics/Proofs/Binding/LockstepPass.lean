import QuerySemantics.Proofs.Ast.AlikeReading
import QuerySemantics.Proofs.Binding.LockstepWalk
import QuerySemantics.Proofs.Model.Main

/-!
# Whole passes in lockstep

A pass over a tree and one over a tree that is alike go in lockstep from the root on. Where the second
one works in the same scopes and keeps as many reports, both know the same of each node.

## Main definitions

* `BindingResult.Alike`: results that differ in places only.
* `SyntaxTree.core?`: the node inside the parentheses that a node is.
* `Coupling.elsewhere`: the coupling of passes that may report at different places.

## Main results

* `Binding.piece_lockstep`, `Binding.pass_lockstep`: passes over alike trees.
* `BindingResult.alike_of_lockstep`: passes in lockstep have results that differ in places only.
* `BindingResult.Alike.latest?_eq`: the latest records of corresponding nodes say the same.
* `SyntaxTree.core?_related`, `SemanticModel.boundNode?_of_distinct`: from results to models.
-/

set_option autoImplicit false

namespace QuerySemantics

namespace Binding

variable {c : Coupling} {scope : Scope}

/-! ## Walks from the root -/

/-- A walk over alike pieces. -/
theorem piece_lockstep {it it' : Piece} (h : it.Alike c.toLikeness it') :
    Lockstep c scope (piece it) (piece it') id := by
  have hquery : ∀ {it it' : Ast.Query}, it.Alike c.toLikeness it' →
      Lockstep c scope (query it >>= fun _ => pure ()) (query it' >>= fun _ => pure ()) id :=
    fun h => (query_lockstep _ h).bindView fun _ => .pure _
  have hexpr : ∀ {it it' : Ast.Expr}, it.Alike c.toLikeness it' →
      Lockstep c scope (expr it >>= fun _ => pure ()) (expr it' >>= fun _ => pure ()) id :=
    fun h => (expr_lockstep _ h).bind fun _ => .pure _
  cases h with
  | @unit it it' hinfo hunit hexpression =>
    obtain ⟨info, body, expression⟩ := it
    obtain ⟨info', body', expression'⟩ := it'
    cases hunit with
    | some h => exact hquery h
    | none =>
      cases hexpression with
      | some h => exact hexpr h
      | none => exact .pure _
  | query h => exact hquery h
  | expr h => exact hexpr h
  | _ => exact .pure _

/-- **A pass over alike trees.** -/
theorem pass_lockstep {part part' : Located} (h : part.Alike c.toLikeness part') :
    Lockstep c scope (pass part) (pass part') id := by
  have hpiece := h.piece
  cases h with
  | token h => exact .pure _
  | node hinfo hqualifies hchildren =>
    exact (Lockstep.recordScope hinfo).bind fun _ => piece_lockstep hpiece

/-! ## Passes at other places -/

/-- Records that corresponding nodes are bound to the same. -/
structure Record.Alike (like : Likeness) (record record' : Record) : Prop where
  info : like.info record.info record'.info
  node : record'.node = record.node
  scope : record'.scope = record.scope

/-- As many reports are kept wherever they are about. -/
theorem Options.problems_keep (options : Options) {earlier earlier' : List Diagnostic}
    {span span' : Span} (problem : Problem)
    (h : earlier'.map Diagnostic.problem = earlier.map Diagnostic.problem) :
    (options.keep earlier' ⟨span', problem⟩).map Diagnostic.problem =
      (options.keep earlier ⟨span, problem⟩).map Diagnostic.problem := by
  have hlength : earlier'.length = earlier.length := by
    simpa using congrArg List.length h
  unfold keep
  rw [hlength]
  split
  · rw [List.map_append, List.map_append, h]
    rfl
  · exact h

/-- **The coupling of passes at other places**: in the same scopes, with the same reports but for their
spans. -/
def Coupling.elsewhere (like : Likeness) (options : Options) : Coupling :=
  .still like options (fun _ _ => True) (List.Forall₂ (Record.Alike like))
    (List.Forall₂ fun entry entry' => like.info entry.1 entry'.1 ∧ entry'.2 = entry.2)
    (fun reported reported' => reported'.map Diagnostic.problem = reported.map Diagnostic.problem)
    (fun _ => trivial) (fun _ => trivial)
    (fun _ _ hinfo hrecords => .cons ⟨hinfo, rfl, rfl⟩ hrecords)
    (fun _ hinfo hscopes => .cons ⟨hinfo, rfl⟩ hscopes)
    (fun problem _ h => options.problems_keep problem h)

end Binding

open Binding

/-! ## Results -/

/-- **Alike results**: corresponding nodes are bound to the same and enter the same scopes, and the same
problems are reported. -/
structure BindingResult.Alike (like : Likeness) (result result' : BindingResult) : Prop where
  rootScope : result'.rootScope = result.rootScope
  records : List.Forall₂ (Record.Alike like) result.records result'.records
  scopes : List.Forall₂ (fun entry entry' => like.info entry.1 entry'.1 ∧ entry'.2 = entry.2)
    result.scopes result'.scopes
  problems : result'.diagnostics.map Diagnostic.problem = result.diagnostics.map Diagnostic.problem
  members : result'.members = result.members

/-- **Passes in lockstep have alike results**, and take the same identities. -/
theorem BindingResult.alike_of_lockstep {like : Likeness} {options : Options} {tree tree' : SyntaxTree}
    (h : ∀ scope, Lockstep (.elsewhere like options) scope (pass tree.root) (pass tree'.root) id)
    (catalog : Catalog) (next : SymbolId) :
    (tree.bind options catalog next).1.Alike like (tree'.bind options catalog next).1 ∧
      (tree'.bind options catalog next).2 = (tree.bind options catalog next).2 := by
  obtain ⟨-, hcoupled⟩ := h ⟨next, catalog, []⟩ (.start (next + 1)) ⟨fun _ _ => trivial, False.elim⟩
  obtain ⟨-, hcoupled⟩ := hcoupled (.start (next + 1)) ⟨rfl, rfl, .nil, .nil, rfl⟩
  exact ⟨⟨rfl, hcoupled.records, hcoupled.scopes, hcoupled.diagnostics, hcoupled.members⟩,
    hcoupled.next⟩

/-- **The latest records** of corresponding nodes say the same. -/
theorem BindingResult.Alike.latest?_eq {like : Likeness} {result result' : BindingResult}
    (h : result.Alike like result') (hfaithful : like.Faithful) {info info' : NodeInfo}
    (hinfo : like.info info info') : result'.latest? info'.index = result.latest? info.index := by
  have hfound : Option.Rel (Record.Alike like)
      (result.records.find? (·.info.index == info.index))
      (result'.records.find? (·.info.index == info'.index)) :=
    h.records.find? fun record record' hrecord => by
      rw [Bool.eq_iff_iff, beq_iff_eq, beq_iff_eq]
      exact hfaithful _ _ _ _ hinfo hrecord.info
  exact hfound.map_eq fun _ _ hrecord => hrecord.node

/-! ## Models -/

/-- The number of the node inside the parentheses that the node with a number is. -/
def SyntaxTree.core? (tree : SyntaxTree) (index : Nat) : Option Nat :=
  (tree.node? index).bind fun part => part.info?.map fun info => (part.coreInfo info).index

/-- **Nodes whose cores correspond** are related, if what is looked up for corresponding nodes is. -/
theorem SyntaxTree.core?_related {tree tree' : SyntaxTree} {like : Likeness}
    (related : Option Bound.Node → Option Bound.Node → Prop) (hnone : related none none)
    {lookup lookup' : Nat → Option Bound.Node}
    (h : ∀ info info', like.info info info' → related (lookup info.index) (lookup' info'.index))
    {index index' : Nat}
    (hnode : Option.Rel (fun part part' => ∀ info info', part.info? = some info →
        part'.info? = some info' → like.info (part.coreInfo info) (part'.coreInfo info'))
      (tree.node? index) (tree'.node? index')) :
    related ((tree.core? index).bind lookup) ((tree'.core? index').bind lookup') := by
  unfold core?
  cases hpart : tree.node? index with
  | none =>
    rw [hpart] at hnode
    generalize tree'.node? index' = found at hnode
    cases hnode
    exact hnone
  | some part =>
    obtain ⟨part', hpart', hcore⟩ := hnode.exists_right hpart
    obtain ⟨info, -, hinfo, -⟩ := exists_info_of_node? hpart
    obtain ⟨info', -, hinfo', -⟩ := exists_info_of_node? hpart'
    rw [hpart', Option.bind_some, Option.bind_some, hinfo, hinfo']
    exact h _ _ (hcore _ _ hinfo hinfo')

namespace SemanticModel

/-- A model knows a node by its core. -/
theorem boundNode?_eq_core? (analysis : Analysis) (next : SymbolId) (index : Nat) :
    (analysis.model next).1.boundNode? ⟨analysis.tree.id, index⟩ =
      (analysis.tree.core? index).bind (analysis.model next).1.result.boundNode? := by
  cases hpart : analysis.tree.node? index with
  | none =>
    rw [SyntaxTree.core?, hpart, boundNode?]
    change (if _ then (analysis.tree.node? index).bind _ else none) = _
    rw [hpart]
    exact ite_self _
  | some part =>
    obtain ⟨info, hmem, hinfo, rfl⟩ := SyntaxTree.exists_info_of_node? hpart
    rw [SyntaxTree.core?, hpart, Option.bind_some, hinfo]
    exact boundNode?_ref hmem hinfo

/-- **Where no nodes coincide**, a model knows a node by the latest record of its core. -/
theorem boundNode?_of_distinct (analysis : Analysis) (h : analysis.tree.Distinct) (next : SymbolId)
    (index : Nat) : (analysis.model next).1.boundNode? ⟨analysis.tree.id, index⟩ =
      (analysis.tree.core? index).bind (analysis.model next).1.result.latest? := by
  rw [boundNode?_eq_core?]
  exact congrArg _ (funext fun number => BindingResult.boundNode?_eq rfl (h.alone number))

end SemanticModel

end QuerySemantics
