import QuerySemantics.Proofs.Binding.Hygiene
import QuerySemantics.Proofs.Binding.LockstepPass

/-!
# Limits for diagnostics

A limit for diagnostics is no part of what a query means: it cuts the list of diagnostics off, and
decides nothing else.

## Main definitions

* `BindingResult.truncate`: a result with its first diagnostics only.

## Main results

* `SyntaxTree.bindAt_truncate`: binding with a limit cuts the diagnostics off.
-/

set_option autoImplicit false

namespace QuerySemantics

open Binding

/-- **Truncation**: the result with its first diagnostics only. -/
def BindingResult.truncate (limit : Nat) (result : BindingResult) : BindingResult :=
  { result with diagnostics := result.diagnostics.take limit }

namespace Binding

/-- Options without a limit for diagnostics. -/
def Options.unlimited (caseSensitive : Bool) : Options :=
  ⟨caseSensitive, none⟩

/-- Options with a limit for diagnostics. -/
def Options.limited (caseSensitive : Bool) (limit : Nat) : Options :=
  ⟨caseSensitive, some limit⟩

/-- A report behind the first few is kept if there is room for one more. -/
theorem Options.keep_take (caseSensitive : Bool) (limit : Nat) (earlier : List Diagnostic)
    (it : Diagnostic) : (limited caseSensitive limit).keep (earlier.take limit) it =
      ((unlimited caseSensitive).keep earlier it).take limit := by
  have hunlimited : (unlimited caseSensitive).keep earlier it = earlier ++ [it] :=
    keep_unlimited rfl earlier it
  rw [hunlimited]
  unfold keep
  rcases Nat.lt_or_ge earlier.length limit with hroom | hfull
  · -- all earlier ones are kept, and this one is too
    have hall : earlier.take limit = earlier := List.take_of_length_le (Nat.le_of_lt hroom)
    have hmore : (earlier ++ [it]).take limit = earlier ++ [it] :=
      List.take_of_length_le (by simp; omega)
    rw [hall, hmore, if_pos (by simpa [limited] using hroom)]
  · have hlength : (earlier.take limit).length = limit := List.length_take_of_le hfull
    rw [List.take_append_of_le_length hfull, if_neg (by simp [limited, hlength])]

/-- **The coupling of a pass without a limit and one with a limit** over the same tree. -/
def Coupling.limited (root : Located) (caseSensitive : Bool) (limit : Nat) : Coupling where
  toLikeness := .refl root
  options := .unlimited caseSensitive
  options' := .limited caseSensitive limit
  lift scope := scope
  span span span' := span' = span
  records records records' := records' = records
  scopes scopes scopes' := scopes' = scopes
  diagnostics reported reported' := reported' = reported.take limit
  silent := False
  admits _ _ := True
  cased_eq := rfl
  span_info := fun h => congrArg NodeInfo.span h
  span_token := fun h => congrArg Token.span h
  catalog_lift _ := rfl
  lift_push _ _ _ := rfl
  commonTable?_lift _ _ := rfl
  resolveValue_lift _ _ := .inl rfl
  resolveInstance_lift _ _ := fun _ => .inl rfl
  records_cons := fun _ _ hinfo hrecords => by rw [hinfo, hrecords]
  scopes_cons := fun _ hinfo hscopes => by rw [hinfo, hscopes]
  diagnostics_keep := fun problem hspan hreported => by
    rw [hspan, hreported, Options.keep_take]
  limit := False.elim

end Binding

/-- **The limit only truncates.** Binding a node of a tree with a limit for diagnostics gives what
binding it without one gives, with the first diagnostics only: the same bound nodes, scopes and
members, from the same identities.

**Proof sketch.** The two passes go in lockstep. A report is the only step that looks at the limit, and
no step looks at what was reported. -/
theorem SyntaxTree.bindAt_truncate (tree : SyntaxTree) (node : Located) (caseSensitive : Bool)
    (limit : Nat) (catalog : Catalog) (next : SymbolId) :
    let all := tree.bindAt node (.unlimited caseSensitive) catalog next
    tree.bindAt node (.limited caseSensitive limit) catalog next = (all.1.truncate limit, all.2) := by
  have halike : node.Alike (Coupling.limited node caseSensitive limit).toLikeness node :=
    Located.alike_refl node fun _ hnode => hnode
  have hlockstep : Lockstep (.limited node caseSensitive limit) ⟨next, catalog, []⟩ (pass node)
      (pass node) _ := pass_lockstep halike
  obtain ⟨-, hcoupled⟩ := hlockstep (.start (next + 1)) ⟨fun _ _ => trivial, False.elim⟩
  obtain ⟨-, hnext, hmembers, hrecords, hscopes, hdiagnostics⟩ :=
    hcoupled (.start (next + 1)) ⟨rfl, rfl, rfl, rfl, List.take_nil.symm⟩
  refine Prod.ext ?_ hnext
  change BindingResult.mk _ _ _ _ _ _ _ = BindingResult.mk _ _ _ _ _ _ _
  congr 1

end QuerySemantics
