import QuerySemantics.Proofs.Binding.LockstepWalk
import QuerySemantics.Proofs.Tree.Shift

/-!
# Binding shifted trees

Binding a query that stands elsewhere, in the same scope and with the same free identities, gives the
same query. Only what the log says about places is moved.

## Main definitions

* `Binding.Record.shift`: a record moved.
* `Binding.Coupling.shift`: the coupling of a pass with one over the same tree moved.
* `Binding.Pass.Shifted`: what was added to one log was added to the other as well, but moved.

## Main results

* `Binding.query_shift`, `Binding.expr_shift`: binding a query and an expression elsewhere.
-/

set_option autoImplicit false

namespace QuerySemantics

namespace Binding

/-- A record moved by `count` numbers and `offset` bytes. -/
def Record.shift (count offset : Nat) (record : Record) : Record :=
  { record with info := record.info.shift count offset }

/-- **Shifted additions**: since the states `before` and `before'`, the same was added to both logs, but
to the second it was added moved. -/
structure Pass.Shifted (count offset : Nat) (before before' after after' : Pass) : Prop where
  next : after'.next = after.next
  members : after'.members = after.members
  records : ∃ new, after.records = new ++ before.records ∧
    after'.records = new.map (Record.shift count offset) ++ before'.records
  scopes : ∃ new, after.scopes = new ++ before.scopes ∧
    after'.scopes = new.map (fun entry => (entry.1.shift count offset, entry.2)) ++ before'.scopes
  diagnostics : after'.diagnostics = after.diagnostics.map (Diagnostic.shift offset)

/-- As many moved diagnostics are kept as others. -/
theorem Options.keep_shift (options : Options) (offset : Nat) (earlier : List Diagnostic)
    (span : Span) (problem : Problem) :
    options.keep (earlier.map (Diagnostic.shift offset)) ⟨span.shift offset, problem⟩ =
      (options.keep earlier ⟨span, problem⟩).map (Diagnostic.shift offset) := by
  unfold keep
  rw [List.length_map]
  split
  · rw [List.map_append]
    rfl
  · rfl

/-- **The coupling of a pass with one over the same tree moved.** -/
def Coupling.shift (options : Options) (count offset : Nat) (before before' : Pass) : Coupling :=
  .still (.shift count offset) options (fun span span' => span' = span.shift offset)
    (fun records records' => ∃ new, records = new ++ before.records ∧
      records' = new.map (Record.shift count offset) ++ before'.records)
    (fun scopes scopes' => ∃ new, scopes = new ++ before.scopes ∧
      scopes' = new.map (fun entry => (entry.1.shift count offset, entry.2)) ++ before'.scopes)
    (fun reported reported' => reported' = reported.map (Diagnostic.shift offset))
    (fun h => NodeInfo.span_of_shift h) (fun h => Token.span_of_shift h)
    (by
      rintro info _ _ _ node scope hinfo ⟨new, rfl, rfl⟩
      exact ⟨⟨info, node, scope⟩ :: new, rfl, by rw [hinfo]; rfl⟩)
    (by
      rintro info _ _ _ scope hinfo ⟨new, rfl, rfl⟩
      exact ⟨(info, scope) :: new, rfl, by rw [hinfo]; rfl⟩)
    (fun problem hspan hreported => by rw [hspan, hreported, Options.keep_shift])

variable {env : Env} {count offset : Nat} {before before' : Pass}

/-- Two passes in lockstep add the same to their logs, but for places. -/
theorem Lockstep.shifted {α : Type} {body body' : BindM α} {view : α → α}
    (h : Lockstep (.shift env.options count offset before before') env.scope body body' view)
    (hnext : before'.next = before.next) (hmembers : before'.members = before.members)
    (hdiagnostics : before'.diagnostics = before.diagnostics.map (Diagnostic.shift offset)) :
    (body' env before').1 = view (body env before).1 ∧
      Pass.Shifted count offset before before' (body env before).2 (body' env before').2 := by
  obtain ⟨-, hcoupled⟩ := h before ⟨fun _ _ => trivial, False.elim⟩
  obtain ⟨hvalue, hcoupled⟩ := hcoupled before'
    ⟨hnext, hmembers, ⟨[], rfl, rfl⟩, ⟨[], rfl, rfl⟩, hdiagnostics⟩
  exact ⟨hvalue, hcoupled.next, hcoupled.members, hcoupled.records, hcoupled.scopes,
    hcoupled.diagnostics⟩

/-- **Binding a query elsewhere.** -/
theorem query_shift {it it' : Ast.Query} (h : it.Alike (Likeness.shift count offset) it')
    (hnext : before'.next = before.next) (hmembers : before'.members = before.members)
    (hdiagnostics : before'.diagnostics = before.diagnostics.map (Diagnostic.shift offset)) :
    (query it' env before').1 = (query it env before).1 ∧
      Pass.Shifted count offset before before' (query it env before).2 (query it' env before').2 :=
  (query_lockstep it h).shifted hnext hmembers hdiagnostics

/-- **Binding an expression elsewhere.** -/
theorem expr_shift {it it' : Ast.Expr} (h : it.Alike (Likeness.shift count offset) it')
    (hnext : before'.next = before.next) (hmembers : before'.members = before.members)
    (hdiagnostics : before'.diagnostics = before.diagnostics.map (Diagnostic.shift offset)) :
    (expr it' env before').1 = (expr it env before).1 ∧
      Pass.Shifted count offset before before' (expr it env before).2 (expr it' env before').2 :=
  (expr_lockstep it h).shifted hnext hmembers hdiagnostics

end Binding

end QuerySemantics
