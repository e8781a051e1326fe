import QuerySemantics.Proofs.Binding.ParallelForms
import QuerySemantics.Proofs.Binding.LockstepPass
import QuerySemantics.Proofs.Catalog.Reliable

/-!
# Cross joins

Two table references that follow each other in a `FROM` clause introduce the same instances as their cross
join: neither of the two sees the other, and a cross join has no condition. The join takes an identity of
its own, for a scope that nobody looks at, so that all symbols behind it have other identities.

## Main definitions

* `Binding.instancesOf`: the instances that table references introduce.
* `Binding.PassComparison.beside`: how passes are compared the second of which records one more
  node.
* `Binding.crosswise`: what a cross join does behind both sides.

## Main results

* `Binding.instancesOf_cross`: two table references, and their cross join.
* `Ast.FromClause.InParallel.cross`: `FROM` clauses with the one and with the other.
-/

set_option autoImplicit false

namespace QuerySemantics

namespace Binding

/-! ## Instances -/

/-- **The instances that table references introduce.** -/
def instancesOf (items : List Ast.TableRef) : BindM (List TableInstance) := do
  return (← tables items).flatMap Bound.TableRef.instances

/-- The instances of a list are those of its first table reference, then those of the rest. -/
theorem instancesOf_cons (it : Ast.TableRef) (rest : List Ast.TableRef) :
    instancesOf (it :: rest) = (do
      let first ← table it
      return first.instances ++ (← instancesOf rest)) := by
  rw [instancesOf, tables]
  rfl

/-- The instances of a `FROM` clause are those of its table references. -/
theorem origin_mk (info : NodeInfo) (items : List Ast.TableRef) :
    origin (some (.mk info items)) = instancesOf items := by
  rw [origin, fromClause, instancesOf]

/-! ## One more node -/

/-- **Records beside each other**: of corresponding nodes, which are bound to twins. -/
structure Record.Beside (like : Likeness) (typed : TypedCatalog) (pairing : Pairing)
    (record record' : Record) : Prop where
  info : like.info record.info record'.info
  node : Twin typed pairing record.node record'.node

/-- **Comparing passes the second of which records one more node**, with the number `place`. -/
def PassComparison.beside {like : Likeness} {catalog : Catalog} (hcatalog : catalog.Reliable)
    (options : Options) {place : Nat}
    (hplace : ∀ {info info' : NodeInfo}, like.info info info' → info'.index ≠ place) : PassComparison where
  toLikeness := like
  typed := catalog.anyTyped
  options := options
  span _ _ := True
  members := MemberCache.Alike
  records pairing records records' := List.Forall₂ (Record.Beside like catalog.anyTyped pairing) records
    (records'.filter (·.info.index != place))
  diagnostics reported reported' :=
    reported'.map Diagnostic.problem = reported.map Diagnostic.problem
  span_info _ := trivial
  span_token _ := trivial
  askMethods pairing {_ _ type} next next' hmembers _ :=
    hcatalog.methods_twin pairing hmembers type next next'
  askProperties pairing {_ _ type} next next' hmembers _ :=
    hcatalog.properties_twin pairing hmembers type next next'
  records_mono hle h := h.imp fun _ _ hrecord => ⟨hrecord.info, Twinned.mono hle hrecord.node⟩
  records_cons _ _ hinfo hnode h := by
    rw [List.filter_cons, if_pos (bne_iff_ne.2 (hplace hinfo))]
    exact .cons ⟨hinfo, hnode⟩ h
  diagnostics_keep problem _ h := options.problems_keep problem h

variable {like : Likeness} {catalog : Catalog} {hcatalog : catalog.Reliable} {options : Options}
  {place : Nat} {hplace : ∀ {info info' : NodeInfo}, like.info info info' → info'.index ≠ place}
  {pairing : Pairing}

/-! ## Cross joins -/

/-- **Joining crosswise**, once both sides are bound. -/
def crosswise (info : NodeInfo) (left right : Bound.TableRef) : BindM Bound.TableRef := do
  let both ← childScope (.tables (left.instances ++ right.instances))
  within both (recordScope info)
  recordTable info (.joined left .cross right none)

/-- **A cross join** binds both sides in the same scope. -/
theorem table_cross (info : NodeInfo) (left right : Ast.TableRef) :
    table (.joined info (some left) .cross (some right) none) = (do
      let left ← table left
      let right ← table right
      crosswise info left right) := by
  rw [table, optionalTable, optionalTable, conditionIfAny]
  rfl

/-- Joining crosswise in the second pass only leaves the two passes beside each other. -/
theorem Abreast.crosswise {info : NodeInfo} {pass pass' : Pass}
    (h : Abreast (.beside hcatalog options hplace) pairing pass pass') (hinfo : info.index = place)
    (left right : Bound.TableRef) (env : Env) :
    Abreast (.beside hcatalog options hplace) pairing pass
      (Binding.crosswise info left right env pass').2 where
  bounded := h.bounded.later (Nat.le_refl _) (Nat.le_succ _)
  members := h.members
  records := by
    have hrecords : ((Binding.crosswise info left right env pass').2.records.filter
        (·.info.index != place)) = pass'.records.filter (·.info.index != place) :=
      List.filter_cons_of_neg (by rw [bne_iff_ne, hinfo]; exact fun h => h rfl)
    change List.Forall₂ _ _ (List.filter _ _)
    rw [hrecords]
    exact h.records
  diagnostics := h.diagnostics

/-- **Two table references and their cross join** introduce the same instances. -/
theorem instancesOf_cross {info : NodeInfo} {left left' right right' : Ast.TableRef}
    {rest rest' : List Ast.TableRef} (hinfo : info.index = place)
    (hleft : left.InParallel (.beside hcatalog options hplace) left')
    (hright : right.InParallel (.beside hcatalog options hplace) right')
    (hrest : ∀ pairing, Parallel (.beside hcatalog options hplace) pairing (instancesOf rest)
      (instancesOf rest')) :
    Parallel (.beside hcatalog options hplace) pairing (instancesOf (left :: right :: rest))
      (instancesOf (.joined info (some left') .cross (some right') none :: rest')) := by
  rw [instancesOf_cons, instancesOf_cons, instancesOf_cons, table_cross]
  simp only [bind_assoc]
  refine (hleft.parallel pairing).bind fun _ _ first first' hfirst => ?_
  refine (hright.parallel _).bind fun pairing' hle second second' hsecond => ?_
  -- only the second pass joins both sides
  intro scope scope' hscope pass pass' habreast
  have hbehind : Parallel (.beside hcatalog options hplace) pairing'
      (do
        let others ← instancesOf rest
        return first.instances ++ (second.instances ++ others)) (do
        let others ← instancesOf rest'
        return first'.instances ++ second'.instances ++ others) := by
    refine (hrest pairing').bind fun _ hle' _ _ hothers => .pure ?_
    rw [List.append_assoc]
    exact List.rel_append (Twinned.mono (hle.trans hle') (Bound.TableRef.Twins.instances hfirst))
      (List.rel_append (Twinned.mono hle' (Bound.TableRef.Twins.instances hsecond)) hothers)
  exact hbehind scope scope' hscope pass _ (habreast.crosswise hinfo first' second' _)

end Binding

/-! ## `FROM` clauses -/

open Binding

/-- **`FROM` clauses with two adjacent entries and with their cross join** are bound in parallel. -/
theorem Ast.FromClause.InParallel.cross {like : Likeness} {catalog : Catalog}
    {hcatalog : catalog.Reliable} {options : Options} {place : Nat}
    {hplace : ∀ {info info' : NodeInfo}, like.info info info' → info'.index ≠ place}
    {own own' info : NodeInfo} {left left' right right' : Ast.TableRef}
    {front front' back back' : List Ast.TableRef} (hinfo : info.index = place)
    (hfront : List.Forall₂ (Ast.TableRef.InParallel (.beside hcatalog options hplace)) front front')
    (hleft : left.InParallel (.beside hcatalog options hplace) left')
    (hright : right.InParallel (.beside hcatalog options hplace) right')
    (hback : List.Forall₂ (Ast.TableRef.InParallel (.beside hcatalog options hplace)) back back') :
    (Ast.FromClause.mk own (front ++ left :: right :: back)).InParallel
      (.beside hcatalog options hplace)
      (.mk own' (front' ++ .joined info (some left') .cross (some right') none :: back')) := by
  intro pairing
  rw [origin_mk, origin_mk]
  induction hfront generalizing pairing with
  | nil =>
    exact instancesOf_cross hinfo hleft hright fun pairing' => (tables_parallel hback).bind
      fun _ _ _ _ h => .pure (List.rel_flatMap h fun {_ _} h => Bound.TableRef.Twins.instances h)
  | cons hfirst _ ih =>
    rw [List.cons_append, List.cons_append, instancesOf_cons, instancesOf_cons]
    exact (hfirst.parallel pairing).bind fun _ _ _ _ hfirst => (ih _).bind fun _ hle _ _ hothers =>
      .pure (List.rel_append (Twinned.mono hle (Bound.TableRef.Twins.instances hfirst)) hothers)

end QuerySemantics
