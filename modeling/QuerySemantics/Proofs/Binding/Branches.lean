import Mathlib.Data.List.Perm.Basic
import QuerySemantics.Proofs.Binding.Added
import QuerySemantics.Proofs.Value.Order

/-!
# Branches of a case

The type of a `CASE` is found by going through its branches and joining the type so far with that of the
next one. What comes out, if anything does, is the greatest of the types. But it comes out only if the
types that are met first are comparable, so that the order of the branches decides whether they are taken
to be compatible.

## Main definitions

* `Binding.branches`: the results of the branches of a case.
* `Binding.Rearranged`: cases whose results change places.

## Main results

* `Binding.greatest_of_mergeBranches`: the type of branches is the greatest of their known types.
* `Binding.caseOf_rearranged`: what a case depends on if its results change places.
* `Binding.caseOf_order_matters`: three branches that are compatible in one order only.
-/

set_option autoImplicit false

namespace QuerySemantics

open SqlType (Greatest Comparable)

namespace Binding

variable {hosts : HostType → Prop} {type result : SqlType} {types : List SqlType}

/-! ## Merging types -/

/-- **What comes out of merging types** is the greatest of them.

**Proof sketch.** The type so far is the greatest of those that were met. By induction on the types that
are left: the greater of the type so far and the next one is the greatest with that. -/
theorem greatest_of_mergeFrom (h : HostType.Hierarchy hosts) {met : List SqlType}
    (hmet : ∀ branch ∈ met, branch.Over hosts) (htypes : ∀ branch ∈ types, branch.Over hosts)
    (htype : Greatest met type) (hok : mergeFrom type types = .ok result) :
    Greatest (met ++ types) result := by
  induction types generalizing met type with
  | nil =>
    cases hok
    rwa [List.append_nil]
  | cons branch rest ih =>
    obtain ⟨hbranch, hrest⟩ := List.forall_mem_cons.1 htypes
    have hsingle : ∀ other ∈ [branch], other.Over hosts := List.forall_mem_singleton.2 hbranch
    rw [mergeFrom] at hok
    split at hok
    · rename_i common hcommon
      have hnext : Greatest (met ++ [branch]) common :=
        htype.append h hmet hsingle (SqlType.greatest_singleton branch) hcommon
      have hall := ih (List.forall_mem_append.2 ⟨hmet, hsingle⟩) hrest hnext hok
      rwa [List.append_assoc] at hall
    · cases hok

/-- Merging succeeds if it begins with the greatest type. -/
theorem mergeFrom_of_greatest (h : HostType.Hierarchy hosts) (htype : type.Over hosts)
    (htypes : ∀ branch ∈ types, branch.Over hosts)
    (hgreatest : ∀ branch ∈ types, branch.convertsTo type = true) :
    mergeFrom type types = .ok type := by
  induction types with
  | nil => rfl
  | cons branch rest ih =>
    obtain ⟨hbranch, hrest⟩ := List.forall_mem_cons.1 htypes
    obtain ⟨hbelow, hbelows⟩ := List.forall_mem_cons.1 hgreatest
    have hcommon : type.common? branch = some type :=
      (SqlType.Over.common?_eq_some_iff h htype hbranch).2 (.inr ⟨rfl, hbelow⟩)
    rw [mergeFrom, hcommon]
    exact ih hrest hbelows

/-- Merging succeeds, in whatever order, if any two of the types are comparable. -/
theorem mergeFrom_of_comparable (hcomparable : Comparable (type :: types)) :
    ∃ result, mergeFrom type types = .ok result := by
  induction types generalizing type with
  | nil => exact ⟨type, rfl⟩
  | cons branch rest ih =>
    have hsome : (type.common? branch).isSome = true :=
      SqlType.isSome_common?_iff.2 (hcomparable type (by simp) branch (by simp))
    obtain ⟨common, hcommon⟩ := Option.isSome_iff_exists.1 hsome
    rw [mergeFrom, hcommon]
    apply ih
    have hsub : ∀ other ∈ common :: rest, other ∈ type :: branch :: rest := by
      intro other hother
      rcases List.mem_cons.1 hother with rfl | hother
      · rcases SqlType.common?_eq hcommon with rfl | rfl <;> simp
      · exact List.mem_cons_of_mem _ (List.mem_cons_of_mem _ hother)
    intro a ha b hb
    exact hcomparable a (hsub a ha) b (hsub b hb)

/-! ## Types of branches -/

/-- What is known of the types of branches. -/
def knownTypes (types : List SqlType) : List SqlType :=
  types.filter (!·.isUnknown)

/-- Where all types are known, none is left out. -/
theorem knownTypes_eq_self (h : ∀ type ∈ types, type.Known) : knownTypes types = types :=
  List.filter_eq_self.2 fun type htype => by simp [SqlType.isUnknown_eq_false_iff.2 (h type htype)]

/-- **The type of branches** is the greatest of their known types, if there are any. -/
theorem greatest_of_mergeBranches (h : HostType.Hierarchy hosts)
    (hover : ∀ type ∈ knownTypes types, type.Over hosts) (hne : knownTypes types ≠ [])
    (hok : mergeBranches types = .ok result) : Greatest (knownTypes types) result := by
  unfold mergeBranches at hok
  unfold knownTypes at hover hne ⊢
  split at hok
  · rename_i hfilter
    exact absurd hfilter hne
  · rename_i first rest hfilter
    rw [hfilter] at hover ⊢
    obtain ⟨hfirst, hrest⟩ := List.forall_mem_cons.1 hover
    exact greatest_of_mergeFrom h (List.forall_mem_singleton.2 hfirst) hrest
      (SqlType.greatest_singleton first) hok

/-- Branches of which no type is known have a type that is not known. -/
theorem mergeBranches_of_unknown (h : knownTypes types = []) : mergeBranches types = .ok .unknown := by
  unfold mergeBranches
  unfold knownTypes at h
  rw [h]

/-- Known types are merged as they are. -/
theorem mergeBranches_cons (h : ∀ branch ∈ type :: types, branch.Known) :
    mergeBranches (type :: types) = mergeFrom type types := by
  have hfilter : (type :: types).filter (!·.isUnknown) = type :: types := knownTypes_eq_self h
  rw [mergeBranches, hfilter]

/-- What comes out of known types is the greatest of them, unless there are none. -/
theorem greatest_of_ok (h : HostType.Hierarchy hosts) (hover : ∀ type ∈ types, type.Over hosts)
    (hne : types ≠ []) (hok : mergeBranches types = .ok result) : Greatest types result := by
  have hself : knownTypes types = types := knownTypes_eq_self fun type htype => (hover type htype).known
  rw [← hself] at hover hne ⊢
  exact greatest_of_mergeBranches h hover hne hok

/-- Known types, any two of which are comparable, have a type as branches. -/
theorem ok_of_comparable (hknown : ∀ type ∈ types, type.Known) (hcomparable : Comparable types) :
    ∃ result, mergeBranches types = .ok result := by
  cases types with
  | nil => exact ⟨.unknown, rfl⟩
  | cons first rest =>
    rw [mergeBranches_cons hknown]
    exact mergeFrom_of_comparable hcomparable

/-- Types of branches that begin with the greatest one have a type. -/
theorem ok_of_greatest (h : HostType.Hierarchy hosts)
    (hover : ∀ branch ∈ type :: types, branch.Over hosts)
    (hgreatest : Greatest (type :: types) type) : mergeBranches (type :: types) = .ok type := by
  rw [mergeBranches_cons fun branch hbranch => (hover branch hbranch).known]
  obtain ⟨htype, htypes⟩ := List.forall_mem_cons.1 hover
  exact mergeFrom_of_greatest h htype htypes (List.forall_mem_cons.1 hgreatest.2).2

/-- Types of branches that begin with two incomparable ones have none. -/
theorem error_of_incomparable {left right : SqlType}
    (hknown : ∀ branch ∈ left :: right :: types, branch.Known)
    (hleft : ¬left.convertsTo right = true) (hright : ¬right.convertsTo left = true) :
    mergeBranches (left :: right :: types) = .error (left, right) := by
  have hnone : left.common? right = none := by
    rw [SqlType.common?, if_neg hleft, if_neg hright]
  rw [mergeBranches_cons hknown, mergeFrom, hnone]

/-- Two orders of known types in which a type comes out have the same one. -/
theorem ok_unique (h : HostType.Hierarchy hosts) {types' : List SqlType} {result' : SqlType}
    (hover : ∀ type ∈ types, type.Over hosts) (hperm : types'.Perm types)
    (hok : mergeBranches types = .ok result) (hok' : mergeBranches types' = .ok result') :
    result' = result := by
  by_cases hne : types = []
  · subst hne
    rw [hperm.eq_nil] at hok'
    cases hok
    cases hok'
    rfl
  · have hover' : ∀ type ∈ types', type.Over hosts := fun type htype =>
      hover type (hperm.mem_iff.1 htype)
    have hne' : types' ≠ [] := fun hnil => hne (hnil ▸ hperm).symm.eq_nil
    apply Greatest.unique h hover'
    · exact greatest_of_ok h hover' hne' hok'
    · exact (greatest_of_ok h hover hne hok).perm hperm

/-- Two types of a list can be put in front. -/
theorem exists_perm_of_ne {left right : SqlType} (hleft : left ∈ types) (hright : right ∈ types)
    (hne : right ≠ left) : ∃ rest, (left :: right :: rest).Perm types := by
  obtain ⟨front, behind, rfl⟩ := List.append_of_mem hleft
  have hmem : right ∈ front ++ behind := by
    rcases List.mem_append.1 hright with hmem | hmem
    · exact List.mem_append_left _ hmem
    · exact List.mem_append_right _ ((List.mem_cons.1 hmem).resolve_left hne)
  obtain ⟨front', behind', hsplit⟩ := List.append_of_mem hmem
  have hinner : (right :: (front' ++ behind')).Perm (front ++ behind) := by
    rw [hsplit]
    exact List.perm_middle.symm
  exact ⟨front' ++ behind', (hinner.cons left).trans List.perm_middle.symm⟩

/-- **Known types have a type as branches in every order** exactly if any two of them are comparable:
of two that are not, neither order would do. -/
theorem forall_perm_ok_iff (hknown : ∀ type ∈ types, type.Known) :
    (∀ types' : List SqlType, types'.Perm types → ∃ result, mergeBranches types' = .ok result) ↔
      Comparable types := by
  constructor
  · intro hall left hleft right hright
    by_contra hincomparable
    obtain ⟨hnot, hnot'⟩ := not_or.1 hincomparable
    have hne : right ≠ left := by
      rintro rfl
      exact hnot (SqlType.convertsTo_refl right)
    obtain ⟨rest, hperm⟩ := exists_perm_of_ne hleft hright hne
    obtain ⟨result, hok⟩ := hall _ hperm
    have hknown' : ∀ type ∈ left :: right :: rest, type.Known := fun type htype =>
      hknown type (hperm.mem_iff.1 htype)
    rw [error_of_incomparable hknown' hnot hnot'] at hok
    cases hok
  · intro hcomparable types' hperm
    apply ok_of_comparable
    · intro type htype
      exact hknown type (hperm.mem_iff.1 htype)
    · intro a ha b hb
      exact hcomparable a (hperm.mem_iff.1 ha) b (hperm.mem_iff.1 hb)

/-- **Known types have a type as branches in no order** exactly if there are some but none of them is
greatest: one that is could come first. -/
theorem forall_perm_not_ok_iff (h : HostType.Hierarchy hosts)
    (hover : ∀ type ∈ types, type.Over hosts) :
    (∀ types' : List SqlType, types'.Perm types → ¬∃ result, mergeBranches types' = .ok result) ↔
      types ≠ [] ∧ ∀ type, ¬Greatest types type := by
  have hover' : ∀ {types' : List SqlType}, types'.Perm types → ∀ type ∈ types', type.Over hosts :=
    fun hperm type htype => hover type (hperm.mem_iff.1 htype)
  constructor
  · intro hnone
    constructor
    · rintro rfl
      exact hnone [] (.refl _) ⟨.unknown, rfl⟩
    · intro type hgreatest
      obtain ⟨front, behind, rfl⟩ := List.append_of_mem hgreatest.1
      have hperm : (type :: (front ++ behind)).Perm (front ++ type :: behind) :=
        List.perm_middle.symm
      exact hnone _ hperm ⟨type, ok_of_greatest h (hover' hperm) (hgreatest.perm hperm)⟩
  · rintro ⟨hne, hnone⟩ types' hperm ⟨result, hok⟩
    have hne' : types' ≠ [] := fun hnil => hne (hnil ▸ hperm).symm.eq_nil
    exact hnone result ((greatest_of_ok h (hover' hperm) hne' hok).perm hperm.symm)

/-! ## Rearranging branches -/

/-- **The results of the branches** of a case, that of its `ELSE` last. -/
def branches (labels : List Bound.CaseLabel) (otherwise : Option Bound.Expr) : List Bound.Expr :=
  labels.map Bound.CaseLabel.result ++ otherwise.toList

/-- The types of the branches, one for each branch. -/
theorem branchTypes_eq_map (labels : List Bound.CaseLabel) (otherwise : Option Bound.Expr) :
    branchTypes labels otherwise = (branches labels otherwise).map Bound.Expr.type := by
  rw [branches, List.map_append, List.map_map]
  rfl

/-- **Rearranged branches**: the conditions stay where they are, and the results, with that of an
`ELSE`, change places. -/
structure Rearranged (labels : List Bound.CaseLabel) (otherwise : Option Bound.Expr)
    (labels' : List Bound.CaseLabel) (otherwise' : Option Bound.Expr) : Prop where
  conditions : labels'.map Bound.CaseLabel.condition = labels.map Bound.CaseLabel.condition
  isSome : otherwise'.isSome = otherwise.isSome
  results : (branches labels' otherwise').Perm (branches labels otherwise)

section Rearranged

variable {labels labels' : List Bound.CaseLabel} {otherwise otherwise' : Option Bound.Expr}

/-- Rearranged branches have the same types, in another order. -/
theorem Rearranged.perm_branchTypes (h : Rearranged labels otherwise labels' otherwise') :
    (branchTypes labels' otherwise').Perm (branchTypes labels otherwise) := by
  rw [branchTypes_eq_map, branchTypes_eq_map]
  exact h.results.map Bound.Expr.type

/-- Conditions and as many results make labels. -/
theorem exists_labels (conditions results : List Bound.Expr)
    (hlength : results.length = conditions.length) : ∃ labels : List Bound.CaseLabel,
      labels.map Bound.CaseLabel.condition = conditions ∧
        labels.map Bound.CaseLabel.result = results := by
  refine ⟨(conditions.zip results).map fun pair => .mk pair.1 pair.2, ?_, ?_⟩
  · rw [List.map_map]
    exact List.map_fst_zip (Nat.le_of_eq hlength.symm)
  · rw [List.map_map]
    exact List.map_snd_zip (Nat.le_of_eq hlength)

/-- **Results in any order** can be given to the labels and the `ELSE` of a case. -/
theorem exists_rearranged {results : List Bound.Expr}
    (hperm : results.Perm (branches labels otherwise)) : ∃ labels' otherwise',
      Rearranged labels otherwise labels' otherwise' ∧ branches labels' otherwise' = results := by
  have hlength : results.length = labels.length + otherwise.toList.length := by
    rw [hperm.length_eq, branches, List.length_append, List.length_map]
  cases otherwise with
  | none =>
    obtain ⟨labels', hconditions, hresults⟩ :=
      exists_labels (labels.map Bound.CaseLabel.condition) results (by simpa using hlength)
    have hbranches : branches labels' none = results := by simp [branches, hresults]
    exact ⟨labels', none, ⟨hconditions, rfl, hbranches ▸ hperm⟩, hbranches⟩
  | some last =>
    have hne : results ≠ [] := by
      rintro rfl
      simp at hlength
    obtain ⟨labels', hconditions, hresults⟩ :=
      exists_labels (labels.map Bound.CaseLabel.condition) results.dropLast (by simp [hlength])
    have hbranches : branches labels' (some (results.getLast hne)) = results := by
      simp [branches, hresults, List.dropLast_append_getLast]
    refine ⟨labels', some (results.getLast hne), ⟨hconditions, rfl, ?_⟩, hbranches⟩
    rw [hbranches]
    exact hperm

/-- Types of branches in any order are those of rearranged branches. -/
theorem exists_rearranged_types {types : List SqlType}
    (hperm : types.Perm (branchTypes labels otherwise)) : ∃ labels' otherwise',
      Rearranged labels otherwise labels' otherwise' ∧ branchTypes labels' otherwise' = types := by
  rw [branchTypes_eq_map] at hperm
  have hcomp := congrFun (congrFun (List.eq_map_comp_perm Bound.Expr.type) types)
    (branches labels otherwise)
  obtain ⟨results, rfl, hresults⟩ := hcomp.mpr hperm
  obtain ⟨labels', otherwise', hrearranged, rfl⟩ := exists_rearranged hresults
  exact ⟨labels', otherwise', hrearranged, branchTypes_eq_map labels' otherwise'⟩

/-- The types of rearranged branches are those of the branches in any order. -/
theorem forall_rearranged_iff (holds : List SqlType → Prop) :
    (∀ labels' otherwise', Rearranged labels otherwise labels' otherwise' →
      holds (branchTypes labels' otherwise')) ↔
      ∀ types, types.Perm (branchTypes labels otherwise) → holds types := by
  constructor
  · intro hall types hperm
    obtain ⟨labels', otherwise', hrearranged, rfl⟩ := exists_rearranged_types hperm
    exact hall labels' otherwise' hrearranged
  · intro hall labels' otherwise' hrearranged
    exact hall _ hrearranged.perm_branchTypes

end Rearranged

/-! ## Binding a case -/

section Case

variable {env : Env} (info : NodeInfo) (input : Option Bound.Expr) (labels : List Bound.CaseLabel)
  (otherwise : Option Bound.Expr)

/-- A case whose branches have a type reports nothing. -/
theorem caseOf_of_ok (h : mergeBranches (branchTypes labels otherwise) = .ok type) (env : Env)
    (pass : Pass) : (caseOf info input labels otherwise env pass).1.type = type ∧
      added (caseOf info input labels otherwise) env pass = [] := by
  have heq : caseOf info input labels otherwise = Pure.pure (.cases input labels otherwise type) := by
    rw [caseOf, h]
  rw [heq]
  exact ⟨rfl, Silent.pure.added_eq pass⟩

/-- A case whose branches have no type reports the first two types that do not fit. -/
theorem caseOf_of_error {left right : SqlType}
    (h : mergeBranches (branchTypes labels otherwise) = .error (left, right)) (env : Env)
    (pass : Pass) : (caseOf info input labels otherwise env.unlimited pass).1.type = .unknown ∧
      added (caseOf info input labels otherwise) env.unlimited pass =
        [⟨info.span, .caseBranches left right⟩] := by
  have heq : caseOf info input labels otherwise = (do
      report info.span (.caseBranches left right)
      return .cases input labels otherwise .unknown) := by
    rw [caseOf, h]
  rw [heq]
  refine ⟨rfl, ?_⟩
  have hadds : Adds env.unlimited (do
      report info.span (.caseBranches left right)
      return Bound.Expr.cases input labels otherwise .unknown) _ :=
    (Adds.report rfl _ _).bind fun _ => .pure _
  exact hadds.added_eq pass

/-- **A case reports nothing** exactly if its branches have a type. -/
theorem added_caseOf_eq_nil_iff (env : Env) (pass : Pass) :
    added (caseOf info input labels otherwise) env.unlimited pass = [] ↔
      ∃ type, mergeBranches (branchTypes labels otherwise) = .ok type := by
  cases hmerge : mergeBranches (branchTypes labels otherwise) with
  | ok type =>
    exact iff_of_true (caseOf_of_ok info input labels otherwise hmerge env.unlimited pass).2 ⟨type, rfl⟩
  | error pair =>
    have hadded := (caseOf_of_error info input labels otherwise hmerge env pass).2
    exact iff_of_false (by simp [hadded]) nofun

end Case

/-- **The order of the branches** of a case whose branch types are known. Its type can only change if it
changes whether incompatible branches are reported. In no order are they reported exactly if any two of
the types are comparable, and in every order exactly if there are branches but no greatest type. In all
other cases the order decides.

**Proof sketch.** What comes out of merging is the greatest type, and there is one at most. A pair without
a common type may be put in front, and so may a greatest type. -/
theorem caseOf_rearranged (h : HostType.Hierarchy hosts) (info : NodeInfo)
    (input : Option Bound.Expr) (labels : List Bound.CaseLabel) (otherwise : Option Bound.Expr)
    (hover : ∀ type ∈ branchTypes labels otherwise, type.Over hosts) (env : Env) (pass : Pass) :
    let compatible (labels' : List Bound.CaseLabel) (otherwise' : Option Bound.Expr) : Prop :=
      added (caseOf info input labels' otherwise') env.unlimited pass = []
    (∀ labels' otherwise', Rearranged labels otherwise labels' otherwise' →
      (compatible labels' otherwise' ↔ compatible labels otherwise) →
      (caseOf info input labels' otherwise' env.unlimited pass).1.type =
        (caseOf info input labels otherwise env.unlimited pass).1.type) ∧
    ((∀ labels' otherwise', Rearranged labels otherwise labels' otherwise' →
      compatible labels' otherwise') ↔ Comparable (branchTypes labels otherwise)) ∧
    ((∀ labels' otherwise', Rearranged labels otherwise labels' otherwise' →
      ¬compatible labels' otherwise') ↔
        branchTypes labels otherwise ≠ [] ∧ ∀ type, ¬Greatest (branchTypes labels otherwise) type) := by
  intro compatible
  have hknown : ∀ type ∈ branchTypes labels otherwise, type.Known := fun type htype =>
    (hover type htype).known
  have hcompatible : ∀ labels' otherwise', compatible labels' otherwise' ↔
      ∃ type, mergeBranches (branchTypes labels' otherwise') = .ok type := fun labels' otherwise' =>
    added_caseOf_eq_nil_iff info input labels' otherwise' env pass
  simp only [hcompatible]
  refine ⟨fun labels' otherwise' hrearranged hiff => ?_, ?_, ?_⟩
  · cases hmerge : mergeBranches (branchTypes labels otherwise) with
    | ok type =>
      obtain ⟨type', hmerge'⟩ := hiff.2 ⟨type, hmerge⟩
      rw [(caseOf_of_ok info input labels otherwise hmerge _ pass).1,
        (caseOf_of_ok info input labels' otherwise' hmerge' _ pass).1]
      exact ok_unique h hover hrearranged.perm_branchTypes hmerge hmerge'
    | error pair =>
      cases hmerge' : mergeBranches (branchTypes labels' otherwise') with
      | ok type' =>
        obtain ⟨type, hok⟩ := hiff.1 ⟨type', hmerge'⟩
        rw [hmerge] at hok
        cases hok
      | error pair' =>
        rw [(caseOf_of_error info input labels otherwise hmerge env pass).1,
          (caseOf_of_error info input labels' otherwise' hmerge' env pass).1]
  · rw [← forall_perm_ok_iff hknown]
    exact forall_rearranged_iff fun types => ∃ type, mergeBranches types = .ok type
  · rw [← forall_perm_not_ok_iff h hover]
    exact forall_rearranged_iff fun types => ¬∃ type, mergeBranches types = .ok type

/-! ### An order that matters -/

/-- No host types. -/
theorem noHosts_hierarchy : HostType.Hierarchy fun _ => False where
  holds_bases := False.elim
  determined := False.elim

/-- The literal `1`. -/
def one : Bound.Expr :=
  .literal (.int32 1) .int32

/-- The branch `WHEN TRUE THEN …`. -/
def always (result : Bound.Expr) : Bound.CaseLabel :=
  .mk (.literal (.boolean true) .boolean) result

/-- The literal `1` as a value of a narrower type. -/
def narrowed (type : SqlType) : Bound.Expr :=
  .cast one type .explicit type

/-- The branches `WHEN TRUE THEN CAST(1 AS CHAR) WHEN TRUE THEN CAST(1 AS SMALLINT)`, which go before
`ELSE 1`. -/
def narrowLabels : List Bound.CaseLabel :=
  [always (narrowed .char), always (narrowed .int16)]

/-- The types of these branches are known, and none of the host. -/
theorem narrowLabels_over : ∀ type ∈ branchTypes narrowLabels (some one), type.Over fun _ => False := by
  have htypes : branchTypes narrowLabels (some one) = [.char, .int16, .int32] := rfl
  rw [htypes]
  intro type htype
  simp only [List.mem_cons, List.not_mem_nil, or_false] at htype
  rcases htype with rfl | rfl | rfl
  all_goals
    constructor
    · intro hunknown
      cases hunknown
    · intro host hhost
      cases hhost

/-- Surroundings in which nothing is visible. -/
def emptyEnv : Env :=
  ⟨{}, default⟩

/-- A character is not comparable with a small integer, but both convert to an integer. So some orders
of the three are taken to be compatible, and some are not. -/
theorem caseOf_rearranged_narrow :
    ¬(∀ labels' otherwise', Rearranged narrowLabels (some one) labels' otherwise' →
      added (caseOf default none labels' otherwise') emptyEnv.unlimited default = []) ∧
    ¬(∀ labels' otherwise', Rearranged narrowLabels (some one) labels' otherwise' →
      ¬added (caseOf default none labels' otherwise') emptyEnv.unlimited default = []) := by
  obtain ⟨-, hall, hnone⟩ := caseOf_rearranged noHosts_hierarchy default none narrowLabels (some one)
    narrowLabels_over emptyEnv default
  constructor
  · intro h
    have hcomparable := hall.1 h .char (by simp [branchTypes, narrowLabels, always, narrowed,
      Bound.CaseLabel.result, Bound.Expr.type]) .int16 (by simp [branchTypes, narrowLabels, always,
      narrowed, Bound.CaseLabel.result, Bound.Expr.type])
    revert hcomparable
    decide
  · intro h
    apply (hnone.1 h).2 .int32
    constructor
    · simp [branchTypes, one, Bound.Expr.type]
    · have htypes : branchTypes narrowLabels (some one) = [.char, .int16, .int32] := rfl
      rw [htypes]
      decide

/-- **The order of branches can decide**: `CHAR`, `SMALLINT` and `INT` branches are reported in this
order, and their case has no type; with the last two exchanged nothing is reported, and the case is an
`INT`. -/
theorem caseOf_order_matters :
    Rearranged narrowLabels (some one)
      [always (narrowed .char), always one] (some (narrowed .int16)) ∧
    added (caseOf default none narrowLabels (some one)) emptyEnv default =
      [⟨default, .caseBranches .char .int16⟩] ∧
    (caseOf default none narrowLabels (some one) emptyEnv default).1.type = .unknown ∧
    added (caseOf default none [always (narrowed .char), always one] (some (narrowed .int16)))
      emptyEnv default = [] ∧
    (caseOf default none [always (narrowed .char), always one] (some (narrowed .int16))
      emptyEnv default).1.type = .int32 := by
  refine ⟨⟨rfl, rfl, ?_⟩, rfl, rfl, rfl, rfl⟩
  exact (List.Perm.swap _ _ _).cons _

end Binding

end QuerySemantics
