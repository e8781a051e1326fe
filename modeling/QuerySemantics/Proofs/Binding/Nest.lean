import QuerySemantics.Proofs.Binding.Branches
import QuerySemantics.Proofs.Binding.RemarkWalk
import QuerySemantics.Proofs.Bound.Nest
import QuerySemantics.Proofs.Model.Limit

/-!
# Types of merged columns

A set operation that does not report its sides fits them. The diagnostics of a nest of set operations are
those of its parts, one after the other, so that a nest of which no set operation is reported is merged at
every level.

## Main definitions

* `Ast.Query.setOperations`: the set operations of a nest.
* `Binding.Spared`: what a computation gives if it reports nothing of a kind.
* `Binding.Coupling.unreported`: passes that may differ in what they keep of the reports.

## Main results

* `Binding.query_spared`: a nest of which no set operation is reported is merged.
* `Binding.query_value_eq`: what a query is bound to does not depend on the limit for diagnostics.
* `Binding.merged_types`: the types of cases and of nests are greatest types.
-/

set_option autoImplicit false

namespace QuerySemantics

open SqlType (Greatest)

/-! ## Nests -/

namespace Ast.Query

mutual

/-- **The set operations** of a nest, each before those on its sides. -/
def setOperations : Ast.Query → List NodeInfo
  | .parenthesized _ inner => optionalSetOperations inner
  | .select _ _ _ _ _ _ => []
  | .combined info left _ right =>
    info :: (optionalSetOperations left ++ optionalSetOperations right)
  | .ordered _ input _ => optionalSetOperations input
  | .withTables _ _ body => optionalSetOperations body

/-- The set operations of a nest that may be missing. -/
def optionalSetOperations : Option Ast.Query → List NodeInfo
  | some it => setOperations it
  | none => []

end

end Ast.Query

namespace Binding

variable {α β : Type} {env : Env}

/-! ## Sparing a kind of diagnostics -/

/-- **What holds if a kind of diagnostics is spared**: a computation adds to the diagnostics only, and if
none that it adds is of the kind, then its value is as described. -/
structure Spared (bad : Diagnostic → Prop) (env : Env) (given : Prop) (body : BindM α)
    (post : α → Prop) : Prop where
  grows : Grows env body
  holds : given → ∀ pass, (∀ it ∈ added body env pass, ¬bad it) → post (body env pass).1

namespace Spared

variable {bad : Diagnostic → Prop} {given : Prop}

/-- **Sequence**: what is spared by the whole is spared by its parts. -/
theorem bind {first : BindM α} {rest : α → BindM β} {middle : α → Prop} {post : β → Prop}
    (hfirst : Spared bad env given first middle)
    (hrest : ∀ value, Spared bad env (given ∧ middle value) (rest value) post) :
    Spared bad env given (first >>= rest) post := by
  refine ⟨hfirst.grows.bind fun value => (hrest value).grows, fun hgiven pass hspared => ?_⟩
  rw [hfirst.grows.added_bind (hrest _).grows] at hspared
  obtain ⟨hspared, hspared'⟩ := List.forall_mem_append.1 hspared
  have hmiddle : middle (first env pass).1 := hfirst.holds hgiven pass hspared
  exact (hrest _).holds ⟨hgiven, hmiddle⟩ _ hspared'

/-- A value reports nothing. -/
theorem pure {value : α} {post : α → Prop} (h : given → post value) :
    Spared bad env given (Pure.pure value) post :=
  ⟨Silent.pure.grows, fun hgiven _ _ => h hgiven⟩

/-- A computation of which it does not matter what it gives. -/
theorem any {body : BindM α} (h : Grows env body) : Spared bad env given body fun _ => True :=
  ⟨h, fun _ _ _ => trivial⟩

/-- Working in another scope. -/
theorem within {scope : Scope} {body : BindM α} {post : α → Prop}
    (h : Spared bad { env with scope } given body post) :
    Spared bad env given (Binding.within scope body) post :=
  ⟨h.grows, h.holds⟩

/-- **A report of the kind** is not spared. -/
theorem report {span : Span} {problem : Problem} {post : Unit → Prop}
    (hunlimited : env.options.maxDiagnostics = none) (h : bad ⟨span, problem⟩) :
    Spared bad env given (Binding.report span problem) post := by
  have hadded : ∀ pass, added (Binding.report span problem) env pass = [⟨span, problem⟩] :=
    (Adds.report hunlimited span problem).added_eq
  refine ⟨fun pass => ?_, fun _ pass hspared => ?_⟩
  · rw [hadded pass]
    exact (Adds.report hunlimited span problem pass).2
  · rw [hadded pass] at hspared
    exact absurd h (hspared _ (List.mem_singleton_self _))

/-! ### Set operations -/

section SetOperation

variable {span : Span} (hunlimited : env.options.maxDiagnostics = none)
  (hbad : ∀ it : Diagnostic, it.category = .shapeMismatch → it.span = span → bad it)

include hunlimited hbad

/-- A column is merged to the common type, unless that is reported. -/
theorem mergeType (ordinal : Nat) (left right : SqlType) :
    Spared bad env given (Binding.mergeType span ordinal left right) fun type =>
      left.common? right = some type := by
  unfold Binding.mergeType
  split
  · rename_i type hcommon
    exact .pure fun _ => hcommon
  · have hreport : Spared bad env given
        (Binding.report span (.setOperationTypes ordinal left right)) fun _ => False :=
      report hunlimited (hbad _ rfl rfl)
    exact hreport.bind fun _ => .pure fun hgiven => hgiven.2.elim

/-- Columns are merged pair by pair, unless that is reported. -/
theorem mergePairs (ordinal : Nat) (pairs : List (QueryColumn × QueryColumn)) :
    Spared bad env given (Binding.mergePairs span ordinal pairs) fun columns =>
      List.Forall₂ (fun pair column => pair.1.type.common? pair.2.type = some column.type) pairs
        columns := by
  induction pairs generalizing ordinal given with
  | nil => exact .pure fun _ => .nil
  | cons pair rest ih =>
    refine (mergeType hunlimited hbad ordinal pair.1.type pair.2.type).bind fun type => ?_
    have hcreate : ∀ {given : Prop}, Spared bad env given
        (Binding.supply (QueryColumn.create pair.1.name type)) fun column => column.type = type :=
      ⟨Silent.supply.grows, fun _ _ _ => rfl⟩
    refine hcreate.bind fun column => (ih (ordinal + 1)).bind fun columns => .pure ?_
    rintro ⟨⟨⟨-, hcommon⟩, rfl⟩, hcolumns⟩
    exact .cons hcommon hcolumns

/-- **A set operation that is not reported** fits its sides. -/
theorem mergeColumns (left right : List QueryColumn) :
    Spared bad env given (Binding.mergeColumns span left right)
      (Bound.Query.Fitting left right) := by
  unfold Binding.mergeColumns
  split
  · rename_i hlength
    have hpairs : Spared bad env given _ _ := mergePairs hunlimited hbad 0 (left.zip right)
    exact ⟨hpairs.grows, fun hgiven pass hspared => ⟨hlength, hpairs.holds hgiven pass hspared⟩⟩
  · have hreport : Spared bad env given
        (Binding.report span (.setOperationCount left.length right.length)) fun _ => False :=
      report hunlimited (hbad _ rfl rfl)
    exact hreport.bind fun _ => ⟨Silent.supply.grows, fun hgiven => hgiven.2.elim⟩

/-- A set operation of merged operands is merged, unless that is reported. -/
theorem combine {info : NodeInfo} (operator : Option SetOperator) {left right : Bound.Query}
    (hspan : info.span = span) (hleft : given → left.Merged) (hright : given → right.Merged) :
    Spared bad env given (Binding.combine info operator left right) Bound.Query.Merged := by
  subst hspan
  refine (mergeColumns hunlimited hbad left.output right.output).bind fun output => .pure ?_
  rintro ⟨hgiven, hfitting⟩
  exact ⟨hleft hgiven, hright hgiven, hfitting⟩

end SetOperation

/-- A merged query is recorded as it is. -/
theorem recordQuery {info : NodeInfo} {query : Bound.Query} {inner : Scope}
    (h : given → query.Merged) :
    Spared bad env given (Binding.recordQuery info query inner) (·.query.Merged) :=
  ⟨Silent.recordQuery.grows, fun hgiven _ _ => h hgiven⟩

end Spared

/-- A row limit passes the query inside on. -/
theorem limit_merged {query : Bound.Query} (h : query.Merged) (top : Option Ast.Top) (env : Env)
    (pass : Pass) : (limit top query env pass).1.Merged := by
  cases top with
  | none => exact h
  | some top => exact h

/-! ## The walk -/

section Walk

variable {bad : Diagnostic → Prop}

mutual

/-- **A nest of which no set operation is reported** is merged. -/
theorem query_spared : ∀ (it : Ast.Query) {env : Env} {given : Prop},
    env.options.maxDiagnostics = none →
    (∀ info ∈ it.setOperations, ∀ it : Diagnostic, it.category = .shapeMismatch →
      it.span = info.span → bad it) →
    Spared bad env given (query it) (·.query.Merged)
  | .parenthesized _ inner, env, given, hunlimited, hbad => by
    rw [query]
    refine (Spared.any Silent.currentScope.grows).bind fun scope => ?_
    refine (optionalQuery_spared inner hunlimited hbad).bind fun bound => .pure ?_
    exact fun hgiven => hgiven.2
  | .select info head source filter grouping having, env, given, _, _ => by
    refine ⟨(query_notes _ env).grows, fun _ pass _ => ?_⟩
    rw [query]
    refine limit_merged ?_ (rowLimit head) _ _
    exact trivial
  | .combined info left operator right, env, given, hunlimited, hbad => by
    rw [Ast.Query.setOperations, List.forall_mem_cons] at hbad
    obtain ⟨hown, hbelow⟩ := hbad
    obtain ⟨hleft, hright⟩ := List.forall_mem_append.1 hbelow
    rw [query]
    refine (Spared.any Silent.currentScope.grows).bind fun scope => ?_
    refine (optionalQuery_spared left hunlimited hleft).bind fun left => ?_
    refine (optionalQuery_spared right hunlimited hright).bind fun right => ?_
    refine (Spared.combine hunlimited hown operator rfl ?_ ?_).bind fun bound => .recordQuery ?_
    · exact fun hgiven => hgiven.1.2
    · exact fun hgiven => hgiven.2
    · exact fun hgiven => hgiven.2
  | .ordered info input items, env, given, hunlimited, hbad => by
    rw [query]
    refine (Spared.any Silent.currentScope.grows).bind fun scope => ?_
    refine (optionalQuery_spared input hunlimited hbad).bind fun input => ?_
    refine (Spared.any Silent.supply.grows).bind fun inner => ?_
    refine (Spared.any ?_).bind fun keys => .recordQuery ?_
    · have hitems : Grows { env with scope := inner } (orderItems input.query.output items) :=
        (orderItems_notes _ items _).grows
      exact (Silent.recordScope.grows).bind fun _ => hitems
    · exact fun hgiven => hgiven.1.1.2
  | .withTables info definitions body, env, given, hunlimited, hbad => by
    rw [query]
    refine (Spared.any Silent.currentScope.grows).bind fun scope => ?_
    refine (Spared.any (commonTables_notes [] definitions env).grows).bind fun definitions => ?_
    refine (Spared.any Silent.childScope.grows).bind fun inner => ?_
    have hbody : ∀ {given : Prop}, Spared bad { env with scope := inner } given (do
        recordScope info
        optionalQuery body) (·.query.Merged) :=
      (Spared.any Silent.recordScope.grows).bind fun _ => optionalQuery_spared body hunlimited hbad
    exact hbody.within.bind fun body => .recordQuery fun hgiven => hgiven.2

/-- A nest that may be missing. -/
theorem optionalQuery_spared : ∀ (it : Option Ast.Query) {env : Env} {given : Prop},
    env.options.maxDiagnostics = none →
    (∀ info ∈ Ast.Query.optionalSetOperations it, ∀ it : Diagnostic, it.category = .shapeMismatch →
      it.span = info.span → bad it) →
    Spared bad env given (optionalQuery it) (·.query.Merged)
  | some it, env, given, hunlimited, hbad => by
    rw [optionalQuery]
    exact query_spared it hunlimited hbad
  | none, env, given, _, _ => by
    rw [optionalQuery]
    exact (Spared.any Silent.currentScope.grows).bind fun _ => .pure fun _ => trivial

end

end Walk

/-! ## Limits for diagnostics -/

/-- **The coupling of passes that keep different reports**: nothing is asked of their logs. -/
def Coupling.unreported (root : Located) (options options' : Options)
    (hcased : options'.caseSensitive = options.caseSensitive) : Coupling :=
  { still (.refl root) options (fun _ _ => True) (fun _ _ => True) (fun _ _ => True) (fun _ _ => True)
      (fun _ => trivial) (fun _ => trivial) (fun _ _ _ _ => trivial) (fun _ _ _ => trivial)
      (fun _ _ _ => trivial) with
    options' := options'
    cased_eq := hcased
    diagnostics_keep := fun _ _ _ => trivial }

/-- **What a query is bound to** does not depend on the limit for diagnostics. -/
theorem query_value_eq {part : Located} {it : Ast.Query} (hpart : part.piece.query? = some it)
    (env : Env) (pass : Pass) : (query it env pass).1 = (query it env.unlimited pass).1 := by
  let c : Coupling := .unreported part env.unlimited.options env.options rfl
  have hrefl : part.piece.Alike c.toLikeness part.piece :=
    (Located.alike_refl part fun _ hnode => hnode).piece
  have halike := hrefl.query?
  rw [hpart] at halike
  cases halike with
  | some halike =>
    have hlockstep : Lockstep c env.scope (query it) (query it) c.liftQuery := query_lockstep it halike
    obtain ⟨-, hcoupled⟩ := hlockstep pass ⟨fun _ _ => trivial, False.elim⟩
    exact (hcoupled pass ⟨rfl, rfl, trivial, trivial, trivial⟩).1

/-! ## Branches of a case -/

/-- As many labels are bound as there are. -/
theorem caseLabels_length (input : Option Bound.Expr) : ∀ (labels : List Ast.CaseLabel) (env : Env)
    (pass : Pass), (caseLabels input labels env pass).1.length = labels.length
  | [], env, pass => by
    rw [caseLabels]
    rfl
  | .mk info condition result :: rest, env, pass => by
    rw [caseLabels]
    exact congrArg (· + 1) (caseLabels_length input rest env _)

/-- An `ELSE` is bound if there is one. -/
theorem exprIfAny_isSome (it : Option Ast.Expr) (env : Env) (pass : Pass) :
    (exprIfAny it env pass).1.isSome = it.isSome := by
  cases it with
  | none =>
    rw [exprIfAny]
    rfl
  | some it =>
    rw [exprIfAny]
    rfl

/-- A case is bound to its parts, with the type of its branches if they have one. -/
theorem caseOf_eq (info : NodeInfo) (input : Option Bound.Expr) (labels : List Bound.CaseLabel)
    (otherwise : Option Bound.Expr) (env : Env) (pass : Pass) :
    ∃ type, (caseOf info input labels otherwise env pass).1 = .cases input labels otherwise type ∧
      (type = .unknown ∨ mergeBranches (branchTypes labels otherwise) = .ok type) := by
  unfold caseOf
  cases hmerge : mergeBranches (branchTypes labels otherwise) with
  | ok type => exact ⟨type, rfl, .inr rfl⟩
  | error pair => exact ⟨.unknown, rfl, .inl rfl⟩

/-- **The type of a case** is the greatest known type of its branches, unless it is not known. -/
theorem greatest_of_caseOf {hosts : HostType → Prop} (h : HostType.Hierarchy hosts)
    {types : List SqlType} {type : SqlType} (hover : ∀ type ∈ knownTypes types, type.Over hosts)
    (hok : type = .unknown ∨ mergeBranches types = .ok type) (hknown : type.Known) :
    Greatest (knownTypes types) type := by
  have hmerge : mergeBranches types = .ok type := hok.resolve_left hknown
  have hne : knownTypes types ≠ [] := by
    intro hnil
    rw [mergeBranches_of_unknown hnil] at hmerge
    cases hmerge
    exact hknown rfl
  exact greatest_of_mergeBranches h hover hne hmerge

/-! ## Merged types -/

/-- **Merged types are greatest types.** The type of a case, if it is known, is the greatest of the known
types of its branches. And the columns of a nest of set operations, none of which is reported for its
shape, have the greatest of the types that the leaves of the nest have at their place, if these are known;
each leaf has as many columns as the nest.

A limit for diagnostics may hide reports, so what is reported is what there is to report without one.

**Proof sketch.** A set operation that is not reported fits its sides, which makes the whole nest merged,
and the columns of a merged nest are as described. The limit does not matter for what a query is bound
to. -/
theorem merged_types {hosts : HostType → Prop} (h : HostType.Hierarchy hosts) :
    (∀ info input labels otherwise env pass, ∃ input' labels' otherwise' type,
      (expr (.cases info input labels otherwise) env pass).1 = .cases input' labels' otherwise' type ∧
      labels'.length = labels.length ∧ otherwise'.isSome = otherwise.isSome ∧
      ((∀ branch ∈ knownTypes (branchTypes labels' otherwise'), branch.Over hosts) → type.Known →
        Greatest (knownTypes (branchTypes labels' otherwise')) type)) ∧
    ∀ (part : Located) (it : Ast.Query) (env : Env) (pass : Pass), part.piece.query? = some it →
      (∀ found ∈ added (query it) env.unlimited pass, found.category = .shapeMismatch →
        ∀ info ∈ it.setOperations, found.span ≠ info.span) →
      let nest := (query it env pass).1.query
      (∀ leaf ∈ nest.leaves, ∀ column ∈ leaf.output, column.type.Over hosts) →
      (∀ leaf ∈ nest.leaves, leaf.output.length = nest.output.length) ∧
        ∀ place column, nest.output[place]? = some column →
          Greatest (nest.leafTypes place) column.type := by
  constructor
  · intro info input labels otherwise env pass
    rw [expr]
    let first := exprIfAny input env pass
    let second := caseLabels first.1 labels env first.2
    let third := exprIfAny otherwise env second.2
    obtain ⟨type, hvalue, hok⟩ := caseOf_eq info first.1 second.1 third.1 env third.2
    refine ⟨first.1, second.1, third.1, type, hvalue, ?_, ?_, fun hover hknown => ?_⟩
    · exact caseLabels_length first.1 labels env first.2
    · exact exprIfAny_isSome otherwise env second.2
    · exact greatest_of_caseOf h hover hok hknown
  · intro part it env pass hpart hsilent nest hover
    let bad (found : Diagnostic) : Prop :=
      found.category = .shapeMismatch ∧ ∃ info ∈ it.setOperations, found.span = info.span
    have hspared : Spared bad env.unlimited True (query it) (·.query.Merged) :=
      query_spared it rfl fun info hinfo found hcategory hspan => ⟨hcategory, info, hinfo, hspan⟩
    have hmerged : nest.Merged := by
      show (query it env pass).1.query.Merged
      rw [query_value_eq hpart]
      apply hspared.holds trivial
      rintro found hfound ⟨hcategory, info, hinfo, hspan⟩
      exact hsilent found hfound hcategory info hinfo hspan
    exact Bound.Query.Merged.greatest h nest hmerged hover

/-- A query for the literal `1`, as a value of a type unless that is what it is. -/
def selectOne (target : Option String) : Draft.Query :=
  .select false none [.value ((target.map (Draft.Expr.cast (.integer 1))).getD (.integer 1)) none] []
    none [] none

/-- The tree of `SELECT 1 UNION (SELECT CAST(1 AS BIGINT) UNION SELECT CAST(1 AS TINYINT))`. -/
def widenedUnion : Located :=
  ((Element.space (Draft.Query.combined (selectOne none) .union (.parenthesized
    (.combined (selectOne "BIGINT") .union (selectOne "TINYINT")))).element none).1.locate 0 0).1

/-- Binding it where nothing is visible. -/
def boundUnion : Bound.Query :=
  (optionalQuery widenedUnion.piece.query? emptyEnv (.start 0)).1.query

/-- The column of the nested union gets the greatest of the types of its leaves. -/
theorem merged_types_widenedUnion :
    boundUnion.leaves.map (·.output.map (·.type.describe)) = [["Int32"], ["Int64"], ["Int8"]] ∧
    ∃ column, boundUnion.output[0]? = some column ∧ column.type.describe = "Int64" ∧
      Greatest (boundUnion.leafTypes 0) column.type := by
  have hleaves : boundUnion.leaves.map (·.output.map (·.type.describe)) =
      [["Int32"], ["Int64"], ["Int8"]] := by decide +kernel
  have hcolumn : (boundUnion.output[0]?.map (·.type.describe)) = some "Int64" := by decide +kernel
  have hsilent : added (optionalQuery widenedUnion.piece.query?) emptyEnv.unlimited (.start 0) = [] := by
    decide +kernel
  have hover : ∀ leaf ∈ boundUnion.leaves, ∀ column ∈ leaf.output,
      column.type.Known ∧ column.type.host? = none := by decide +kernel
  have hread : widenedUnion.piece.query?.isSome = true := by decide +kernel
  obtain ⟨it, hit⟩ := Option.isSome_iff_exists.1 hread
  obtain ⟨column, hcolumn, hdescribe⟩ := Option.map_eq_some_iff.1 hcolumn
  have hquery : optionalQuery widenedUnion.piece.query? = query it := by
    rw [hit, optionalQuery]
  unfold boundUnion at hleaves hover hcolumn ⊢
  rw [hquery] at hsilent hleaves hover hcolumn ⊢
  obtain ⟨-, hnests⟩ := merged_types noHosts_hierarchy
  obtain ⟨-, hgreatest⟩ := hnests widenedUnion it emptyEnv (.start 0) hit
    (by simp [hsilent]) fun leaf hleaf column hcolumn =>
      ⟨(hover leaf hleaf column hcolumn).1, by simp [(hover leaf hleaf column hcolumn).2]⟩
  exact ⟨hleaves, column, hcolumn, hdescribe, hgreatest 0 column hcolumn⟩

end Binding

end QuerySemantics
