import QuerySemantics.Binding.Basic
import QuerySemantics.Proofs.Binding.Clean
import QuerySemantics.Proofs.Binding.Overload

/-!
# Rules of a clean pass

The rules for nodes whose parts are bound already make sound nodes of sound parts, as long as they
have nothing to report.

## Main results

* `Binding.Clean.name`, `Binding.Clean.call`, `Binding.Clean.binary` and fellows: the rules for
  expressions.
* `Binding.Clean.namedTable`, `Binding.Clean.combine`, `Binding.Clean.define` and fellows: the rules
  for tables and queries.
-/

set_option autoImplicit false

namespace QuerySemantics

namespace Binding

namespace Clean

variable {env : Env} {given : Prop}

/-- A name is a sound expression if its symbol is sound and of a known type. -/
theorem sound_name {symbol : Symbol} (h : symbol.Sound ∧ symbol.type.Known) :
    (Bound.Expr.name symbol).Sound :=
  .reference rfl h.1 h.2 trivial nofun

/-- What is missing is not there. -/
theorem not_isSome_none {α : Type} (h : given → (none : Option α).isSome = true) : ¬given :=
  fun hgiven => Bool.false_ne_true (h hgiven)

/-! ## Names and variables -/

/-- A name that is resolved cleanly is sound. -/
theorem name {ident : Option Token} (h : given → ident.isSome = true) :
    Clean env given (name ident) (·.Sound) := by
  unfold Binding.name
  split
  · exact missingExpr (not_isSome_none h)
  · refine currentScope.bind fun scope => caseSensitive.bind fun cased => ?_
    split
    · rename_i symbol hfound
      exact .pure fun hgiven => sound_name (hgiven.1.2.2.resolveValue hfound)
    · exact (unresolved _ _ _).bind fun _ => .pure fun hgiven => hgiven.2.elim
    · exact (unresolved _ _ _).bind fun _ => .pure fun hgiven => hgiven.2.elim

/-- A parameter that is resolved cleanly is sound. -/
theorem hostVariable {ident : Option Token} (info : NodeInfo) (h : given → ident.isSome = true) :
    Clean env given (hostVariable info ident) (·.Sound) := by
  unfold Binding.hostVariable
  split
  · exact missingExpr (not_isSome_none h)
  · refine currentScope.bind fun scope => caseSensitive.bind fun cased => ?_
    split
    · rename_i found hfound
      exact .pure fun hgiven =>
        .reference rfl trivial (hgiven.1.2.2.hostVariable? hfound) trivial nofun
    · exact (unresolved _ _ _).bind fun _ => .pure fun hgiven => hgiven.2.elim

/-! ## Qualified names -/

/-- A column of a sound instance is sound. The case that is not reported does not arise. -/
theorem columnOf {table : TableInstance} (token : Token) (h : given → table.Sound) :
    Clean env given (columnOf table token) fun symbol => symbol.Sound ∧ symbol.type.Known := by
  refine caseSensitive.bind fun cased => ?_
  split
  · rename_i column hcolumn
    have hmem : column ∈ table.columns :=
      Matching.mem_of_mem_select (hcolumn ▸ List.mem_singleton_self _)
    exact .pure fun hgiven => ⟨h hgiven.1, (h hgiven.1).columns column hmem⟩
  · split
    · rename_i hbad
      refine (badSymbol _).value fun _ hgiven _ => ?_
      rw [(h hgiven.1).present] at hbad
      cases hbad
    · exact (unresolved _ _ _).value fun _ _ h => h.elim
  · exact (unresolved _ _ _).value fun _ _ h => h.elim

/-- A property of what cannot be resolved is never clean. -/
theorem propertyOfBad (info : NodeInfo) (qualifier : String) (span : Span) (problem : Problem)
    (name : String) :
    Clean env given (propertyOfBad info qualifier span problem name) fun _ => False :=
  (report span problem).bind fun _ => (badName qualifier).bind fun _ =>
    (recordExpr fun hgiven => hgiven.1.2.elim).bind fun _ => (badSymbol name).bind fun _ =>
      .pure fun hgiven => hgiven.1.1.1.2.elim

/-- **A decided qualifier** gives a sound expression. -/
theorem qualified (info : NodeInfo) (token member : Token) :
    Clean env given (qualified info token member) fun decided => ∀ it ∈ decided, it.Sound := by
  refine currentScope.bind fun scope => caseSensitive.bind fun cased => ?_
  dsimp only
  split
  · rename_i table hfound
    have htable : ((given ∧ scope = env.scope ∧ scope.Sound) ∧ True) → table.Sound :=
      fun hgiven => hgiven.1.2.2.resolveInstance hfound
    have hsymbol : ((given ∧ scope = env.scope ∧ scope.Sound) ∧ True) →
        (Symbol.tableInstance table).Sound ∧ (Symbol.tableInstance table).type.Known :=
      fun hgiven => ⟨htable hgiven, nofun⟩
    refine (recordExpr fun hgiven => sound_name (hsymbol hgiven)).bind fun _ => ?_
    refine (columnOf member fun hgiven => htable hgiven.1).bind fun symbol => ?_
    refine .pure fun hgiven it hit => ?_
    cases hit
    exact sound_name hgiven.2
  · exact (propertyOfBad _ _ _ _ _).bind fun _ =>
      .pure fun hgiven => hgiven.2.elim
  · split
    · exact (propertyOfBad _ _ _ _ _).bind fun _ =>
        .pure fun hgiven => hgiven.2.elim
    · exact .pure fun _ => nofun

/-! ## Members -/

/-- Sound expressions are sound parts. -/
theorem sound_exprs {items : List Bound.Expr} (h : ∀ it ∈ items, it.Sound) :
    ∀ part ∈ items.map Bound.Node.expr, part.Sound :=
  List.forall_mem_map.2 h

/-- The types of sound expressions are known. -/
theorem known_types {items : List Bound.Expr} (h : ∀ it ∈ items, it.Sound) :
    ∀ type ∈ items.map Bound.Expr.type, type.Known :=
  List.forall_mem_map.2 fun it hit => (h it hit).type

/-- A property that is found cleanly is one of known type. -/
theorem propertyNamed {type : SqlType} (token : Token) (h : given → type.Known) :
    Clean env given (propertyNamed type token) fun symbol =>
      ∃ it : Property, symbol = .property it ∧ it.Known := by
  unfold Binding.propertyNamed
  dsimp only
  split
  · rename_i hunknown
    refine (badSymbol _).value fun _ hgiven _ => ?_
    rw [SqlType.isUnknown_eq_false_iff.2 (h hgiven)] at hunknown
    cases hunknown
  · refine caseSensitive.bind fun cased => (propertiesOf type).bind fun found => ?_
    split
    · rename_i it hselect
      have hmem : it ∈ found := Matching.mem_of_mem_select (hselect ▸ List.mem_singleton_self _)
      exact .pure fun hgiven => ⟨it, rfl, hgiven.2 it hmem⟩
    · exact (unresolved _ _ _).value fun _ _ h => h.elim
    · exact (unresolved _ _ _).value fun _ _ h => h.elim

/-- A property that is bound cleanly is sound. -/
theorem property {target : Bound.Expr} (token : Token) (h : given → target.Sound) :
    Clean env given (property target token) (·.Sound) := by
  refine (propertyNamed token fun hgiven => (h hgiven).type).bind fun symbol => .pure fun hgiven => ?_
  obtain ⟨hgiven, it, rfl, hknown⟩ := hgiven
  exact .reference rfl trivial hknown ⟨it, rfl⟩ (List.forall_mem_singleton.2 (h hgiven))

/-- A call that is ambiguous because of an argument that could not be typed does not arise. -/
theorem ambiguousCall {arguments : List SqlType} (span : Span) (name : String)
    (candidates : List String) (h : given → ∀ type ∈ arguments, type.Known) :
    Clean env given (ambiguousCall span name arguments candidates) fun _ => False := by
  unfold Binding.ambiguousCall
  split
  · rename_i hunknown
    obtain ⟨type, hmem, hunknown⟩ := List.any_eq_true.1 hunknown
    refine (badSymbol name).value fun _ hgiven _ => ?_
    rw [SqlType.isUnknown_eq_false_iff.2 (h hgiven type hmem)] at hunknown
    cases hunknown
  · exact unresolved _ _ _

/-- **The overload of a method** that is chosen applies to the arguments. -/
theorem methodNamed {type : SqlType} {arguments : List SqlType} (span : Span) (token : Token)
    (htype : given → type.Known) (harguments : given → ∀ type ∈ arguments, type.Known) :
    Clean env given (methodNamed span type token arguments) fun symbol => ∃ it : Method,
      symbol = .method it ∧ it.Known ∧
        (Overload.conversions? arguments (parameterTypes it.parameters)).isSome = true := by
  unfold Binding.methodNamed
  dsimp only
  split
  · rename_i hunknown
    refine (badSymbol _).value fun _ hgiven _ => ?_
    rw [SqlType.isUnknown_eq_false_iff.2 (htype hgiven)] at hunknown
    cases hunknown
  · refine caseSensitive.bind fun cased => (methodsOf type).bind fun found => ?_
    split
    · exact (unresolved _ _ _).value fun _ _ h => h.elim
    · split
      · rename_i it hselected
        obtain ⟨hmem, happlies⟩ := Overload.select_selected hselected
        exact .pure fun hgiven => ⟨it, rfl, hgiven.2 it (Matching.mem_of_mem_select hmem), happlies⟩
      · exact (ambiguousCall _ _ _ fun hgiven => harguments hgiven.1.1).value fun _ _ h => h.elim
      · exact (unresolved _ _ _).value fun _ _ h => h.elim

/-- A method call that is bound cleanly is sound. -/
theorem method {ident : Option Token} {target : Bound.Expr} {arguments : List Bound.Expr}
    (info : NodeInfo) (hident : given → ident.isSome = true) (htarget : given → target.Sound)
    (harguments : given → ∀ it ∈ arguments, it.Sound) :
    Clean env given (method info ident target arguments) (·.Sound) := by
  unfold Binding.method
  split
  · exact missingExpr (not_isSome_none hident)
  · refine (methodNamed _ _ (fun hgiven => (htarget hgiven).type)
      fun hgiven => known_types (harguments hgiven)).bind fun symbol => .pure fun hgiven => ?_
    obtain ⟨hgiven, it, rfl, hknown, happlies⟩ := hgiven
    exact .reference rfl trivial hknown.1 ⟨it, rfl, .of_conversions? happlies⟩
      (List.forall_mem_cons.2 ⟨htarget hgiven, sound_exprs (harguments hgiven)⟩)

/-! ## Calls -/

/-- **The overload of a function** that is chosen applies to the arguments. -/
theorem overload {arguments : List SqlType} {functions : List Function} (span : Span)
    (name : String) (harguments : given → ∀ type ∈ arguments, type.Known)
    (hfunctions : given → ∀ it ∈ functions, it.Known) :
    Clean env given (overload span name arguments functions) fun (symbol, type) =>
      ∃ it : Function, symbol = .function it ∧ type = it.returns ∧ it.Known ∧
        (Overload.conversions? arguments (parameterTypes it.parameters)).isSome = true := by
  unfold Binding.overload
  split
  · rename_i it hselected
    obtain ⟨hmem, happlies⟩ := Overload.select_selected hselected
    exact .pure fun hgiven => ⟨it, rfl, rfl, hfunctions hgiven it hmem, happlies⟩
  · exact (ambiguousCall _ _ _ harguments).bind fun _ => .pure fun hgiven => hgiven.2.elim
  · exact (unresolved _ _ _).bind fun _ => .pure fun hgiven => hgiven.2.elim

/-- An aggregate that is typed cleanly has the type that its signature gives. -/
theorem aggregateType (span : Span) (it : Aggregate) (arguments : List SqlType) :
    Clean env given (aggregateType span it arguments) fun type =>
      aggregateResult? it.signature arguments = some type := by
  unfold Binding.aggregateType
  split
  · rename_i type hresult
    exact .pure fun _ => hresult
  · exact (report _ _).bind fun _ => .pure fun hgiven => hgiven.2.elim

/-- An aggregate with a result for its arguments is called with one argument. -/
theorem takes_of_aggregateResult? {signature : AggregateSignature} {arguments : List Bound.Expr}
    {type : SqlType} (h : aggregateResult? signature (arguments.map Bound.Expr.type) = some type) :
    ∃ argument, arguments = [argument] ∧ signature.returns? argument.type = some type := by
  match arguments with
  | [] | _ :: _ :: _ => cases h
  | [argument] => exact ⟨argument, rfl, h⟩

/-- A call that is bound cleanly is sound. -/
theorem call {ident : Option Token} {arguments : List Bound.Expr} (info : NodeInfo)
    (hident : given → ident.isSome = true) (harguments : given → ∀ it ∈ arguments, it.Sound) :
    Clean env given (call info ident arguments) (·.Sound) := by
  unfold Binding.call
  split
  · exact missingExpr (not_isSome_none hident)
  · refine currentScope.bind fun scope => caseSensitive.bind fun cased => ?_
    dsimp only
    split
    · split
      · rename_i it hfound
        refine (aggregateType _ _ _).bind fun type => .pure fun hgiven => ?_
        obtain ⟨⟨⟨hgiven, -, hscope⟩, -⟩, hresult⟩ := hgiven
        obtain ⟨argument, rfl, hreturns⟩ := takes_of_aggregateResult? hresult
        have hargument : argument.Sound := harguments hgiven argument List.mem_cons_self
        have htype : type.Known := (hscope.aggregate? hfound).returns hargument.type hreturns
        exact .reference rfl trivial htype ⟨it, rfl, hreturns⟩ (List.forall_mem_singleton.2 hargument)
      · exact (unresolved _ _ _).bind fun _ => .pure fun hgiven => hgiven.2.elim
    · refine (overload _ _ (fun hgiven => known_types (harguments hgiven.1.1))
        fun hgiven it hit => hgiven.1.2.2.functionsNamed hit).bind fun (symbol, type) => ?_
      refine .pure fun hgiven => ?_
      obtain ⟨⟨⟨hgiven, -⟩, -⟩, it, rfl, rfl, hknown, happlies⟩ := hgiven
      exact .reference rfl trivial hknown.1 ⟨it, rfl, .of_conversions? happlies, rfl⟩
        (sound_exprs (harguments hgiven))

/-- An aggregate over whole rows has a known type. -/
theorem known_of_rowResult? {signature : AggregateSignature} {type : SqlType} (h : signature.Known)
    (hresult : rowResult? signature = some type) : type.Known := by
  cases signature <;> cases hresult
  exact h

/-- A count of rows that is bound cleanly is sound. -/
theorem countAll {ident : Option Token} (info : NodeInfo) (h : given → ident.isSome = true) :
    Clean env given (countAll info ident) (·.Sound) := by
  unfold Binding.countAll
  split
  · exact missingExpr (not_isSome_none h)
  · refine currentScope.bind fun scope => caseSensitive.bind fun cased => ?_
    split
    · exact (unresolved _ _ _).bind fun _ => .pure fun hgiven => hgiven.2.elim
    · rename_i it hfound
      split
      · rename_i type hresult
        refine .pure fun hgiven => ?_
        have htype : type.Known := known_of_rowResult? (hgiven.1.2.2.aggregate? hfound) hresult
        exact .reference rfl trivial htype ⟨it, rfl, hresult⟩ nofun
      · exact (report _ _).bind fun _ => .pure fun hgiven => hgiven.2.elim

/-! ## Literals, operators and conversions -/

/-- A literal that is read cleanly is sound. -/
theorem literal {token : Option Token} (h : given → token.isSome = true) :
    Clean env given (literal token) (·.Sound) := by
  unfold Binding.literal
  split
  · exact missingExpr (not_isSome_none h)
  · split
    · rename_i value _
      exact .pure fun _ => .plain rfl value.type_known rfl nofun
    · exact (report _ _).bind fun _ => .pure fun hgiven => hgiven.2.elim

/-- A type that is taken cleanly is there. -/
theorem typeOrReport (span : Span) (problem : Problem) (result : Option SqlType) :
    Clean env given (typeOrReport span problem result) fun type => result = some type := by
  unfold Binding.typeOrReport
  split
  · exact .pure fun _ => rfl
  · exact (report _ _).bind fun _ => .pure fun hgiven => hgiven.2.elim

/-- A unary operator that is bound cleanly is sound. -/
theorem unary {token : Option Token} {operand : Bound.Expr} (info : NodeInfo)
    (htoken : given → (token.bind fun it => UnaryOperator.ofToken? it.kind).isSome = true)
    (hoperand : given → operand.Sound) : Clean env given (unary info token operand) (·.Sound) := by
  unfold Binding.unary
  split
  · rename_i hnone
    exact missingExpr fun hgiven => not_isSome_none (fun h => hnone ▸ htoken h) hgiven
  · refine (typeOrReport _ _ _).bind fun type => .pure fun ⟨hgiven, hresult⟩ => ?_
    have htype : type.Known := UnaryOperator.known_of_result? (hoperand hgiven).type hresult
    exact .plain rfl htype hresult (List.forall_mem_singleton.2 (hoperand hgiven))

/-- A binary operator that is bound cleanly is sound. -/
theorem binary {token : Option Token} {negated : Bool} {left right : Bound.Expr} (info : NodeInfo)
    (htoken : given → (token.bind fun it => BinaryOperator.ofToken? negated it.kind).isSome = true)
    (hleft : given → left.Sound) (hright : given → right.Sound) :
    Clean env given (binary info token negated left right) (·.Sound) := by
  unfold Binding.binary
  split
  · rename_i hnone
    exact missingExpr fun hgiven => not_isSome_none (fun h => hnone ▸ htoken h) hgiven
  · refine (typeOrReport _ _ _).bind fun type => .pure fun ⟨hgiven, hresult⟩ => ?_
    have htype : type.Known :=
      BinaryOperator.known_of_result? (hleft hgiven).type (hright hgiven).type hresult
    exact .plain rfl htype hresult
      (List.forall_mem_cons.2 ⟨hleft hgiven, List.forall_mem_singleton.2 (hright hgiven)⟩)

/-- A type that is resolved cleanly is known. -/
theorem typeNamed {ident : Option Token} (h : given → ident.isSome = true) :
    Clean env given (typeNamed ident) SqlType.Known := by
  unfold Binding.typeNamed
  split
  · exact .pure fun hgiven => absurd hgiven (not_isSome_none h)
  · exact currentScope.bind fun scope => (typeOrReport _ _ _).value fun type _ hresult =>
      Catalog.known_of_resolveType? hresult

/-- A conversion that is bound cleanly is sound. -/
theorem cast {operand : Bound.Expr} {target : Option Ast.TypeName} (info : NodeInfo)
    (hoperand : given → operand.Sound)
    (htarget : given → (target.bind Ast.TypeName.ident).isSome = true) :
    Clean env given (cast info operand target) (·.Sound) := by
  refine (typeNamed htarget).bind fun type => ?_
  refine (typeOrReport _ _ _).bind fun result => .pure fun ⟨⟨hgiven, htype⟩, hresult⟩ => ?_
  split at hresult
  · rename_i hpossible
    cases hresult
    exact .plain rfl htype ⟨rfl, hpossible, rfl⟩ (List.forall_mem_singleton.2 (hoperand hgiven))
  · cases hresult

/-- A condition that is checked cleanly converts to a truth value. -/
theorem checkCondition (span : Span) (place : ConditionPlace) (condition : Bound.Expr) :
    Clean env given (checkCondition span place condition) fun _ =>
      condition.type.convertsTo .boolean = true := by
  unfold Binding.checkCondition
  split
  · exact (report _ _).value fun _ _ h => h.elim
  · rename_i hconverts
    exact .pure fun _ => by simpa using hconverts

/-- **The condition of a label** that is there fits its `CASE`. -/
theorem checkLabel {written : Option Ast.Expr} (input : Option Bound.Expr) (condition : Bound.Expr)
    (h : given → written.isSome = true) :
    Clean env given (checkLabel input written condition) fun _ => Bound.Fits input condition := by
  unfold Binding.checkLabel
  split
  · exact .pure fun hgiven => absurd hgiven (not_isSome_none h)
  · exact checkCondition _ _ _
  · split
    · exact (report _ _).value fun _ _ h => h.elim
    · rename_i hcommon
      exact .pure fun _ => Option.isSome_iff_ne_none.2 (by simpa using hcommon)

/-- The common type of branches of known types is known. -/
theorem known_of_mergeFrom {type result : SqlType} {branches : List SqlType} (htype : type.Known)
    (hbranches : ∀ branch ∈ branches, branch.Known) (h : mergeFrom type branches = .ok result) :
    result.Known := by
  induction branches generalizing type with
  | nil =>
    cases h
    exact htype
  | cons branch rest ih =>
    rw [mergeFrom] at h
    split at h
    · rename_i common hcommon
      have hknown := htype.common (hbranches branch List.mem_cons_self) hcommon
      exact ih hknown (fun other hother => hbranches other (List.mem_cons_of_mem _ hother)) h
    · cases h

/-- **The type of a `CASE`** with branches, all of known types, is known. -/
theorem known_of_mergeBranches {result : SqlType} {branches : List SqlType} (hne : branches ≠ [])
    (hbranches : ∀ branch ∈ branches, branch.Known) (h : mergeBranches branches = .ok result) :
    result.Known := by
  have hfilter : branches.filter (!·.isUnknown) = branches :=
    List.filter_eq_self.2 fun branch hbranch => by
      simp [SqlType.isUnknown_eq_false_iff.2 (hbranches branch hbranch)]
  rw [mergeBranches, hfilter] at h
  cases branches with
  | nil => exact absurd rfl hne
  | cons first rest =>
    obtain ⟨hfirst, hrest⟩ := List.forall_mem_cons.1 hbranches
    exact known_of_mergeFrom hfirst hrest h

/-- **A `CASE`** whose labels are sound and fit it is sound. -/
theorem caseOf {input : Option Bound.Expr} {labels : List Bound.CaseLabel}
    {otherwise : Option Bound.Expr} (info : NodeInfo) (hinput : given → ∀ it ∈ input, it.Sound)
    (hne : given → labels ≠ [])
    (hlabels : given → ∀ label ∈ labels,
      (Bound.Node.caseLabel label).Sound ∧ Bound.Fits input label.condition)
    (hotherwise : given → ∀ it ∈ otherwise, it.Sound) :
    Clean env given (caseOf info input labels otherwise) (·.Sound) := by
  unfold Binding.caseOf
  split
  · rename_i type hmerge
    refine .pure fun hgiven => ?_
    have hresult : ∀ label ∈ labels, label.result.type.Known := by
      rintro ⟨condition, result⟩ hlabel
      have hpart : (Bound.Node.expr result) ∈ (Bound.Node.caseLabel (.mk condition result)).parts :=
        List.mem_cons_of_mem _ List.mem_cons_self
      exact Bound.Node.Sound.type ((hlabels hgiven _ hlabel).1.part hpart)
    have hbranches : ∀ branch ∈ branchTypes labels otherwise, branch.Known := by
      intro branch hbranch
      rcases List.mem_append.1 hbranch with hbranch | hbranch
      · obtain ⟨label, hlabel, rfl⟩ := List.mem_map.1 hbranch
        exact hresult label hlabel
      · obtain ⟨it, hit, rfl⟩ := List.mem_map.1 hbranch
        exact (hotherwise hgiven it (Option.mem_toList.1 hit)).type
    have hbranch : branchTypes labels otherwise ≠ [] := by
      simp [branchTypes, hne hgiven]
    refine .plain rfl (known_of_mergeBranches hbranch hbranches hmerge)
      ⟨fun label hlabel => (hlabels hgiven label hlabel).2, hmerge⟩ ?_
    simp only [Bound.Expr.parts, List.mem_append, List.mem_map, Option.mem_toList]
    rintro part ((⟨it, hit, rfl⟩ | ⟨label, hlabel, rfl⟩) | ⟨it, hit, rfl⟩)
    · exact hinput hgiven it hit
    · exact (hlabels hgiven label hlabel).1
    · exact hotherwise hgiven it hit
  · exact (report _ _).bind fun _ => .pure fun hgiven => hgiven.2.elim

/-! ## Subselects -/

/-- A query that stands for a value cleanly puts out one column, of this type. -/
theorem singleColumn (span : Span) (query : Bound.Query) :
    Clean env given (singleColumn span query) fun type =>
      ∃ column, query.output = [column] ∧ type = column.type := by
  unfold Binding.singleColumn
  split
  · rename_i column hcolumn
    exact .pure fun _ => ⟨column, hcolumn, rfl⟩
  · exact (report _ _).bind fun _ => .pure fun hgiven => hgiven.2.elim

/-- A subselect that is bound cleanly is sound. -/
theorem subselect {query : Bound.Query} (info : NodeInfo) (h : given → query.Sound) :
    Clean env given (subselect info query) (·.Sound) := by
  refine (singleColumn _ _).bind fun type => .pure fun ⟨hgiven, column, hcolumn, htype⟩ => ?_
  have hknown : type.Known := by
    rw [htype]
    exact Bound.Node.Sound.output (h hgiven) column (by simp [hcolumn])
  exact .plain rfl hknown ⟨column, hcolumn, htype⟩ (List.forall_mem_singleton.2 (h hgiven))

/-- A quantified comparison that is bound cleanly is sound. -/
theorem quantified {token : Option Token} {left : Bound.Expr} {query : Bound.Query}
    (info : NodeInfo) (quantifier : Quantifier)
    (htoken : given → (token.bind fun it => BinaryOperator.comparison? it.kind).isSome = true)
    (hleft : given → left.Sound) (hquery : given → query.Sound) :
    Clean env given (quantified info token quantifier left query) (·.Sound) := by
  refine (singleColumn _ _).bind fun type => ?_
  split
  · rename_i hnone
    exact missingExpr fun hgiven => not_isSome_none (fun h => hnone ▸ htoken h) hgiven.1
  · refine (typeOrReport _ _ _).bind fun result => .pure fun hgiven => ?_
    obtain ⟨⟨hgiven, column, hcolumn, rfl⟩, hresult⟩ := hgiven
    exact .plain rfl nofun ⟨column, hcolumn, Option.isSome_of_eq_some hresult⟩
      (List.forall_mem_cons.2 ⟨hleft hgiven, List.forall_mem_singleton.2 (hquery hgiven)⟩)

/-! ## Tables -/

/-- A table that is resolved cleanly is sound. -/
theorem tableNamed (token : Token) : Clean env given (tableNamed token) TableSource.Sound := by
  refine currentScope.bind fun scope => caseSensitive.bind fun cased => ?_
  split
  · rename_i found hfound
    exact .pure fun hgiven => hgiven.1.2.2.commonTable? hfound
  · split
    · rename_i found hfound
      exact .pure fun hgiven => hgiven.1.2.2.schemaTable? hfound
    · exact (report _ _).bind fun _ => (badInstance _).value fun _ hgiven _ => hgiven.2.elim

/-- A named table that is bound cleanly is sound. -/
theorem namedTable {ident : Option Token} (correlation : Option Ast.Alias)
    (h : given → ident.isSome = true) : Clean env given (namedTable ident correlation) (·.Sound) := by
  unfold Binding.namedTable
  split
  · exact missingTable (not_isSome_none h)
  · refine (tableNamed _).bind fun source => ?_
    refine (supply fun hgiven => .tableInstance hgiven.2).bind fun table => .pure fun hgiven => ?_
    exact .intro hgiven.2 nofun

/-- A derived table over a sound query is sound. -/
theorem derivedTable {query : Bound.Query} (ident : Option Token) (h : given → query.Sound) :
    Clean env given (derivedTable ident query) (·.Sound) := by
  refine (supply fun hgiven => .derivedTable
    (QueryColumn.AllKnown.shape (Bound.Node.Sound.output (h hgiven)))).bind fun source => ?_
  refine (supply fun hgiven => .tableInstance hgiven.2).bind fun table => .pure fun hgiven => ?_
  exact .intro hgiven.2 (List.forall_mem_singleton.2 (h hgiven.1.1))

/-- The scope of the right side of a join is sound behind a sound left side. -/
theorem lateralScope {left : Bound.TableRef} (kind : JoinKind) (h : given → left.Sound) :
    Clean env given (lateralScope kind left) Scope.Sound := by
  unfold Binding.lateralScope
  split
  · exact childScope fun hgiven => Bound.TableRef.Sound.instances (h hgiven)
  · exact currentScope.value fun _ _ h => h.2

/-! ## Select lists -/

/-- An entry of a select list with a sound value is sound. -/
theorem selectColumn {value : Bound.Expr} (info : NodeInfo) (written : Option Ast.Expr)
    (correlation : Option Ast.Alias) (h : given → value.Sound) :
    Clean env given (selectColumn info written correlation value)
      fun item => (Bound.Node.selectItem item).Sound := by
  refine (supply fun _ => .queryColumn _ _).bind fun column => ?_
  have hitem : given ∧ column.type = value.type →
      (Bound.Node.selectItem (.column value column)).Sound := fun ⟨hgiven, htype⟩ => by
    refine .intro ?_ (List.forall_mem_singleton.2 (h hgiven))
    change column.type.Known
    rw [htype]
    exact (h hgiven).type
  exact (record hitem).bind fun _ => .pure fun hgiven => hitem hgiven.1

end Clean

end Binding

namespace Supply.Gives

/-- New output columns for columns of a sound instance have known types. -/
theorem expandColumns {owner : TableInstance} {columns : List InstanceColumn} (h : owner.Sound)
    (hcolumns : ∀ column ∈ columns, column.type.Known) :
    Gives (Binding.expandColumns owner columns) fun made =>
      ∀ it ∈ made, it.owner.Sound ∧ it.output.type.Known := by
  induction columns with
  | nil => exact .pure (by simp)
  | cons column rest ih =>
    obtain ⟨hcolumn, hrest⟩ := List.forall_mem_cons.1 hcolumns
    refine (queryColumn _ _).bind fun output houtput => (ih hrest).bind fun made hmade => ?_
    exact .pure (List.forall_mem_cons.2 ⟨⟨h, houtput ▸ hcolumn⟩, hmade⟩)

/-- New output columns for sound instances have known types. -/
theorem expand {instances : List TableInstance} (h : ∀ table ∈ instances, table.Sound) :
    Gives (Binding.expand instances) fun made =>
      ∀ it ∈ made, it.owner.Sound ∧ it.output.type.Known := by
  induction instances with
  | nil => exact .pure (by simp)
  | cons table rest ih =>
    obtain ⟨htable, hrest⟩ := List.forall_mem_cons.1 h
    refine (expandColumns htable htable.columns).bind fun made hmade => (ih hrest).bind fun _ h => ?_
    exact .pure (List.forall_mem_append.2 ⟨hmade, h⟩)

end Supply.Gives

namespace Binding

namespace Clean

variable {env : Env} {given : Prop}

/-- The qualifier of a wildcard stands for sound instances. -/
theorem qualifier {instances : List TableInstance} (token : Token)
    (h : given → ∀ table ∈ instances, table.Sound) :
    Clean env given (qualifier instances token) fun found => ∀ table ∈ found, table.Sound := by
  refine caseSensitive.bind fun cased => ?_
  split
  · rename_i table hselect
    have hmem : table ∈ instances := Matching.mem_of_mem_select (hselect ▸ List.mem_singleton_self _)
    refine .pure fun hgiven other hother => ?_
    cases hother
    exact h hgiven.1 table hmem
  · exact (report _ _).bind fun _ => .pure fun hgiven => hgiven.2.elim
  · exact (report _ _).bind fun _ => .pure fun hgiven => hgiven.2.elim

/-- A wildcard over sound instances is sound. -/
theorem wildcardItem {instances : List TableInstance} (token : Option Token)
    (h : given → ∀ table ∈ instances, table.Sound) :
    Clean env given (wildcardItem instances token)
      fun item => (Bound.Node.selectItem item).Sound := by
  unfold Binding.wildcardItem
  split
  · refine (supply fun hgiven => .expand (h hgiven)).bind fun columns => .pure fun hgiven => ?_
    exact .intro ⟨nofun, hgiven.2⟩ nofun
  · refine (qualifier _ h).bind fun table => ?_
    refine (supply fun hgiven => .expand fun it hit => hgiven.2 it (Option.mem_toList.1 hit)).bind
      fun columns => .pure fun hgiven => ?_
    exact .intro ⟨hgiven.1.2, hgiven.2⟩ nofun

/-- A wildcard that is bound cleanly is sound. -/
theorem wildcard {instances : List TableInstance} (info : NodeInfo) (token : Option Token)
    (h : given → ∀ table ∈ instances, table.Sound) :
    Clean env given (wildcard info instances token)
      fun item => (Bound.Node.selectItem item).Sound :=
  (wildcardItem token h).bind fun _ => (record fun hgiven => hgiven.2).bind fun _ =>
    .pure fun hgiven => hgiven.1.2

/-! ## Row limits and set operations -/

/-- Nothing is asked of the row limit. -/
theorem limitValue (token : Option Token) : Clean env given (limitValue token) fun _ => True := by
  unfold Binding.limitValue
  split
  · exact .pure fun _ => trivial
  · split
    · exact .pure fun _ => trivial
    · exact (report _ _).bind fun _ => .pure fun _ => trivial

/-- A row limit around a sound query is sound. -/
theorem limit {query : Bound.Query} (top : Option Ast.Top) (h : given → query.Sound) :
    Clean env given (limit top query) (·.Sound) := by
  unfold Binding.limit
  split
  · exact .pure h
  · refine (limitValue _).bind fun rows => .pure fun hgiven => ?_
    have houtput : QueryColumn.AllKnown query.output := Bound.Node.Sound.output (h hgiven.1)
    exact .intro ⟨houtput, trivial⟩
      (List.forall_mem_singleton.2 (h hgiven.1))

/-- The type of a column that is merged cleanly is common to both sides. -/
theorem mergeType (span : Span) (ordinal : Nat) (left right : SqlType) :
    Clean env given (mergeType span ordinal left right) fun type =>
      left.common? right = some type := by
  unfold Binding.mergeType
  split
  · rename_i type hcommon
    exact .pure fun _ => hcommon
  · exact (report _ _).bind fun _ => .pure fun hgiven => hgiven.2.elim

/-- **Pairs of columns** of known types have common types, and these are known. -/
theorem mergePairs {pairs : List (QueryColumn × QueryColumn)} (span : Span) (ordinal : Nat)
    (h : given → ∀ pair ∈ pairs, pair.1.type.Known ∧ pair.2.type.Known) :
    Clean env given (mergePairs span ordinal pairs) fun columns => QueryColumn.AllKnown columns ∧
      ∀ pair ∈ pairs, (pair.1.type.common? pair.2.type).isSome = true := by
  induction pairs generalizing ordinal given with
  | nil => exact .pure fun _ => ⟨nofun, nofun⟩
  | cons pair rest ih =>
    refine (mergeType _ _ _ _).bind fun type => (supply fun _ => .queryColumn _ _).bind fun column => ?_
    refine (ih _ fun hgiven other hother => h hgiven.1.1 other (List.mem_cons_of_mem _ hother)).bind
      fun columns => .pure fun hgiven => ?_
    obtain ⟨⟨⟨hgiven, hcommon⟩, htype⟩, hcolumns, hrest⟩ := hgiven
    obtain ⟨hleft, hright⟩ := h hgiven pair List.mem_cons_self
    refine ⟨List.forall_mem_cons.2 ⟨htype ▸ hleft.common hright hcommon, hcolumns⟩, ?_⟩
    exact List.forall_mem_cons.2 ⟨Option.isSome_of_eq_some hcommon, hrest⟩

/-- Columns that are merged cleanly have known types, each common to its pair. -/
theorem mergeColumns {left right : List QueryColumn} (span : Span)
    (hleft : given → QueryColumn.AllKnown left) (hright : given → QueryColumn.AllKnown right) :
    Clean env given (mergeColumns span left right) fun columns => QueryColumn.AllKnown columns ∧
      List.Forall₂ (fun (left right : QueryColumn) =>
        (left.type.common? right.type).isSome = true) left right := by
  unfold Binding.mergeColumns
  split
  · rename_i hlength
    refine (mergePairs span 0 fun hgiven pair hpair => ?_).value fun columns _ hmerged => ?_
    · obtain ⟨hfirst, hsecond⟩ := List.of_mem_zip hpair
      exact ⟨hleft hgiven _ hfirst, hright hgiven _ hsecond⟩
    · exact ⟨hmerged.1, List.forall₂_iff_zip.2 ⟨hlength, fun hpair => hmerged.2 _ hpair⟩⟩
  · exact (report _ _).bind fun _ => (supply fun _ => .any).value fun _ hgiven _ => hgiven.2.elim

/-- A set operation that is bound cleanly is sound. -/
theorem combine {left right : Bound.Query} (info : NodeInfo) (operator : Option SetOperator)
    (hleft : given → left.Sound) (hright : given → right.Sound) :
    Clean env given (combine info operator left right) (·.Sound) := by
  refine (mergeColumns _ (fun hgiven => Bound.Node.Sound.output (hleft hgiven))
    fun hgiven => Bound.Node.Sound.output (hright hgiven)).bind fun output => .pure fun hgiven => ?_
  exact .intro ⟨hgiven.2.1, hgiven.2.2⟩ (List.forall_mem_cons.2
    ⟨hleft hgiven.1, List.forall_mem_singleton.2 (hright hgiven.1)⟩)

/-! ## Common tables -/

/-- Nothing is asked of the length of a column name list: it is reported, or right. -/
theorem checkNames (list : Option Ast.ColumnNames) (query : Bound.Query) :
    Clean env given (checkNames list query) fun _ => True := by
  unfold Binding.checkNames
  split
  · exact .pure fun _ => trivial
  · split
    · exact (report _ _).value fun _ _ _ => trivial
    · exact .pure fun _ => trivial

/-- **A definition** of a sound query is sound, and so is the table that it defines. -/
theorem define {query : Bound.Query} (info : NodeInfo) (ident : Option Token)
    (list : Option Ast.ColumnNames) (h : given → query.Sound) :
    Clean env given (define info ident list query) fun definition =>
      (Bound.Node.definition definition).Sound := by
  refine (checkNames _ _).bind fun _ => ?_
  refine (supply fun hgiven => .commonTable (known_of_mem_renamed
    (QueryColumn.AllKnown.shape (Bound.Node.Sound.output (h hgiven.1))))).bind fun table => ?_
  have hdefinition : (given ∧ True) ∧ table.Sound →
      (Bound.Node.definition (.mk table query)).Sound := fun hgiven =>
    .intro hgiven.2 (List.forall_mem_singleton.2 (h hgiven.1.1))
  exact (record hdefinition).bind fun _ => .pure fun hgiven => hdefinition hgiven.1

end Clean

end Binding

end QuerySemantics
