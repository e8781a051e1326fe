import QuerySemantics.Binding.Basic
import QuerySemantics.Proofs.Binding.Overload
import QuerySemantics.Proofs.Binding.Parallel

/-!
# The rules of binding in parallel

Each rule makes twins of twins.

## Main results

* `Binding.Parallel.name`, `Binding.Parallel.qualified`, `Binding.Parallel.property`: names.
* `Binding.Parallel.call`, `Binding.Parallel.method`, `Binding.Parallel.caseOf` and fellows: the other
  rules for expressions.
* `Binding.Parallel.namedTable`, `Binding.Parallel.wildcard`, `Binding.Parallel.combine`,
  `Binding.Parallel.define` and fellows: the rules for table references and queries.
-/

set_option autoImplicit false

namespace QuerySemantics

namespace Binding

variable {c : PassComparison} {pairing : Pairing}

namespace Parallel

/-! ## Names and variables -/

/-- Alike names are resolved in parallel. -/
theorem name {ident ident' : Option Token} (hident : Option.Rel c.token ident ident') :
    Parallel c pairing (Binding.name ident) (Binding.name ident') := by
  cases hident with
  | none => exact missingExpr
  | @some token token' htoken =>
    refine currentScope fun scope scope' hscope => caseSensitive ?_
    rw [c.ident_eq htoken]
    have hfound : Resolution.Twins c.typed pairing
        (scope.resolveValue c.options.caseSensitive token.ident)
        (scope'.resolveValue c.options.caseSensitive token.ident) :=
      Scope.resolveValue_twin hscope
    revert hfound
    generalize scope.resolveValue c.options.caseSensitive token.ident = found
    generalize scope'.resolveValue c.options.caseSensitive token.ident = found'
    intro hfound
    cases hfound with
    | found h => exact .pure (.name h)
    | ambiguous h =>
      dsimp only
      rw [Twin.map_eq (fun {_ _} h => Symbol.Twins.candidate h) h]
      exact (unresolved _ _ (c.span_token htoken)).bind fun _ _ _ _ hsymbol => .pure (.name hsymbol)
    | notFound =>
      exact (unresolved _ _ (c.span_token htoken)).bind fun _ _ _ _ hsymbol => .pure (.name hsymbol)

/-- Alike parameters are resolved in parallel. -/
theorem hostVariable {info info' : NodeInfo} {ident ident' : Option Token} (hinfo : c.info info info')
    (hident : Option.Rel c.token ident ident') :
    Parallel c pairing (Binding.hostVariable info ident) (Binding.hostVariable info' ident') := by
  cases hident with
  | none => exact missingExpr
  | some htoken =>
    refine currentScope fun scope scope' hscope => caseSensitive ?_
    have hscope : Scope.Twins c.typed pairing scope scope' := hscope
    unfold Scope.hostVariable?
    rw [hscope.catalog, hscope.catalog', c.ident_eq htoken]
    split
    · rename_i found hfound
      have hsettled : c.typed.Settled found.type :=
        c.typed.hostVariables found (Matching.mem_of_mem_select (List.mem_of_head? hfound))
      exact .pure ⟨rfl, ⟨rfl, hsettled⟩, .some (.hostVariable hsettled)⟩
    · exact (unresolved _ _ (c.span_info hinfo)).bind fun _ _ _ _ hsymbol =>
        .pure ⟨rfl, Symbol.Twins.type hsymbol, .some hsymbol⟩

/-! ## Qualified names -/

/-- Columns of instances that are twins are looked up in parallel. -/
theorem columnOf {table table' : TableInstance} {token token' : Token}
    (h : Twin c.typed pairing table table') (htoken : c.token token token') :
    Parallel c pairing (Binding.columnOf table token) (Binding.columnOf table' token') := by
  have htable : TableInstance.Twins c.typed pairing table table' := h
  have hfound : Twin c.typed pairing
      (Matching.select c.options.caseSensitive InstanceColumn.name token.ident table.columns)
      (Matching.select c.options.caseSensitive InstanceColumn.name token.ident table'.columns) :=
    Matching.select_twin (fun h => InstanceColumn.Twins.name h) htable.columns
  have hcandidate : ∀ {it other : InstanceColumn}, Twin c.typed pairing it other →
      (Symbol.instanceColumn table' other).candidate = (Symbol.instanceColumn table it).candidate :=
    fun hcolumn => Symbol.Twins.candidate (.instanceColumn h hcolumn)
  refine caseSensitive ?_
  rw [c.ident_eq htoken]
  revert hfound
  generalize Matching.select c.options.caseSensitive InstanceColumn.name token.ident table.columns =
    found
  generalize Matching.select c.options.caseSensitive InstanceColumn.name token.ident table'.columns =
    found'
  intro hfound
  cases hfound with
  | nil =>
    dsimp only
    rw [TableSource.Twins.isBad htable.source, htable.name]
    split
    · exact badSymbol _
    · exact unresolved _ _ (c.span_token htoken)
  | cons hfirst hrest =>
    cases hrest with
    | nil => exact .pure (.instanceColumn h hfirst)
    | cons hsecond hrest =>
      dsimp only
      rw [Twin.map_eq hcandidate (.cons hfirst (.cons hsecond hrest))]
      exact unresolved _ _ (c.span_token htoken)

/-- A property of what cannot be resolved is made in parallel. -/
theorem propertyOfBad {info info' : NodeInfo} {span span' : Span} (qualifier : String)
    (problem : Problem) (name : String) (hinfo : c.info info info') (hspan : c.span span span') :
    Parallel c pairing (Binding.propertyOfBad info qualifier span problem name)
      (Binding.propertyOfBad info' qualifier span' problem name) :=
  (report problem hspan).next fun _ _ => (badName qualifier).bind fun _ _ _ _ htarget =>
    (recordExpr hinfo htarget).bind fun _ _ _ _ _ => (badSymbol name).bind fun _ _ _ _ hsymbol =>
      .pure ⟨rfl, Symbol.Twins.type hsymbol, .some hsymbol⟩

/-- Alike qualified names are resolved in parallel. -/
theorem qualified {info info' : NodeInfo} {token token' member member' : Token}
    (hinfo : c.info info info') (htoken : c.token token token') (hmember : c.token member member') :
    Parallel c pairing (Binding.qualified info token member)
      (Binding.qualified info' token' member') := by
  refine currentScope fun scope scope' hscope => caseSensitive ?_
  have hinstance : Resolution.Twins c.typed pairing
      (scope.resolveInstance c.options.caseSensitive token.ident)
      (scope'.resolveInstance c.options.caseSensitive token.ident) :=
    Scope.resolveInstance_twin hscope
  have hvalue : Resolution.Twins c.typed pairing
      (scope.resolveValue c.options.caseSensitive token.ident)
      (scope'.resolveValue c.options.caseSensitive token.ident) :=
    Scope.resolveValue_twin hscope
  dsimp only
  rw [c.ident_eq htoken, c.ident_eq hmember]
  revert hinstance
  generalize scope.resolveInstance c.options.caseSensitive token.ident = found
  generalize scope'.resolveInstance c.options.caseSensitive token.ident = found'
  intro hinstance
  cases hinstance with
  | found h =>
    exact (recordExpr hinfo (Bound.Expr.Twins.name (.tableInstance h))).bind fun _ hle _ _ _ =>
      (columnOf (Twinned.mono hle h) hmember).bind fun _ _ _ _ hsymbol =>
        .pure (.some (Bound.Expr.Twins.name hsymbol))
  | ambiguous h =>
    dsimp only
    rw [Twin.map_eq (fun {_ _} h => TableInstance.Twins.name h) h]
    exact (propertyOfBad _ _ _ hinfo (c.span_token htoken)).bind fun _ _ _ _ hbad => .pure (.some hbad)
  | notFound =>
    have hnotFound : (scope'.resolveValue c.options.caseSensitive token.ident).isNotFound =
        (scope.resolveValue c.options.caseSensitive token.ident).isNotFound := by
      revert hvalue
      generalize scope.resolveValue c.options.caseSensitive token.ident = value
      generalize scope'.resolveValue c.options.caseSensitive token.ident = value'
      intro hvalue
      cases hvalue <;> rfl
    dsimp only
    rw [hnotFound]
    split
    · exact (propertyOfBad _ _ _ hinfo (c.span_token htoken)).bind fun _ _ _ _ hbad => .pure (.some hbad)
    · exact .pure .none

/-! ## Members -/

/-- Properties of one type are looked up in parallel. -/
theorem propertyNamed {type type' : SqlType} {token token' : Token}
    (h : Twin c.typed pairing type type') (htoken : c.token token token') :
    Parallel c pairing (Binding.propertyNamed type token) (Binding.propertyNamed type' token') := by
  obtain ⟨rfl, htype⟩ := h
  unfold Binding.propertyNamed
  rw [c.ident_eq htoken]
  dsimp only
  split
  · exact badSymbol _
  · refine caseSensitive ((propertiesOf ⟨rfl, htype⟩).bind fun pairing' _ its others hothers => ?_)
    have hfound : Twin c.typed pairing'
        (Matching.select c.options.caseSensitive Property.name token.ident its)
        (Matching.select c.options.caseSensitive Property.name token.ident others) :=
      Matching.select_twin (fun h => (Property.Twins.alike h).name) hothers
    have hcandidate : ∀ {it other : Property}, Twin c.typed pairing' it other →
        propertyCandidate other = propertyCandidate it := fun h => by
      rw [propertyCandidate, propertyCandidate, (Property.Twins.alike h).host,
        (Property.Twins.alike h).name]
    revert hfound
    generalize Matching.select c.options.caseSensitive Property.name token.ident its = found
    generalize Matching.select c.options.caseSensitive Property.name token.ident others = found'
    intro hfound
    cases hfound with
    | nil => exact unresolved _ _ (c.span_token htoken)
    | cons hfirst hrest =>
      cases hrest with
      | nil => exact .pure (.property hfirst)
      | cons hsecond hrest =>
        dsimp only
        rw [Twin.map_eq hcandidate (.cons hfirst (.cons hsecond hrest))]
        exact unresolved _ _ (c.span_token htoken)

/-- Properties of targets that are twins are bound in parallel. -/
theorem property {target target' : Bound.Expr} {token token' : Token}
    (h : Twin c.typed pairing target target') (htoken : c.token token token') :
    Parallel c pairing (Binding.property target token) (Binding.property target' token') :=
  (propertyNamed (Bound.Expr.Twins.type h) htoken).bind fun _ _ _ _ hsymbol =>
    .pure ⟨rfl, Symbol.Twins.type hsymbol, .some hsymbol⟩

/-- Ambiguous calls are reported in parallel. -/
theorem ambiguousCall {span span' : Span} (name : String) (arguments : List SqlType)
    (candidates : List String) (hspan : c.span span span') :
    Parallel c pairing (Binding.ambiguousCall span name arguments candidates)
      (Binding.ambiguousCall span' name arguments candidates) := by
  unfold Binding.ambiguousCall
  split
  · exact badSymbol _
  · exact unresolved _ _ hspan

/-- Methods of one type are looked up in parallel. -/
theorem methodNamed {span span' : Span} {type type' : SqlType} {token token' : Token}
    (arguments : List SqlType) (hspan : c.span span span') (h : Twin c.typed pairing type type')
    (htoken : c.token token token') :
    Parallel c pairing (Binding.methodNamed span type token arguments)
      (Binding.methodNamed span' type' token' arguments) := by
  obtain ⟨rfl, htype⟩ := h
  unfold Binding.methodNamed
  rw [c.ident_eq htoken]
  dsimp only
  split
  · exact badSymbol _
  · refine caseSensitive ((methodsOf ⟨rfl, htype⟩).bind fun pairing' _ its others hothers => ?_)
    have hfound : Twin c.typed pairing'
        (Matching.select c.options.caseSensitive Method.name token.ident its)
        (Matching.select c.options.caseSensitive Method.name token.ident others) :=
      Matching.select_twin (fun h => (Method.Twins.alike h).name) hothers
    have hsignature : ∀ {it other : Method}, Twin c.typed pairing' it other →
        signature other.name other.parameters = signature it.name it.parameters := fun h => by
      rw [signature, signature, (Method.Twins.alike h).name, (Method.Twins.alike h).parameterTypes]
    have htypes : ∀ it other : Method, Twin c.typed pairing' it other →
        parameterTypes other.parameters = parameterTypes it.parameters :=
      fun _ _ h => (Method.Twins.alike h).parameterTypes
    revert hfound
    generalize Matching.select c.options.caseSensitive Method.name token.ident its = found
    generalize Matching.select c.options.caseSensitive Method.name token.ident others = found'
    intro hfound
    cases hfound with
    | nil => exact unresolved _ _ (c.span_token htoken)
    | @cons first first' rest rest' hfirst hrest =>
      have hchoice : Overload.Choice.Alike (Twin c.typed pairing')
          (Overload.select (fun it => parameterTypes it.parameters) arguments (first :: rest))
          (Overload.select (fun it => parameterTypes it.parameters) arguments (first' :: rest')) :=
        Overload.select_alike (Twin c.typed pairing') htypes (.cons hfirst hrest)
      dsimp only
      revert hchoice
      generalize Overload.select (fun it => parameterTypes it.parameters) arguments (first :: rest) =
        choice
      generalize Overload.select (fun it => parameterTypes it.parameters) arguments (first' :: rest') =
        choice'
      intro hchoice
      cases hchoice with
      | selected h => exact .pure (.method h)
      | ambiguous h =>
        dsimp only
        rw [Twin.map_eq hsignature h]
        exact ambiguousCall _ _ _ hspan
      | noMatch => exact unresolved _ _ hspan

/-- Twins have the same types. -/
theorem types_eq {its others : List Bound.Expr} (h : Twin c.typed pairing its others) :
    others.map Bound.Expr.type = its.map Bound.Expr.type :=
  Twin.map_eq (fun {_ _} h => (Bound.Expr.Twins.type h).1) h

/-- Method calls of targets that are twins are bound in parallel. -/
theorem method {info info' : NodeInfo} {ident ident' : Option Token} {target target' : Bound.Expr}
    {arguments arguments' : List Bound.Expr} (hinfo : c.info info info')
    (hident : Option.Rel c.token ident ident') (htarget : Twin c.typed pairing target target')
    (harguments : Twin c.typed pairing arguments arguments') :
    Parallel c pairing (Binding.method info ident target arguments)
      (Binding.method info' ident' target' arguments') := by
  cases hident with
  | none => exact missingExpr
  | some htoken =>
    unfold Binding.method
    dsimp only
    rw [types_eq harguments]
    exact (methodNamed _ (c.span_info hinfo) (Bound.Expr.Twins.type htarget) htoken).bind
      fun _ _ _ _ hsymbol => .pure ⟨rfl, Symbol.Twins.type hsymbol, .some hsymbol⟩

/-! ## Calls -/

/-- Types that are no host types are twins of themselves. -/
theorem plain {type : SqlType} (h : type.host? = none) : Twin c.typed pairing type type :=
  ⟨rfl, c.typed.settled_of_host? h⟩

/-- A function is chosen in parallel. -/
theorem overload {span span' : Span} (name : String) (arguments : List SqlType)
    {functions : List Function} (hspan : c.span span span')
    (h : ∀ it ∈ functions, c.typed.Settled it.returns) :
    Parallel c pairing (Binding.overload span name arguments functions)
      (Binding.overload span' name arguments functions) := by
  unfold Binding.overload
  split
  · rename_i it hselected
    have hsettled := h it (Overload.select_selected hselected).1
    exact .pure ⟨.function hsettled, rfl, hsettled⟩
  · exact (ambiguousCall _ _ _ hspan).bind fun _ _ _ _ hsymbol => .pure ⟨hsymbol, plain rfl⟩
  · exact (unresolved _ _ hspan).bind fun _ _ _ _ hsymbol => .pure ⟨hsymbol, plain rfl⟩

/-- Aggregates of the same arguments are typed in parallel. -/
theorem aggregateType {span span' : Span} {it : Aggregate} {arguments : List SqlType}
    (hspan : c.span span span') (h : c.typed.Settled it.signature.declared)
    (harguments : ∀ type ∈ arguments, c.typed.Settled type) :
    Parallel c pairing (Binding.aggregateType span it arguments)
      (Binding.aggregateType span' it arguments) := by
  unfold Binding.aggregateType
  split
  · rename_i type htype
    refine .pure ⟨rfl, ?_⟩
    unfold aggregateResult? at htype
    split at htype
    · exact AggregateSignature.of_returns? c.typed.settled_of_host? h
        (harguments _ List.mem_cons_self) htype
    · cases htype
  · exact (report _ hspan).next fun _ _ => .pure (plain rfl)

/-- The types of twins are settled. -/
theorem types_settled {its others : List Bound.Expr} (h : Twin c.typed pairing its others) :
    ∀ type ∈ its.map Bound.Expr.type, c.typed.Settled type := by
  induction h with
  | nil => exact fun _ htype => absurd htype List.not_mem_nil
  | @cons it other _ _ h _ ih =>
    have h : Bound.Expr.Twins c.typed pairing it other := h
    exact List.forall_mem_cons.2 ⟨h.type.2, ih⟩

/-- Alike calls are bound in parallel. -/
theorem call {info info' : NodeInfo} {ident ident' : Option Token} {arguments arguments' : List Bound.Expr}
    (hinfo : c.info info info') (hident : Option.Rel c.token ident ident')
    (h : Twin c.typed pairing arguments arguments') :
    Parallel c pairing (Binding.call info ident arguments) (Binding.call info' ident' arguments') := by
  cases hident with
  | none => exact missingExpr
  | some htoken =>
    refine currentScope fun scope scope' hscope => caseSensitive ?_
    have hscope : Scope.Twins c.typed pairing scope scope' := hscope
    unfold Scope.functionsNamed Scope.aggregate?
    rw [hscope.catalog, hscope.catalog', types_eq h, c.ident_eq htoken]
    split
    · split
      · rename_i it hfound
        have hsettled : c.typed.Settled it.signature.declared :=
          c.typed.aggregates it (Matching.mem_of_mem_select (List.mem_of_head? hfound))
        exact (aggregateType (c.span_info hinfo) hsettled (types_settled h)).bind fun _ _ _ _ htype =>
          .pure ⟨rfl, htype, .some (.aggregate hsettled)⟩
      · exact (unresolved _ _ (c.span_token htoken)).bind fun _ _ _ _ hsymbol =>
          .pure ⟨rfl, plain rfl, .some hsymbol⟩
    · refine (overload _ _ (c.span_info hinfo) fun it hit => ?_).bind fun _ _ _ _ hresult =>
        .pure ⟨rfl, hresult.2, .some hresult.1⟩
      exact c.typed.functions it (Matching.mem_of_mem_select hit)

/-- Alike counts of rows are bound in parallel. -/
theorem countAll {info info' : NodeInfo} {ident ident' : Option Token} (hinfo : c.info info info')
    (hident : Option.Rel c.token ident ident') :
    Parallel c pairing (Binding.countAll info ident) (Binding.countAll info' ident') := by
  cases hident with
  | none => exact missingExpr
  | some htoken =>
    refine currentScope fun scope scope' hscope => caseSensitive ?_
    have hscope : Scope.Twins c.typed pairing scope scope' := hscope
    unfold Scope.aggregate?
    rw [hscope.catalog, hscope.catalog', c.ident_eq htoken]
    split
    · exact (unresolved _ _ (c.span_token htoken)).bind fun _ _ _ _ hsymbol =>
        .pure ⟨rfl, plain rfl, .some hsymbol⟩
    · rename_i it hfound
      have hsettled : c.typed.Settled it.signature.declared :=
        c.typed.aggregates it (Matching.mem_of_mem_select (List.mem_of_head? hfound))
      split
      · rename_i type htype
        have hdeclared : it.signature.declared = type := by
          unfold rowResult? at htype
          split at htype <;> cases htype
          exact congrArg AggregateSignature.declared ‹_›
        exact .pure ⟨rfl, ⟨rfl, hdeclared ▸ hsettled⟩, .some (.aggregate hsettled)⟩
      · exact (report _ (c.span_info hinfo)).next fun _ _ =>
          .pure ⟨rfl, plain rfl, .some (.aggregate hsettled)⟩

/-! ## Literals, operators and conversions -/

/-- Alike literals are read in parallel. -/
theorem literal {token token' : Option Token} (htoken : Option.Rel c.token token token') :
    Parallel c pairing (Binding.literal token) (Binding.literal token') := by
  cases htoken with
  | none => exact missingExpr
  | some htoken =>
    unfold Binding.literal
    simp only [Likeness.value?_eq htoken, c.token_text_eq htoken]
    split
    · rename_i value hvalue
      exact .pure ⟨rfl, plain (Literal.host?_of_value? hvalue), .none⟩
    · exact (report _ (c.span_token htoken)).next fun _ _ => .pure ⟨rfl, plain rfl, .none⟩

/-- A type that there is or is not is taken in parallel. -/
theorem typeOrReport {span span' : Span} (problem : Problem) {result : Option SqlType}
    (hspan : c.span span span') (h : ∀ type, result = some type → c.typed.Settled type) :
    Parallel c pairing (Binding.typeOrReport span problem result)
      (Binding.typeOrReport span' problem result) := by
  unfold Binding.typeOrReport
  split
  · exact .pure ⟨rfl, h _ rfl⟩
  · exact (report _ hspan).next fun _ _ => .pure (plain rfl)

/-- Unary operators on operands that are twins are bound in parallel. -/
theorem unary {info info' : NodeInfo} {token token' : Option Token} {operand operand' : Bound.Expr}
    (hinfo : c.info info info') (htoken : Option.Rel c.token token token')
    (h : Twin c.typed pairing operand operand') :
    Parallel c pairing (Binding.unary info token operand) (Binding.unary info' token' operand') := by
  unfold Binding.unary
  rw [(Bound.Expr.Twins.type h).1, Likeness.bind_kind_eq UnaryOperator.ofToken? htoken]
  split
  · exact missingExpr
  · refine (typeOrReport _ (c.span_info hinfo) fun type htype => ?_).bind
      fun _ _ _ _ htype => .pure ⟨rfl, htype, .none⟩
    exact c.typed.settled_of_host? (UnaryOperator.host?_of_result? htype)

/-- Binary operators on operands that are twins are bound in parallel. -/
theorem binary {info info' : NodeInfo} {token token' : Option Token} (negated : Bool)
    {left left' right right' : Bound.Expr} (hinfo : c.info info info')
    (htoken : Option.Rel c.token token token') (hleft : Twin c.typed pairing left left')
    (hright : Twin c.typed pairing right right') :
    Parallel c pairing (Binding.binary info token negated left right)
      (Binding.binary info' token' negated left' right') := by
  unfold Binding.binary
  rw [(Bound.Expr.Twins.type hleft).1, (Bound.Expr.Twins.type hright).1,
    Likeness.bind_kind_eq (BinaryOperator.ofToken? negated) htoken]
  split
  · exact missingExpr
  · refine (typeOrReport _ (c.span_info hinfo) fun type htype => ?_).bind
      fun _ _ _ _ htype => .pure ⟨rfl, htype, .none⟩
    exact c.typed.settled_of_host? (BinaryOperator.host?_of_result? htype)

/-- Alike names of types are resolved in parallel. -/
theorem typeNamed {ident ident' : Option Token} (hident : Option.Rel c.token ident ident') :
    Parallel c pairing (Binding.typeNamed ident) (Binding.typeNamed ident') := by
  cases hident with
  | none => exact .pure (plain rfl)
  | some htoken =>
    refine currentScope fun scope scope' hscope => ?_
    have hscope : Scope.Twins c.typed pairing scope scope' := hscope
    rw [hscope.catalog, hscope.catalog', c.ident_eq htoken]
    refine typeOrReport _ (c.span_token htoken) fun type htype => ?_
    unfold Catalog.resolveType? at htype
    split at htype
    · cases htype
      exact c.typed.settled_of_host? (SqlType.host?_of_ofName? ‹_›)
    · obtain ⟨host, hfound, rfl⟩ := Option.map_eq_some_iff.1 htype
      exact c.typed.hostTypes host (List.mem_of_find?_eq_some hfound)

/-- Conversions of operands that are twins are bound in parallel. -/
theorem cast {info info' : NodeInfo} {operand operand' : Bound.Expr}
    {target target' : Option Ast.TypeName} (hinfo : c.info info info')
    (h : Twin c.typed pairing operand operand')
    (htarget : Option.Rel (Ast.TypeName.Alike c.toLikeness) target target') :
    Parallel c pairing (Binding.cast info operand target) (Binding.cast info' operand' target') := by
  have hident : Option.Rel c.token (target.bind Ast.TypeName.ident)
      (target'.bind Ast.TypeName.ident) := by
    cases htarget with
    | none => exact .none
    | some h => exact h.ident
  unfold Binding.cast
  rw [(Bound.Expr.Twins.type h).1]
  refine (typeNamed hident).bind fun _ _ type _ htype => ?_
  obtain ⟨rfl, hsettled⟩ := htype
  refine (typeOrReport _ (c.span_info hinfo) fun result hresult => ?_).bind
    fun _ _ _ _ htype => .pure ⟨rfl, htype, .none⟩
  split at hresult <;> cases hresult
  exact hsettled

/-- Conditions that are twins are checked in parallel. -/
theorem checkCondition {span span' : Span} (place : ConditionPlace) {condition condition' : Bound.Expr}
    (hspan : c.span span span') (h : Twin c.typed pairing condition condition') :
    Parallel c pairing (Binding.checkCondition span place condition)
      (Binding.checkCondition span' place condition') := by
  unfold Binding.checkCondition
  rw [(Bound.Expr.Twins.type h).1]
  split
  · exact report _ hspan
  · exact .pure trivial

/-- Labels of a `CASE` with operands that are twins are checked in parallel. -/
theorem checkLabel {input input' : Option Bound.Expr} {written written' : Option Ast.Expr}
    {condition condition' : Bound.Expr}
    (hwritten : Option.Rel (fun it it' => c.span it.info.span it'.info.span) written written')
    (hinput : Twin c.typed pairing input input') (h : Twin c.typed pairing condition condition') :
    Parallel c pairing (Binding.checkLabel input written condition)
      (Binding.checkLabel input' written' condition') := by
  cases hwritten with
  | none => cases hinput <;> exact .pure trivial
  | some hspan =>
    cases hinput with
    | none => exact checkCondition _ hspan h
    | some hinput =>
      unfold Binding.checkLabel
      dsimp only
      rw [(Bound.Expr.Twins.type hinput).1, (Bound.Expr.Twins.type h).1]
      split
      · exact report _ hspan
      · exact .pure trivial

/-- The branches of twins have the same types. -/
theorem branchTypes_eq {labels labels' : List Bound.CaseLabel} {otherwise otherwise' : Option Bound.Expr}
    (hlabels : Twin c.typed pairing labels labels')
    (hotherwise : Twin c.typed pairing otherwise otherwise') :
    branchTypes labels' otherwise' = branchTypes labels otherwise := by
  have hresults : labels'.map (·.result.type) = labels.map (·.result.type) :=
    Twin.map_eq (fun {_ _} h => (Bound.Expr.Twins.type (Bound.CaseLabel.Twins.result h)).1) hlabels
  have hlast : otherwise'.toList.map Bound.Expr.type = otherwise.toList.map Bound.Expr.type := by
    cases hotherwise with
    | none => rfl
    | some h => exact congrArg ([·]) (Bound.Expr.Twins.type h).1
  rw [branchTypes, branchTypes, hresults, hlast]

/-- The branches of twins have settled types. -/
theorem branchTypes_settled {labels labels' : List Bound.CaseLabel}
    {otherwise otherwise' : Option Bound.Expr} (hlabels : Twin c.typed pairing labels labels')
    (hotherwise : Twin c.typed pairing otherwise otherwise') :
    ∀ type ∈ branchTypes labels otherwise, c.typed.Settled type := by
  refine List.forall_mem_append.2 ⟨?_, ?_⟩
  · induction hlabels with
    | nil => exact fun _ htype => absurd htype List.not_mem_nil
    | cons h _ ih =>
      exact List.forall_mem_cons.2 ⟨(Bound.Expr.Twins.type (Bound.CaseLabel.Twins.result h)).2, ih⟩
  · cases hotherwise with
    | none => exact fun _ htype => absurd htype List.not_mem_nil
    | some h => exact List.forall_mem_singleton.2 (Bound.Expr.Twins.type h).2

/-- `CASE`s of parts that are twins are typed in parallel. -/
theorem caseOf {info info' : NodeInfo} {input input' : Option Bound.Expr}
    {labels labels' : List Bound.CaseLabel} {otherwise otherwise' : Option Bound.Expr}
    (hinfo : c.info info info') (hlabels : Twin c.typed pairing labels labels')
    (hotherwise : Twin c.typed pairing otherwise otherwise') :
    Parallel c pairing (Binding.caseOf info input labels otherwise)
      (Binding.caseOf info' input' labels' otherwise') := by
  unfold Binding.caseOf
  rw [branchTypes_eq hlabels hotherwise]
  split
  · rename_i type htype
    have hsettled : c.typed.Settled type := of_mergeBranches c.typed.settled_of_host?
      (branchTypes_settled hlabels hotherwise) htype
    exact .pure ⟨rfl, ⟨rfl, hsettled⟩, .none⟩
  · exact (report _ (c.span_info hinfo)).next fun _ _ => .pure ⟨rfl, plain rfl, .none⟩

/-! ## Subselects -/

/-- The column of a query that stands for a value is taken in parallel. -/
theorem singleColumn {span span' : Span} {query query' : Bound.Query} (hspan : c.span span span')
    (h : Twin c.typed pairing query query') :
    Parallel c pairing (Binding.singleColumn span query) (Binding.singleColumn span' query') := by
  have houtput := Bound.Query.Twins.output h
  unfold Binding.singleColumn
  revert houtput
  generalize query.output = output
  generalize query'.output = output'
  intro houtput
  cases houtput with
  | nil => exact (report _ hspan).next fun _ _ => .pure (plain rfl)
  | cons hfirst hrest =>
    cases hrest with
    | nil => exact .pure (QueryColumn.Twins.type hfirst)
    | cons hsecond hrest =>
      dsimp only [List.length_cons]
      rw [Twin.length_eq hrest]
      exact (report _ hspan).next fun _ _ => .pure (plain rfl)

/-- Subselects of queries that are twins are bound in parallel. -/
theorem subselect {info info' : NodeInfo} {query query' : Bound.Query} (hinfo : c.info info info')
    (h : Twin c.typed pairing query query') :
    Parallel c pairing (Binding.subselect info query) (Binding.subselect info' query') :=
  (singleColumn (c.span_info hinfo) h).bind fun _ _ _ _ htype => .pure ⟨rfl, htype, .none⟩

/-- Quantified comparisons of values that are twins are bound in parallel. -/
theorem quantified {info info' : NodeInfo} {token token' : Option Token} (quantifier : Quantifier)
    {left left' : Bound.Expr} {query query' : Bound.Query} (hinfo : c.info info info')
    (htoken : Option.Rel c.token token token') (hleft : Twin c.typed pairing left left')
    (h : Twin c.typed pairing query query') :
    Parallel c pairing (Binding.quantified info token quantifier left query)
      (Binding.quantified info' token' quantifier left' query') := by
  unfold Binding.quantified
  rw [(Bound.Expr.Twins.type hleft).1, Likeness.bind_kind_eq BinaryOperator.comparison? htoken]
  refine (singleColumn (c.span_info hinfo) h).bind fun _ _ type _ htype => ?_
  obtain ⟨rfl, hsettled⟩ := htype
  split
  · exact missingExpr
  · refine (typeOrReport _ (c.span_info hinfo) fun result hresult => ?_).bind fun _ _ _ _ _ =>
      .pure ⟨rfl, plain rfl, .none⟩
    exact c.typed.settled_of_host? (BinaryOperator.host?_of_result? hresult)

/-! ## Tables -/

/-- Alike names of tables are resolved in parallel. -/
theorem tableNamed {token token' : Token} (htoken : c.token token token') :
    Parallel c pairing (Binding.tableNamed token) (Binding.tableNamed token') := by
  refine currentScope fun scope scope' hscope => caseSensitive ?_
  rw [c.ident_eq htoken]
  have hfound : Twin c.typed pairing (scope.commonTable? c.options.caseSensitive token.ident)
      (scope'.commonTable? c.options.caseSensitive token.ident) := Scope.commonTable?_twin hscope
  have hscope : Scope.Twins c.typed pairing scope scope' := hscope
  revert hfound
  generalize scope.commonTable? c.options.caseSensitive token.ident = found
  generalize scope'.commonTable? c.options.caseSensitive token.ident = found'
  intro hfound
  cases hfound with
  | some h => exact .pure (.common h)
  | none =>
    unfold Scope.schemaTable?
    dsimp only
    rw [hscope.catalog, hscope.catalog']
    split
    · rename_i hfound
      exact .pure (.schema (Matching.mem_of_mem_select (List.mem_of_head? hfound)))
    · exact (report _ (c.span_token htoken)).next fun _ _ => badInstance _

/-- Alike named tables are bound in parallel. -/
theorem namedTable {ident ident' : Option Token} {correlation correlation' : Option Ast.Alias}
    (hident : Option.Rel c.token ident ident')
    (hcorrelation : Option.Rel (Ast.Alias.Alike c.toLikeness) correlation correlation') :
    Parallel c pairing (Binding.namedTable ident correlation)
      (Binding.namedTable ident' correlation') := by
  cases hident with
  | none => exact missingTable
  | some htoken =>
    unfold Binding.namedTable
    dsimp only
    rw [Likeness.aliasName?_eq hcorrelation, c.ident_eq htoken]
    exact (tableNamed htoken).bind fun _ _ _ _ hsource => (supply (.tableInstance _ hsource)).bind
      fun _ _ _ _ htable => .pure (Bound.TableRef.Twins.named htable)

/-- Derived tables of queries that are twins are bound in parallel. -/
theorem derivedTable {ident ident' : Option Token} {query query' : Bound.Query}
    (hident : Option.Rel c.token ident ident') (h : Twin c.typed pairing query query') :
    Parallel c pairing (Binding.derivedTable ident query) (Binding.derivedTable ident' query') := by
  have houtput := Bound.Query.Twins.output h
  unfold Binding.derivedTable
  rw [QueryColumn.shape_twin houtput, Likeness.map_ident_eq hident]
  exact (supply (.derivedTable _ (QueryColumn.settled_twin houtput))).bind fun _ _ _ _ htable =>
    (supply (.tableInstance _ (.derived htable))).bind fun _ _ _ _ hinstance =>
      .pure ⟨rfl, .cons hinstance .nil⟩

/-- The scope of the right side of a join is made in parallel. -/
theorem lateralScope (kind : JoinKind) {left left' : Bound.TableRef}
    (h : Twin c.typed pairing left left') :
    Parallel c pairing (Binding.lateralScope kind left) (Binding.lateralScope kind left') := by
  unfold Binding.lateralScope
  split
  · exact childScope (.tables (Bound.TableRef.Twins.instances h))
  · exact fun _ _ hscope _ _ habreast => ⟨pairing, le_rfl, hscope, habreast⟩

/-! ## Select lists -/

/-- Entries of a select list with values that are twins are bound in parallel. -/
theorem selectColumn {info info' : NodeInfo} {written written' : Option Ast.Expr}
    {correlation correlation' : Option Ast.Alias} {value value' : Bound.Expr}
    (hinfo : c.info info info')
    (hname : written'.bind Ast.Expr.ownName? = written.bind Ast.Expr.ownName?)
    (hcorrelation : Option.Rel (Ast.Alias.Alike c.toLikeness) correlation correlation')
    (h : Twin c.typed pairing value value') :
    Parallel c pairing (Binding.selectColumn info written correlation value)
      (Binding.selectColumn info' written' correlation' value') := by
  unfold Binding.selectColumn columnName
  rw [Likeness.aliasName?_eq hcorrelation, hname]
  exact (supply (.queryColumn _ (Bound.Expr.Twins.type h))).bind fun _ hle _ _ hcolumn =>
    (record hinfo (Bound.Node.twin_selectItem (.column (Twinned.mono hle h) hcolumn))).next
      fun _ hle' => .pure (.column (Twinned.mono (hle.trans hle') h) (Twinned.mono hle' hcolumn))

/-- Qualifiers of wildcards are resolved in parallel. -/
theorem qualifier {instances instances' : List TableInstance} {token token' : Token}
    (h : Twin c.typed pairing instances instances') (htoken : c.token token token') :
    Parallel c pairing (Binding.qualifier instances token) (Binding.qualifier instances' token') := by
  have hfound : Twin c.typed pairing
      (Matching.select c.options.caseSensitive TableInstance.name token.ident instances)
      (Matching.select c.options.caseSensitive TableInstance.name token.ident instances') :=
    Matching.select_twin (fun h => TableInstance.Twins.name h) h
  refine caseSensitive ?_
  rw [c.ident_eq htoken]
  revert hfound
  generalize Matching.select c.options.caseSensitive TableInstance.name token.ident instances = found
  generalize Matching.select c.options.caseSensitive TableInstance.name token.ident instances' =
    found'
  intro hfound
  cases hfound with
  | nil => exact (report _ (c.span_token htoken)).next fun _ _ => .pure .none
  | cons hfirst hrest =>
    cases hrest with
    | nil => exact .pure (.some hfirst)
    | cons hsecond hrest =>
      dsimp only
      rw [Twin.map_eq (fun {_ _} h => TableInstance.Twins.name h) (.cons hfirst (.cons hsecond hrest))]
      exact (report _ (c.span_token htoken)).next fun _ _ => .pure .none

/-- Wildcards over instances that are twins are expanded in parallel. -/
theorem wildcardItem {instances instances' : List TableInstance} {token token' : Option Token}
    (h : Twin c.typed pairing instances instances') (htoken : Option.Rel c.token token token') :
    Parallel c pairing (Binding.wildcardItem instances token)
      (Binding.wildcardItem instances' token') := by
  cases htoken with
  | none => exact (supply (.expand h)).bind fun _ _ _ _ hcolumns => .pure (.wildcard .none hcolumns)
  | some htoken =>
    refine (qualifier h htoken).bind fun pairing' _ table table' htable => ?_
    have hinstances : Twin c.typed pairing' table.toList table'.toList := by
      cases htable with
      | none => exact .nil
      | some htable => exact .cons htable .nil
    exact (supply (.expand hinstances)).bind fun _ hle _ _ hcolumns =>
      .pure (.wildcard (Twinned.mono hle htable) hcolumns)

/-- Wildcards over instances that are twins are bound in parallel. -/
theorem wildcard {info info' : NodeInfo} {instances instances' : List TableInstance}
    {token token' : Option Token} (hinfo : c.info info info')
    (h : Twin c.typed pairing instances instances') (htoken : Option.Rel c.token token token') :
    Parallel c pairing (Binding.wildcard info instances token)
      (Binding.wildcard info' instances' token') :=
  (wildcardItem h htoken).bind fun _ _ _ _ hitem =>
    (record hinfo (Bound.Node.twin_selectItem hitem)).next fun _ hle => .pure (Twinned.mono hle hitem)

/-! ## Row limits and set operations -/

/-- Alike row limits are put around queries that are twins in parallel. -/
theorem limit {top top' : Option Ast.Top} {query query' : Bound.Query}
    (htop : Option.Rel (Ast.Top.Alike c.toLikeness) top top')
    (h : Twin c.typed pairing query query') :
    Parallel c pairing (Binding.limit top query) (Binding.limit top' query') := by
  cases htop with
  | none => exact .pure h
  | @some top top' htop =>
    have houtput := Bound.Query.Twins.output h
    have hrows : ∀ rows pairing', pairing ≤ pairing' → Twin c.typed pairing'
        (Bound.Query.top query rows top.withTies) (.top query' rows top.withTies) :=
      fun _ _ hle => ⟨rfl, Twinned.mono hle houtput⟩
    have hlimit : ∀ rows, Parallel c pairing
        (Pure.pure (Bound.Query.top query rows top.withTies))
        (Pure.pure (Bound.Query.top query' rows top.withTies)) :=
      fun rows => .pure (hrows rows pairing le_rfl)
    have hvalue := htop.value
    unfold Binding.limit limitValue
    dsimp only
    rw [htop.withTies]
    revert hvalue
    generalize top.value = value
    generalize top'.value = value'
    intro hvalue
    cases hvalue with
    | none => exact hlimit 0
    | some hvalue =>
      simp only [c.token_text_eq hvalue]
      split
      · exact hlimit _
      · exact (report _ (c.span_token hvalue)).next fun pairing' hle => .pure (hrows 0 pairing' hle)

/-- The types of two columns are merged in parallel. -/
theorem mergeType {span span' : Span} (ordinal : Nat) {left left' right right' : SqlType}
    (hspan : c.span span span') (hleft : Twin c.typed pairing left left')
    (hright : Twin c.typed pairing right right') :
    Parallel c pairing (Binding.mergeType span ordinal left right)
      (Binding.mergeType span' ordinal left' right') := by
  obtain ⟨rfl, hleft⟩ := hleft
  obtain ⟨rfl, hright⟩ := hright
  unfold Binding.mergeType
  split
  · rename_i hcommon
    exact .pure ⟨rfl, SqlType.of_common? hleft hright hcommon⟩
  · exact (report _ hspan).next fun _ _ => .pure (plain rfl)

/-- Columns are merged pair by pair in parallel. -/
theorem mergePairs {span span' : Span} (ordinal : Nat) {pairs pairs' : List (QueryColumn × QueryColumn)}
    (hspan : c.span span span') (h : Twin c.typed pairing pairs pairs') :
    Parallel c pairing (Binding.mergePairs span ordinal pairs)
      (Binding.mergePairs span' ordinal pairs') := by
  induction pairs generalizing pairs' ordinal pairing with
  | nil =>
    cases h
    exact .pure .nil
  | cons pair rest ih =>
    cases h with
    | @cons _ pair' _ rest' h hrest =>
      obtain ⟨hleft, hright⟩ := h
      unfold Binding.mergePairs
      rw [QueryColumn.Twins.name hleft]
      exact (mergeType _ hspan (QueryColumn.Twins.type hleft) (QueryColumn.Twins.type hright)).bind
        fun _ hle _ _ htype => (supply (.queryColumn _ htype)).bind fun _ hle' _ _ hcolumn =>
          (ih _ (Twinned.mono (hle.trans hle') hrest)).bind fun _ hle'' _ _ hcolumns =>
            .pure (.cons (Twinned.mono hle'' hcolumn) hcolumns)

/-- The columns of two queries are merged in parallel. -/
theorem mergeColumns {span span' : Span} {left left' right right' : List QueryColumn}
    (hspan : c.span span span') (hleft : Twin c.typed pairing left left')
    (hright : Twin c.typed pairing right right') :
    Parallel c pairing (Binding.mergeColumns span left right)
      (Binding.mergeColumns span' left' right') := by
  unfold Binding.mergeColumns
  rw [Twin.length_eq hleft, Twin.length_eq hright]
  split
  · exact mergePairs _ hspan (Twin.zip hleft hright)
  · exact (report _ hspan).next fun _ hle => supply (.copyColumns (Twinned.mono hle hleft))

/-- Set operations of queries that are twins are bound in parallel. -/
theorem combine {info info' : NodeInfo} (operator : Option SetOperator)
    {left left' right right' : Bound.Query} (hinfo : c.info info info')
    (hleft : Twin c.typed pairing left left') (hright : Twin c.typed pairing right right') :
    Parallel c pairing (Binding.combine info operator left right)
      (Binding.combine info' operator left' right') :=
  (mergeColumns (c.span_info hinfo) (Bound.Query.Twins.output hleft)
    (Bound.Query.Twins.output hright)).bind fun _ _ _ _ houtput => .pure ⟨rfl, houtput⟩

/-! ## Tables of a `WITH` -/

/-- The lengths of alike column name lists are checked in parallel. -/
theorem checkNames {list list' : Option Ast.ColumnNames} {query query' : Bound.Query}
    (hlist : Option.Rel (Ast.ColumnNames.Alike c.toLikeness) list list')
    (h : Twin c.typed pairing query query') :
    Parallel c pairing (Binding.checkNames list query) (Binding.checkNames list' query') := by
  cases hlist with
  | none => exact .pure trivial
  | some hlist =>
    unfold Binding.checkNames
    dsimp only
    rw [Twin.length_eq (Bound.Query.Twins.output h), ← hlist.idents.length_eq]
    split
    · exact report _ (c.span_info hlist.info)
    · exact .pure trivial

/-- Renaming keeps the types. -/
theorem settled_renamed (names : List String) {shape : List (String × SqlType)}
    (h : ∀ entry ∈ shape, c.typed.Settled entry.2) :
    ∀ entry ∈ renamed names shape, c.typed.Settled entry.2 := by
  induction names generalizing shape with
  | nil => exact h
  | cons name names ih =>
    cases shape with
    | nil => exact h
    | cons entry shape =>
      obtain ⟨hentry, hshape⟩ := List.forall_mem_cons.1 h
      exact List.forall_mem_cons.2 ⟨hentry, ih hshape⟩

/-- Alike definitions of queries that are twins are bound in parallel. -/
theorem define {info info' : NodeInfo} {ident ident' : Option Token} {list list' : Option Ast.ColumnNames}
    {query query' : Bound.Query} (hinfo : c.info info info')
    (hident : Option.Rel c.token ident ident')
    (hlist : Option.Rel (Ast.ColumnNames.Alike c.toLikeness) list list')
    (h : Twin c.typed pairing query query') :
    Parallel c pairing (Binding.define info ident list query)
      (Binding.define info' ident' list' query') := by
  have houtput := Bound.Query.Twins.output h
  unfold Binding.define
  rw [QueryColumn.shape_twin houtput, Bound.Query.Twins.kind h, Likeness.columnNames_eq hlist,
    Likeness.map_ident_eq hident]
  refine (checkNames hlist h).next fun _ hle => ?_
  exact (supply (.commonTable _ _ (settled_renamed _ (QueryColumn.settled_twin houtput))
    (Twinned.mono hle houtput))).bind fun _ _ _ _ htable =>
      (record hinfo (Bound.Node.twin_definition htable)).next fun _ hle' =>
        .pure (Twinned.mono hle' htable)

end Parallel

end Binding

end QuerySemantics
