import QuerySemantics.Proofs.Binding.Branches
import QuerySemantics.Proofs.Binding.Filling
import QuerySemantics.Proofs.Binding.RemarkWalk

/-!
# Follow-up errors

An operand that could not be typed was reported where that happened, and causes no further errors: what a
rule reports with it, it would report whatever the operand's type were. A chain of properties and methods
behind such an operand reports nothing either.

## Main definitions

* `Binding.Persists`: what a computation reports, another one reports too.
* `Binding.Replaced`: a rule of binding, and the same rule with operands whose types are filled in.
* `Binding.Chain`: a chain of properties and methods behind a target.

## Main results

* `Binding.Replaced.persists`: no rule reports anything because of operands that are not known.
* `Binding.Chain.added_eq`: a chain behind an operand that is not known reports what its parts report.
* `Binding.unknown_causes_no_errors`: both.
-/

set_option autoImplicit false

namespace QuerySemantics

open SqlType (Filled AllFilled)

namespace Binding

variable {α β : Type}

/-! ## Persistent reports -/

/-- **Persistence**: for all that a computation reports, another one reports something of the same
category at the same place. -/
def Persists (body body' : BindM α) : Prop :=
  ∀ env pass, ∀ it ∈ added body env pass, ∃ it' ∈ added body' env pass,
    it'.span = it.span ∧ it'.category = it.category

namespace Persists

variable {span : Span} {problem problem' : Problem}

/-- What is reported anyway persists. -/
theorem refl (body : BindM α) : Persists body body :=
  fun _ _ it hit => ⟨it, hit, rfl, rfl⟩

/-- What reports nothing, reports nothing that would not persist. -/
theorem of_silent {body : BindM α} (h : ∀ env, Silent env body) (body' : BindM α) :
    Persists body body' := by
  intro env pass it hit
  rw [(h env).added_eq pass] at hit
  exact absurd hit List.not_mem_nil

/-- Behind the same silent computation. -/
theorem before {first : BindM α} {rest rest' : α → BindM β} (hfirst : ∀ env, Silent env first)
    (h : ∀ value, Persists (rest value) (rest' value)) :
    Persists (first >>= rest) (first >>= rest') := by
  intro env pass
  rw [added_before (hfirst env) rest, added_before (hfirst env) rest']
  exact h _ env _

/-- What follows silently does not matter. -/
theorem behind {first first' : BindM α} {rest rest' : α → BindM β} (h : Persists first first')
    (hrest : ∀ value env, Silent env (rest value)) (hrest' : ∀ value env, Silent env (rest' value)) :
    Persists (first >>= rest) (first' >>= rest') := by
  intro env pass
  rw [added_behind (hrest _ env), added_behind (hrest' _ env)]
  exact h env pass

/-- A report of the same category. -/
theorem report (h : problem'.category = problem.category) :
    Persists (Binding.report span problem) (Binding.report span problem') := by
  intro env pass it hit
  by_cases hroom : env.options.maxDiagnostics.all (pass.diagnostics.length < ·) = true
  · have hadded : ∀ problem, added (Binding.report span problem) env pass = [⟨span, problem⟩] := by
      intro problem
      apply Binding.added_eq
      rw [report_eq, Options.keep, if_pos hroom]
    rw [hadded, List.mem_singleton] at hit
    subst hit
    rw [hadded]
    exact ⟨⟨span, problem'⟩, List.mem_singleton_self _, rfl, h⟩
  · have hadded : added (Binding.report span problem) env pass = [] := by
      apply Binding.added_eq
      rw [report_eq, Options.keep, if_neg hroom, List.append_nil]
    rw [hadded] at hit
    exact absurd hit List.not_mem_nil

/-- **A result that is refused** persists if it is refused later too, whatever becomes of its type. -/
theorem typeOrReport {result result' : Option SqlType} {rest rest' : SqlType → α}
    (hcategory : problem'.category = problem.category) (h : result = none → result' = none) :
    Persists (do return rest (← Binding.typeOrReport span problem result))
      (do return rest' (← Binding.typeOrReport span problem' result')) := by
  cases result with
  | some type => exact of_silent (fun _ => Silent.pure.bind fun _ => .pure) _
  | none =>
    rw [h rfl]
    have hreport : Persists (Binding.typeOrReport span problem none)
        (Binding.typeOrReport span problem' none) :=
      (report hcategory).behind (fun _ _ => .pure) fun _ _ => .pure
    exact hreport.behind (fun _ _ => .pure) fun _ _ => .pure

/-- Behind the same computation, whatever that reports. -/
theorem after {first : BindM α} {rest rest' : α → BindM β} (hfirst : ∀ env, Grows env first)
    (hrest : ∀ value env, Grows env (rest value)) (hrest' : ∀ value env, Grows env (rest' value))
    (h : ∀ value, Persists (rest value) (rest' value)) :
    Persists (first >>= rest) (first >>= rest') := by
  intro env pass it hit
  rw [(hfirst env).added_bind (hrest _ env)] at hit
  rw [(hfirst env).added_bind (hrest' _ env)]
  rcases List.mem_append.1 hit with hit | hit
  · exact ⟨it, List.mem_append_left _ hit, rfl, rfl⟩
  · obtain ⟨it', hit', hsame⟩ := h _ env _ it hit
    exact ⟨it', List.mem_append_right _ hit', hsame⟩

/-- A report on what cannot be resolved persists under another problem of the category. -/
theorem unresolved (name : String) (h : problem'.category = problem.category) :
    Persists (Binding.unresolved span problem name) (Binding.unresolved span problem' name) :=
  (report h).behind (fun _ _ => .badSymbol) fun _ _ => .badSymbol

/-! ### Rules -/

variable (info : NodeInfo)

/-- What is reported of a unary operator persists as its operand gets a known type. -/
theorem unary (token : Option Token) {operand operand' : Bound.Expr}
    (h : operand.type.Filled operand'.type) :
    Persists (Binding.unary info token operand) (Binding.unary info token operand') := by
  unfold Binding.unary
  cases token.bind fun it => UnaryOperator.ofToken? it.kind with
  | none => exact refl _
  | some operator =>
    exact typeOrReport (by rfl) (UnaryOperator.result?_of_filled h)

/-- What is reported of a binary operator persists as its operands get known types. -/
theorem binary (token : Option Token) (negated : Bool) {left left' right right' : Bound.Expr}
    (hleft : left.type.Filled left'.type) (hright : right.type.Filled right'.type) :
    Persists (Binding.binary info token negated left right)
      (Binding.binary info token negated left' right') := by
  unfold Binding.binary
  cases token.bind fun it => BinaryOperator.ofToken? negated it.kind with
  | none => exact refl _
  | some operator =>
    exact typeOrReport (by rfl) (BinaryOperator.result?_of_filled hleft hright)

/-- What is reported of a conversion persists as its operand gets a known type. -/
theorem cast (target : Option Ast.TypeName) {operand operand' : Bound.Expr}
    (h : operand.type.Filled operand'.type) :
    Persists (Binding.cast info operand target) (Binding.cast info operand' target) := by
  have hnamed : ∀ env, Grows env (typeNamed (target.bind Ast.TypeName.ident)) := by
    intro env
    unfold typeNamed
    split
    · exact Silent.pure.grows
    · exact Silent.currentScope.grows.bind fun _ => .typeOrReport _ _ _
  unfold Binding.cast
  apply after hnamed
  · exact fun _ _ => (Grows.typeOrReport _ _ _).bind fun _ => Silent.pure.grows
  · exact fun _ _ => (Grows.typeOrReport _ _ _).bind fun _ => Silent.pure.grows
  · intro type
    apply typeOrReport (by rfl)
    intro hnone
    rw [if_neg]
    intro hpossible
    rw [if_pos (SqlType.isPossible_of_filled h hpossible)] at hnone
    cases hnone

/-- What is reported of a condition persists as it gets a known type. -/
theorem checkCondition (place : ConditionPlace) {condition condition' : Bound.Expr}
    (h : condition.type.Filled condition'.type) :
    Persists (Binding.checkCondition span place condition)
      (Binding.checkCondition span place condition') := by
  unfold Binding.checkCondition
  cases hconverts : condition'.type.convertsTo .boolean with
  | true =>
    rw [SqlType.convertsTo_of_filled h hconverts]
    exact refl _
  | false =>
    cases condition.type.convertsTo .boolean with
    | true => exact of_silent (fun _ => .pure) _
    | false => exact report rfl

/-- A label is compared with the operand of its case, or else is a condition. -/
theorem checkLabel {input input' : Option Bound.Expr} (written : Option Ast.Expr)
    {condition condition' : Bound.Expr}
    (hinput : Option.Rel (fun it it' => it.type.Filled it'.type) input input')
    (hcondition : condition.type.Filled condition'.type) :
    Persists (Binding.checkLabel input written condition)
      (Binding.checkLabel input' written condition') := by
  cases written with
  | none =>
    cases hinput <;> exact refl _
  | some written =>
    cases hinput with
    | none => exact checkCondition .when hcondition
    | @some input input' hinput =>
      show Persists
        (if (input.type.common? condition.type).isNone then
          Binding.report written.info.span (.caseComparison input.type condition.type) else Pure.pure ())
        (if (input'.type.common? condition'.type).isNone then
          Binding.report written.info.span (.caseComparison input'.type condition'.type) else Pure.pure ())
      cases hcommon : input.type.common? condition.type with
      | none =>
        rw [SqlType.common?_of_filled hinput hcondition hcommon]
        exact report rfl
      | some type => exact of_silent (fun _ => .pure) _

/-- What is reported of a column of a set operation persists as both sides get known types. -/
theorem mergeType (ordinal : Nat) {left left' right right' : SqlType} (hleft : left.Filled left')
    (hright : right.Filled right') :
    Persists (Binding.mergeType span ordinal left right) (Binding.mergeType span ordinal left' right') := by
  unfold Binding.mergeType
  cases hcommon : left.common? right with
  | some type => exact of_silent (fun _ => .pure) _
  | none =>
    rw [SqlType.common?_of_filled hleft hright hcommon]
    have hreport : Persists (Binding.report span (.setOperationTypes ordinal left right))
        (Binding.report span (.setOperationTypes ordinal left' right')) := report rfl
    exact hreport.behind (fun _ _ => .pure) fun _ _ => .pure

/-! ### Comparisons with subselects -/

/-- A query of one column stands for a value of its type. -/
theorem singleColumn_of_one (span : Span) {query : Bound.Query} {column : QueryColumn}
    (h : query.output = [column]) : singleColumn span query = Pure.pure column.type := by
  unfold singleColumn
  rw [h]

/-- A query of another width stands for a value of a type that is not known. -/
theorem singleColumn_of_ne (span : Span) {query : Bound.Query} (h : query.output.length ≠ 1) :
    singleColumn span query = (do
      Binding.report span (.subselectCount query.output.length)
      return .unknown) := by
  unfold singleColumn
  split
  · rename_i column hcolumn
    exact absurd (by rw [hcolumn]; rfl) h
  · rfl

/-- Comparing with a value of a type that is not known is not refused. -/
theorem silent_compare {env : Env} (operator : BinaryOperator) (left : Bound.Expr)
    (quantifier : Quantifier) (query : Bound.Query) : Silent env (do
      let _ ← Binding.typeOrReport info.span (.operatorMismatch operator.text [left.type, .unknown])
        (operator.result? left.type .unknown)
      return Bound.Expr.quantified left operator quantifier query) := by
  rw [BinaryOperator.result?_unknown]
  exact Silent.pure.bind fun _ => .pure

/-- What is reported of a quantified comparison persists as both sides get known types. -/
theorem quantified (token : Option Token) (quantifier : Quantifier) {left left' : Bound.Expr}
    {query query' : Bound.Query} (hleft : left.type.Filled left'.type)
    (hcolumns : AllFilled (query.output.map QueryColumn.type) (query'.output.map QueryColumn.type)) :
    Persists (Binding.quantified info token quantifier left query)
      (Binding.quantified info token quantifier left' query') := by
  have hlength : query'.output.length = query.output.length := by
    simpa using (List.Forall₂.length_eq hcolumns).symm
  unfold Binding.quantified
  by_cases hone : query.output.length = 1
  · obtain ⟨column, hcolumn⟩ := List.length_eq_one_iff.1 hone
    obtain ⟨column', hcolumn'⟩ := List.length_eq_one_iff.1 (hlength.trans hone)
    rw [hcolumn, hcolumn'] at hcolumns
    obtain ⟨hfilled, -⟩ := List.forall₂_cons.1 hcolumns
    rw [singleColumn_of_one _ hcolumn, singleColumn_of_one _ hcolumn', pure_bind, pure_bind]
    cases token.bind fun it => BinaryOperator.comparison? it.kind with
    | none => exact refl _
    | some operator =>
      have hresult : operator.result? left.type column.type = none →
          operator.result? left'.type column'.type = none :=
        BinaryOperator.result?_of_filled hleft hfilled
      exact typeOrReport (by rfl) hresult
  · rw [singleColumn_of_ne _ hone, singleColumn_of_ne _ (hlength ▸ hone), hlength, bind_assoc,
      bind_assoc]
    apply (refl _).behind
    all_goals
      intro _ env
      rw [pure_bind]
      cases token.bind fun it => BinaryOperator.comparison? it.kind with
      | none => exact .missingExpr
      | some operator => exact silent_compare info operator _ quantifier _

/-! ### Calls -/

section Calls

variable {types types' : List SqlType}

/-- A call that fits several overloads is not reported if an argument is not known. -/
theorem silent_ambiguousCall {name : String} {candidates : List String} {env : Env}
    (hany : types.any SqlType.isUnknown = true) :
    Silent env (ambiguousCall span name types candidates) := by
  rw [ambiguousCall, if_pos hany]
  exact .badSymbol

/-- What is reported of the choice of a function persists as the arguments get known types. -/
theorem overload (name : String) (functions : List Function) (h : AllFilled types types') :
    Persists (Binding.overload span name types functions)
      (Binding.overload span name types' functions) := by
  rcases Overload.select_of_filled (fun it : Function => parameterTypes it.parameters) h functions with
    rfl | ⟨hany, hnone⟩
  · exact refl _
  · unfold Binding.overload
    cases hselect : Overload.select (fun it : Function => parameterTypes it.parameters) types
        functions with
    | selected it => exact of_silent (fun _ => .pure) _
    | ambiguous candidates =>
      exact of_silent (fun _ => (silent_ambiguousCall hany).bind fun _ => .pure) _
    | noMatch =>
      rw [hnone hselect]
      have hreport : Persists (Binding.unresolved span (.noOverload .function name types) name)
          (Binding.unresolved span (.noOverload .function name types') name) := unresolved name rfl
      exact hreport.behind (fun _ _ => .pure) fun _ _ => .pure

/-- What is reported of an aggregate persists as the arguments get known types. -/
theorem aggregateType (it : Aggregate) (h : AllFilled types types') :
    Persists (Binding.aggregateType span it types) (Binding.aggregateType span it types') := by
  unfold Binding.aggregateType
  cases hresult : aggregateResult? it.signature types with
  | some type => exact of_silent (fun _ => .pure) _
  | none =>
    rw [aggregateResult?_of_filled h hresult]
    have hreport : Persists (Binding.report span (.noOverload .aggregate it.name types))
        (Binding.report span (.noOverload .aggregate it.name types')) := report rfl
    exact hreport.behind (fun _ _ => .pure) fun _ _ => .pure

/-- What is reported of a call persists as the arguments get known types. -/
theorem call (ident : Option Token) {arguments arguments' : List Bound.Expr}
    (h : AllFilled (arguments.map Bound.Expr.type) (arguments'.map Bound.Expr.type)) :
    Persists (Binding.call info ident arguments) (Binding.call info ident arguments') := by
  unfold Binding.call
  cases ident with
  | none => exact refl _
  | some token =>
    refine before (fun _ => .currentScope) fun scope => before (fun _ => .caseSensitive) fun cased => ?_
    cases scope.functionsNamed cased token.ident with
    | cons function functions =>
      exact (overload token.ident (function :: functions) h).behind (fun _ _ => .pure) fun _ _ => .pure
    | nil =>
      cases scope.aggregate? cased token.ident with
      | some it => exact (aggregateType it h).behind (fun _ _ => .pure) fun _ _ => .pure
      | none => exact (refl _).behind (fun _ _ => .pure) fun _ _ => .pure

/-- What is reported of the choice of a method persists as target and arguments get known types. -/
theorem methodNamed (token : Token) {type type' : SqlType} (htype : type.Filled type')
    (h : AllFilled types types') :
    Persists (Binding.methodNamed span type token types) (Binding.methodNamed span type' token types') := by
  rcases htype with rfl | rfl
  · exact of_silent (fun _ => .badSymbol) _
  · unfold Binding.methodNamed
    cases type'.isUnknown with
    | true => exact refl _
    | false =>
      refine before (fun _ => .caseSensitive) fun cased => before (fun _ => .methodsOf) fun found => ?_
      cases Matching.select cased Method.name token.ident found with
      | nil => exact refl _
      | cons method methods =>
        dsimp only
        rcases Overload.select_of_filled (fun it : Method => parameterTypes it.parameters) h
          (method :: methods) with rfl | ⟨hany, hnone⟩
        · exact refl _
        · cases hselect : Overload.select (fun it : Method => parameterTypes it.parameters) types
              (method :: methods) with
          | selected it => exact of_silent (fun _ => .pure) _
          | ambiguous candidates => exact of_silent (fun _ => silent_ambiguousCall hany) _
          | noMatch =>
            rw [hnone hselect]
            exact unresolved token.ident rfl

/-- What is reported of a method call persists as target and arguments get known types. -/
theorem method (ident : Option Token) {target target' : Bound.Expr}
    {arguments arguments' : List Bound.Expr} (htarget : target.type.Filled target'.type)
    (harguments : AllFilled (arguments.map Bound.Expr.type) (arguments'.map Bound.Expr.type)) :
    Persists (Binding.method info ident target arguments)
      (Binding.method info ident target' arguments') := by
  unfold Binding.method
  cases ident with
  | none => exact refl _
  | some token =>
    exact (methodNamed token htarget harguments).behind (fun _ _ => .pure) fun _ _ => .pure

end Calls

end Persists

/-! ## Rules with other operands -/

/-- **The same rule with other operands**: the types of those operands that are not known are filled in,
and all else is the same. -/
inductive Replaced : {α : Type} → BindM α → BindM α → Prop where
  | unary (info : NodeInfo) (token : Option Token) {operand operand' : Bound.Expr}
      (h : operand.type.Filled operand'.type) :
      Replaced (unary info token operand) (unary info token operand')
  | binary (info : NodeInfo) (token : Option Token) (negated : Bool)
      {left left' right right' : Bound.Expr} (hleft : left.type.Filled left'.type)
      (hright : right.type.Filled right'.type) :
      Replaced (binary info token negated left right) (binary info token negated left' right')
  | condition (span : Span) (place : ConditionPlace) {condition condition' : Bound.Expr}
      (h : condition.type.Filled condition'.type) :
      Replaced (checkCondition span place condition) (checkCondition span place condition')
  | cast (info : NodeInfo) (target : Option Ast.TypeName) {operand operand' : Bound.Expr}
      (h : operand.type.Filled operand'.type) :
      Replaced (cast info operand target) (cast info operand' target)
  | label (written : Option Ast.Expr) {input input' : Option Bound.Expr}
      {condition condition' : Bound.Expr}
      (hinput : Option.Rel (fun it it' => it.type.Filled it'.type) input input')
      (hcondition : condition.type.Filled condition'.type) :
      Replaced (checkLabel input written condition) (checkLabel input' written condition')
  | columns (span : Span) (ordinal : Nat) {left left' right right' : SqlType}
      (hleft : left.Filled left') (hright : right.Filled right') :
      Replaced (mergeType span ordinal left right) (mergeType span ordinal left' right')
  | quantified (info : NodeInfo) (token : Option Token) (quantifier : Quantifier)
      {left left' : Bound.Expr} {query query' : Bound.Query} (hleft : left.type.Filled left'.type)
      (hcolumns : AllFilled (query.output.map QueryColumn.type)
        (query'.output.map QueryColumn.type)) :
      Replaced (quantified info token quantifier left query)
        (quantified info token quantifier left' query')
  /-- Functions with any overloads, and aggregates. -/
  | call (info : NodeInfo) (ident : Option Token) {arguments arguments' : List Bound.Expr}
      (h : AllFilled (arguments.map Bound.Expr.type) (arguments'.map Bound.Expr.type)) :
      Replaced (call info ident arguments) (call info ident arguments')
  | method (info : NodeInfo) (ident : Option Token) {target target' : Bound.Expr}
      {arguments arguments' : List Bound.Expr} (htarget : target.type.Filled target'.type)
      (harguments : AllFilled (arguments.map Bound.Expr.type) (arguments'.map Bound.Expr.type)) :
      Replaced (method info ident target arguments) (method info ident target' arguments')

/-- **No rule reports anything because of operands that are not known**: whatever they are replaced by, it
reports as much. -/
theorem Replaced.persists {body body' : BindM α} (h : Replaced body body') : Persists body body' := by
  cases h with
  | unary info token h => exact .unary info token h
  | binary info token negated hleft hright => exact .binary info token negated hleft hright
  | condition span place h => exact .checkCondition place h
  | cast info target h => exact .cast info target h
  | label written hinput hcondition => exact .checkLabel written hinput hcondition
  | columns span ordinal hleft hright => exact .mergeType ordinal hleft hright
  | quantified info token quantifier hleft hcolumns =>
    exact .quantified info token quantifier hleft hcolumns
  | call info ident h => exact .call info ident h
  | method info ident htarget harguments => exact .method info ident htarget harguments

/-! ## Chains of properties and methods -/

/-- A property of what is no bare name is one of a value. -/
theorem expr_property {target : Ast.Expr} (h : qualifier? target = none) (info : NodeInfo)
    (token : Token) : expr (.property info (some target) (some token)) = (do
      let target ← expr target
      recordExpr info (← property target token)) := by
  rw [expr, h, pure_bind]

/-- A property without a name is missing, and what it is a property of is not bound. -/
theorem expr_nameless (target : Option Ast.Expr) (info : NodeInfo) :
    expr (.property info target none) = (do recordExpr info (← missingExpr)) := by
  cases target with
  | none => rw [expr]
  | some target =>
    rw [expr]
    simp

/-- A property of a value whose type is not known is bad, which is not reported. -/
theorem property_of_unknown {target : Bound.Expr} (h : target.type = .unknown) (token : Token)
    (env : Env) : Silent env (property target token) ∧
      ∀ pass, (property target token env pass).1.type = .unknown := by
  have heq : property target token = (do return .property target (← badSymbol token.ident)) := by
    rw [property, h]
    rfl
  rw [heq]
  exact ⟨Silent.badSymbol.bind fun _ => .pure, fun _ => rfl⟩

/-- A method of a value whose type is not known is bad, which is not reported. -/
theorem method_of_unknown {target : Bound.Expr} (h : target.type = .unknown) (info : NodeInfo)
    (ident : Option Token) (arguments : List Bound.Expr) (env : Env) :
    Silent env (method info ident target arguments) ∧
      ∀ pass, (method info ident target arguments env pass).1.type = .unknown := by
  cases ident with
  | none => exact ⟨.missingExpr, fun _ => rfl⟩
  | some token =>
    have heq : method info (some token) target arguments =
        (do return .method target (← badSymbol token.ident) arguments) := by
      rw [method, h]
      rfl
    rw [heq]
    exact ⟨Silent.badSymbol.bind fun _ => .pure, fun _ => rfl⟩

/-- **A chain** of properties and methods, each behind the one before. -/
inductive Chain where
  | target
  | property (before : Chain) (info : NodeInfo) (ident : Option Token)
  | method (before : Chain) (info : NodeInfo) (ident : Option Token) (arguments : Option Ast.Arguments)

namespace Chain

/-- The expression that a chain makes of its target. -/
def written (it : Ast.Expr) : Chain → Ast.Expr
  | .target => it
  | .property before info ident => .property info (some (before.written it)) ident
  | .method before info ident arguments => .method info (some (before.written it)) ident arguments

/-- **What the parts of a chain report**: its target, and each list of arguments behind what comes before
it. Nothing is bound in front of a property without a name. -/
def reports (it : Ast.Expr) (env : Env) (pass : Pass) : Chain → List Diagnostic
  | .target => added (expr it) env pass
  | .property before _ (some _) => before.reports it env pass
  | .property _ _ none => []
  | .method before _ _ arguments => before.reports it env pass ++
      added (argumentList arguments) env (expr (before.written it) env pass).2

variable {it : Ast.Expr} {env : Env} {pass : Pass}

/-- A chain is a bare name only if it is its target, and that is one. -/
theorem qualifier?_written (h : qualifier? it = none) (chain : Chain) :
    qualifier? (chain.written it) = none := by
  cases chain with
  | target => exact h
  | property before info ident => rfl
  | method before info ident arguments => rfl

/-- **A chain behind a target whose type is not known** has a type that is not known, and reports what its
parts report. -/
theorem added_eq (hbare : qualifier? it = none) (hunknown : (expr it env pass).1.type = .unknown)
    (chain : Chain) : (expr (chain.written it) env pass).1.type = .unknown ∧
      added (expr (chain.written it)) env pass = chain.reports it env pass := by
  induction chain with
  | target => exact ⟨hunknown, rfl⟩
  | property before info ident ih =>
    obtain ⟨htype, hadded⟩ := ih
    cases ident with
    | none =>
      have hsilent : Silent env (do recordExpr info (← missingExpr)) :=
        Silent.missingExpr.bind fun _ => .recordExpr
      rw [written, expr_nameless]
      exact ⟨rfl, hsilent.added_eq pass⟩
    | some token =>
      obtain ⟨hproperty, hresult⟩ := property_of_unknown htype token env
      have hsilent : Silent env (do
          recordExpr info (← Binding.property (expr (before.written it) env pass).1 token)) :=
        hproperty.bind fun _ => .recordExpr
      rw [written, expr_property (qualifier?_written hbare before)]
      constructor
      · exact hresult _
      · rw [added_behind hsilent, hadded]
        rfl
  | method before info ident arguments ih =>
    obtain ⟨htype, hadded⟩ := ih
    have hmethod := fun arguments => method_of_unknown htype info ident arguments env
    have hsilent : ∀ arguments, Silent env (do
        recordExpr info (← Binding.method info ident (expr (before.written it) env pass).1 arguments)) :=
      fun arguments => (hmethod arguments).1.bind fun _ => .recordExpr
    have harguments : Grows env (argumentList arguments) := (argumentList_notes arguments env).grows
    rw [written, expr, optionalExpr]
    constructor
    · exact (hmethod _).2 _
    · rw [(expr_notes _ env).grows.added_bind, hadded, added_behind (hsilent _)]
      · rfl
      · exact harguments.bind fun arguments => (hsilent arguments).grows

end Chain

/-! ## No follow-up errors -/

/-- **What is not known causes no errors of its own.** What a rule reports of operands, of which some have
types that are not known, it reports whatever types they are given instead: an error of the same category
at the same place. And a chain of properties and methods, of any length, behind a target that is no bare
name and has a type that is not known, reports what its target reports and then what its lists of arguments
do, and nothing besides. -/
theorem unknown_causes_no_errors :
    (∀ {α : Type} {body body' : BindM α}, Replaced body body' → ∀ (env : Env) (pass : Pass),
      ∀ it ∈ added body env pass, ∃ it' ∈ added body' env pass,
        it'.span = it.span ∧ it'.category = it.category) ∧
    ∀ (target : Ast.Expr) (env : Env) (pass : Pass), qualifier? target = none →
      (expr target env pass).1.type = .unknown →
      ∀ chain : Chain, (expr (chain.written target) env pass).1.type = .unknown ∧
        added (expr (chain.written target)) env pass = chain.reports target env pass := by
  constructor
  · intro α body body' hreplaced env pass
    exact hreplaced.persists env pass
  · intro target env pass hbare hunknown chain
    exact chain.added_eq hbare hunknown

/-- Surroundings in which there is one function, `f` of two integers. -/
def pairEnv : Env :=
  ⟨{}, ⟨0, { (default : Catalog) with
    functions := [⟨1, "f", [⟨2, "a", .int32⟩, ⟨3, "b", .int32⟩], .int32⟩] }, []⟩⟩

/-- An identifier at the start of a text. -/
def identifierToken (text : String) : Token :=
  ⟨.identifier, text, 0⟩

/-- The name `x`, which refers to nothing, in parentheses. -/
def missingName : Ast.Expr :=
  .parenthesized default (some (.name default (some (identifierToken "x"))))

/-- `f` does not take a truth value, whatever its first argument may be, and in `(x).a.b()` only the name
is reported. -/
theorem unknown_causes_no_errors_pair :
    (∃ it' ∈ added (call default (some (identifierToken "f"))
        [one, .literal (.boolean true) .boolean]) pairEnv default,
      it'.category = .typeMismatch) ∧
    (added (expr ((Chain.method (.property .target default (some (identifierToken "a"))) default
        (some (identifierToken "b")) none).written missingName)) pairEnv default).map Diagnostic.message =
      ["column 'x' does not exist"] := by
  obtain ⟨hrules, hchains⟩ := unknown_causes_no_errors
  constructor
  · have hcall : Replaced
        (call default (some (identifierToken "f"))
          [.name (.bad 9 "y"), .literal (.boolean true) .boolean])
        (call default (some (identifierToken "f")) [one, .literal (.boolean true) .boolean]) :=
      .call default (some (identifierToken "f")) (.cons (.inl rfl) (.cons (.inr rfl) .nil))
    have hadded : added (call default (some (identifierToken "f"))
        [.name (.bad 9 "y"), .literal (.boolean true) .boolean]) pairEnv default =
        [⟨default, .noOverload .function "f" [.unknown, .boolean]⟩] := rfl
    obtain ⟨it', hit', -, hcategory⟩ := hrules hcall pairEnv default _
      (hadded ▸ List.mem_singleton_self _)
    exact ⟨it', hit', hcategory⟩
  · have hunknown : (expr missingName pairEnv default).1.type = .unknown := rfl
    have hmissing : (added (expr missingName) pairEnv default).map Diagnostic.message =
        ["column 'x' does not exist"] := by rfl
    obtain ⟨-, hadded⟩ := hchains missingName pairEnv default rfl hunknown
      (.method (.property .target default (some (identifierToken "a"))) default
        (some (identifierToken "b")) none)
    rw [hadded, ← hmissing]
    rfl

end Binding

end QuerySemantics
