import QuerySemantics.Binding.Basic
import QuerySemantics.Proofs.Binding.Logic
import QuerySemantics.Proofs.Binding.Overload
import QuerySemantics.Proofs.Scope.Offered

/-!
# Rules leave the log alone

The rules for nodes whose parts are bound already look names up, compare types and report problems,
but record nothing. What an expression refers to by such a rule is found in the scope at hand.

## Main results

* `Binding.Quiet.name`, `Binding.Quiet.call`, `Binding.Quiet.binary` and fellows: the rules for
  expressions are quiet and give grounded expressions.
* `Binding.Quiet.combine`, `Binding.Quiet.limit`, `Binding.Quiet.tableNamed` and fellows: the rules
  for queries and tables are quiet.
-/

set_option autoImplicit false

namespace QuerySemantics

/-! ## New output columns -/

namespace Supply.Advances

/-- Expanding the columns of an instance takes identities. -/
theorem expandColumns (owner : TableInstance) (columns : List InstanceColumn) :
    Advances (Binding.expandColumns owner columns) := by
  induction columns with
  | nil => exact .pure _
  | cons column rest ih => exact (queryColumn _ _).bind fun _ => ih.bind fun _ => .pure _

/-- Expanding a wildcard takes identities. -/
theorem expand (instances : List TableInstance) : Advances (Binding.expand instances) := by
  induction instances with
  | nil => exact .pure _
  | cons table rest ih => exact (expandColumns _ _).bind fun _ => ih.bind fun _ => .pure _

/-- Copying columns takes identities. -/
theorem copyColumns (columns : List QueryColumn) : Advances (Binding.copyColumns columns) := by
  induction columns with
  | nil => exact .pure _
  | cons column rest ih => exact (queryColumn _ _).bind fun _ => ih.bind fun _ => .pure _

end Supply.Advances

/-! ## Grounded expressions -/

/-- A bad symbol is grounded anywhere. -/
theorem Symbol.GroundedIn.bad (scope : Scope) (id : SymbolId) (name : String) :
    (Symbol.bad id name).GroundedIn scope :=
  .of_kind rfl

/-- An expression that refers to nothing is grounded anywhere. -/
theorem Bound.Expr.GroundedIn.of_none {it : Bound.Expr} {scope : Scope} (h : it.symbol? = none) :
    it.GroundedIn scope := by
  intro symbol hsymbol
  rw [h] at hsymbol
  cases hsymbol

/-- An expression is grounded with its symbol. -/
theorem Bound.Expr.GroundedIn.of_symbol {it : Bound.Expr} {symbol : Symbol} {scope : Scope}
    (h : it.symbol? = some symbol) (hsymbol : symbol.GroundedIn scope) : it.GroundedIn scope := by
  intro other hother
  cases h.symm.trans hother
  exact hsymbol

namespace Binding

namespace Quiet

variable {env : Env}

/-- A placeholder for a missing expression is grounded. -/
theorem missing : Quiet env Binding.missingExpr (·.GroundedIn env.scope) :=
  missingExpr.mono fun _ ⟨id, h⟩ => h ▸ .of_symbol rfl (.bad _ id _)

/-- A name that does not resolve gives a bad symbol. -/
theorem unresolved (span : Span) (problem : Problem) (name : String) :
    Quiet env (unresolved span problem name) fun symbol => ∃ id, symbol = .bad id name :=
  (report span problem).bind fun _ _ => badSymbol name

/-! ## Names and variables -/

/-- A name is resolved quietly, to what the scope at hand offers. -/
theorem name (ident : Option Token) : Quiet env (name ident) (·.GroundedIn env.scope) := by
  unfold Binding.name
  split
  · exact missing
  · refine currentScope.bind fun scope hscope => caseSensitive.bind fun cased _ => ?_
    subst hscope
    split
    · rename_i symbol hfound
      exact .pure (.of_symbol rfl (.of_mem (Scope.mem_offered_of_resolveValue hfound)))
    · exact (unresolved _ _ _).bind fun _ ⟨id, h⟩ => .pure (.of_symbol rfl (h ▸ .bad _ id _))
    · exact (unresolved _ _ _).bind fun _ ⟨id, h⟩ => .pure (.of_symbol rfl (h ▸ .bad _ id _))

/-- A parameter is resolved quietly. -/
theorem hostVariable (info : NodeInfo) (ident : Option Token) :
    Quiet env (hostVariable info ident) (·.GroundedIn env.scope) := by
  unfold Binding.hostVariable
  split
  · exact missing
  · refine currentScope.bind fun scope hscope => caseSensitive.bind fun cased _ => ?_
    subst hscope
    split
    · rename_i found hfound
      exact .pure (.of_symbol rfl (.of_mem (Scope.mem_offered_of_hostVariable? hfound)))
    · exact (unresolved _ _ _).bind fun _ ⟨id, h⟩ => .pure (.of_symbol rfl (h ▸ .bad _ id _))

/-- The column of a visible table instance is grounded. -/
theorem columnOf {table : TableInstance} (token : Token)
    (htable : .tableInstance table ∈ env.scope.visible) :
    Quiet env (columnOf table token) (·.GroundedIn env.scope) := by
  refine caseSensitive.bind fun cased _ => ?_
  split
  · rename_i column hcolumn
    have hmem : column ∈ table.columns :=
      Matching.mem_of_mem_select (hcolumn ▸ List.mem_singleton_self _)
    exact .pure (.of_mem (Scope.mem_offered_of_column htable hmem))
  · split
    · exact (badSymbol _).mono fun _ ⟨id, h⟩ => h ▸ .bad _ id _
    · exact (unresolved _ _ _).mono fun _ ⟨id, h⟩ => h ▸ .bad _ id _
  · exact (unresolved _ _ _).mono fun _ ⟨id, h⟩ => h ▸ .bad _ id _

/-! ## Members -/

/-- A property is looked up quietly. -/
theorem propertyNamed (type : SqlType) (token : Token) :
    Quiet env (propertyNamed type token) (·.GroundedIn env.scope) := by
  unfold Binding.propertyNamed
  split
  · exact (badSymbol _).mono fun _ ⟨id, h⟩ => h ▸ .bad _ id _
  · refine caseSensitive.bind fun cased _ => (propertiesOf type).bind fun found _ => ?_
    split
    · exact .pure (.of_kind rfl)
    · exact (unresolved _ _ _).mono fun _ ⟨id, h⟩ => h ▸ .bad _ id _
    · exact (unresolved _ _ _).mono fun _ ⟨id, h⟩ => h ▸ .bad _ id _

/-- A property is bound quietly. -/
theorem property (target : Bound.Expr) (token : Token) :
    Quiet env (property target token) (·.GroundedIn env.scope) :=
  (propertyNamed _ _).bind fun _ h => .pure (.of_symbol rfl h)

/-- An ambiguous call stands for an unknown symbol. -/
theorem ambiguousCall (span : Span) (name : String) (arguments : List SqlType)
    (candidates : List String) : Quiet env (ambiguousCall span name arguments candidates)
      fun symbol => ∃ id, symbol = .bad id name := by
  unfold Binding.ambiguousCall
  split
  · exact badSymbol name
  · exact unresolved _ _ _

/-- A method is looked up quietly. -/
theorem methodNamed (span : Span) (type : SqlType) (token : Token) (arguments : List SqlType) :
    Quiet env (methodNamed span type token arguments) (·.GroundedIn env.scope) := by
  unfold Binding.methodNamed
  split
  · exact (badSymbol _).mono fun _ ⟨id, h⟩ => h ▸ .bad _ id _
  · refine caseSensitive.bind fun cased _ => (methodsOf type).bind fun found _ => ?_
    split
    · exact (unresolved _ _ _).mono fun _ ⟨id, h⟩ => h ▸ .bad _ id _
    · split
      · exact .pure (.of_kind rfl)
      · exact (ambiguousCall _ _ _ _).mono fun _ ⟨id, h⟩ => h ▸ .bad _ id _
      · exact (unresolved _ _ _).mono fun _ ⟨id, h⟩ => h ▸ .bad _ id _

/-- A method call is bound quietly. -/
theorem method (info : NodeInfo) (ident : Option Token) (target : Bound.Expr)
    (arguments : List Bound.Expr) :
    Quiet env (method info ident target arguments) (·.GroundedIn env.scope) := by
  unfold Binding.method
  split
  · exact missing
  · exact (methodNamed _ _ _ _).bind fun _ h => .pure (.of_symbol rfl h)

/-! ## Calls -/

/-- The overload that is chosen is one of the candidates. -/
theorem overload (span : Span) (name : String) (arguments : List SqlType)
    {functions : List Function} (hfunctions : ∀ it ∈ functions, .function it ∈ env.scope.offered) :
    Quiet env (overload span name arguments functions) (·.1.GroundedIn env.scope) := by
  unfold Binding.overload
  split
  · rename_i it hselected
    exact .pure (.of_mem (hfunctions it (Overload.select_selected hselected).1))
  · exact (ambiguousCall _ _ _ _).bind fun _ ⟨id, h⟩ => .pure (h ▸ .bad _ id _)
  · exact (unresolved _ _ _).bind fun _ ⟨id, h⟩ => .pure (h ▸ .bad _ id _)

/-- An aggregate is typed quietly. -/
theorem aggregateType (span : Span) (it : Aggregate) (arguments : List SqlType) :
    Quiet env (aggregateType span it arguments) fun _ => True := by
  unfold Binding.aggregateType
  split
  · exact .pure trivial
  · exact (report _ _).bind fun _ _ => .pure trivial

/-- A call is bound quietly. -/
theorem call (info : NodeInfo) (ident : Option Token) (arguments : List Bound.Expr) :
    Quiet env (call info ident arguments) (·.GroundedIn env.scope) := by
  unfold Binding.call
  split
  · exact missing
  · refine currentScope.bind fun scope hscope => caseSensitive.bind fun cased _ => ?_
    subst hscope
    split
    · split
      · exact (aggregateType _ _ _).bind fun _ _ => .pure (.of_symbol rfl (.of_kind rfl))
      · exact (unresolved _ _ _).bind fun _ ⟨id, h⟩ => .pure (.of_symbol rfl (h ▸ .bad _ id _))
    · refine (overload _ _ _ fun it hit => ?_).bind fun _ h => .pure (.of_symbol rfl h)
      exact Scope.mem_offered_of_functionsNamed hit

/-- A count of rows is bound quietly. -/
theorem countAll (info : NodeInfo) (ident : Option Token) :
    Quiet env (countAll info ident) (·.GroundedIn env.scope) := by
  unfold Binding.countAll
  split
  · exact missing
  · refine currentScope.bind fun scope hscope => caseSensitive.bind fun cased _ => ?_
    split
    · exact (unresolved _ _ _).bind fun _ ⟨id, h⟩ => .pure (.of_symbol rfl (h ▸ .bad _ id _))
    · split
      · exact .pure (.of_symbol rfl (.of_kind rfl))
      · exact (report _ _).bind fun _ _ => .pure (.of_symbol rfl (.of_kind rfl))

/-! ## Literals, operators and conversions -/

/-- A literal is read quietly. -/
theorem literal (token : Option Token) : Quiet env (literal token) (·.GroundedIn env.scope) := by
  unfold Binding.literal
  split
  · exact missing
  · split
    · exact .pure (.of_none rfl)
    · exact (report _ _).bind fun _ _ => .pure (.of_none rfl)

/-- A type that there is or is not is taken quietly. -/
theorem typeOrReport (span : Span) (problem : Problem) (result : Option SqlType) :
    Quiet env (typeOrReport span problem result) fun _ => True := by
  unfold Binding.typeOrReport
  split
  · exact .pure trivial
  · exact (report _ _).bind fun _ _ => .pure trivial

/-- A unary operator is bound quietly. -/
theorem unary (info : NodeInfo) (token : Option Token) (operand : Bound.Expr) :
    Quiet env (unary info token operand) (·.GroundedIn env.scope) := by
  unfold Binding.unary
  split
  · exact missing
  · exact (typeOrReport _ _ _).bind fun _ _ => .pure (.of_none rfl)

/-- A binary operator is bound quietly. -/
theorem binary (info : NodeInfo) (token : Option Token) (negated : Bool)
    (left right : Bound.Expr) :
    Quiet env (binary info token negated left right) (·.GroundedIn env.scope) := by
  unfold Binding.binary
  split
  · exact missing
  · exact (typeOrReport _ _ _).bind fun _ _ => .pure (.of_none rfl)

/-- A type is resolved quietly. -/
theorem typeNamed (ident : Option Token) : Quiet env (typeNamed ident) fun _ => True := by
  unfold Binding.typeNamed
  split
  · exact .pure trivial
  · exact currentScope.bind fun _ _ => typeOrReport _ _ _

/-- A conversion is bound quietly. -/
theorem cast (info : NodeInfo) (operand : Bound.Expr) (target : Option Ast.TypeName) :
    Quiet env (cast info operand target) (·.GroundedIn env.scope) :=
  (typeNamed _).bind fun _ _ => (typeOrReport _ _ _).bind fun _ _ => .pure (.of_none rfl)

/-- A condition is checked quietly. -/
theorem checkCondition (span : Span) (place : ConditionPlace) (condition : Bound.Expr) :
    Quiet env (checkCondition span place condition) fun _ => True := by
  unfold Binding.checkCondition
  split
  · exact report _ _
  · exact .pure trivial

/-- A label of a `CASE` is checked quietly. -/
theorem checkLabel (input : Option Bound.Expr) (written : Option Ast.Expr)
    (condition : Bound.Expr) : Quiet env (checkLabel input written condition) fun _ => True := by
  unfold Binding.checkLabel
  split
  · exact .pure trivial
  · exact checkCondition _ _ _
  · split
    · exact report _ _
    · exact .pure trivial

/-- A `CASE` is typed quietly. -/
theorem caseOf (info : NodeInfo) (input : Option Bound.Expr) (labels : List Bound.CaseLabel)
    (otherwise : Option Bound.Expr) :
    Quiet env (caseOf info input labels otherwise) (·.GroundedIn env.scope) := by
  unfold Binding.caseOf
  split
  · exact .pure (.of_none rfl)
  · exact (report _ _).bind fun _ _ => .pure (.of_none rfl)

/-! ## Subselects -/

/-- The column of a query that stands for a value is taken quietly. -/
theorem singleColumn (span : Span) (query : Bound.Query) :
    Quiet env (singleColumn span query) fun _ => True := by
  unfold Binding.singleColumn
  split
  · exact .pure trivial
  · exact (report _ _).bind fun _ _ => .pure trivial

/-- A subselect is bound quietly. -/
theorem subselect (info : NodeInfo) (query : Bound.Query) :
    Quiet env (subselect info query) (·.GroundedIn env.scope) :=
  (singleColumn _ _).bind fun _ _ => .pure (.of_none rfl)

/-- A quantified comparison is bound quietly. -/
theorem quantified (info : NodeInfo) (token : Option Token) (quantifier : Quantifier)
    (left : Bound.Expr) (query : Bound.Query) :
    Quiet env (quantified info token quantifier left query) (·.GroundedIn env.scope) := by
  refine (singleColumn _ _).bind fun _ _ => ?_
  split
  · exact missing
  · exact (typeOrReport _ _ _).bind fun _ _ => .pure (.of_none rfl)

/-! ## Tables -/

/-- A common table that a name refers to is declared in the scope at hand. -/
theorem tableNamed (token : Token) : Quiet env (tableNamed token)
    fun source => ∀ table, source = .common table → Declared.ofCommonTable table ∈ env.scope.declares := by
  refine currentScope.bind fun scope hscope => caseSensitive.bind fun cased _ => ?_
  subst hscope
  split
  · rename_i found hfound
    refine .pure fun table htable => ?_
    cases htable
    exact Scope.declares_of_commonTable? hfound
  · split
    · exact .pure fun table htable => nomatch htable
    · refine (report _ _).bind fun _ _ => (badInstance _).mono fun _ ⟨id, h⟩ table htable => ?_
      cases h.symm.trans htable

/-! ## Queries -/

/-- The qualifier of a wildcard is resolved quietly. -/
theorem qualifier (instances : List TableInstance) (token : Token) :
    Quiet env (qualifier instances token) fun _ => True := by
  refine caseSensitive.bind fun cased _ => ?_
  split
  · exact .pure trivial
  · exact (report _ _).bind fun _ _ => .pure trivial
  · exact (report _ _).bind fun _ _ => .pure trivial

/-- A wildcard is expanded quietly. -/
theorem wildcardItem (instances : List TableInstance) (token : Option Token) :
    Quiet env (wildcardItem instances token) fun _ => True := by
  unfold Binding.wildcardItem
  split
  · exact (supply (.expand instances)).bind fun _ _ => .pure trivial
  · exact (qualifier _ _).bind fun _ _ => (supply (.expand _)).bind fun _ _ => .pure trivial

/-- A row limit is read quietly. -/
theorem limitValue (token : Option Token) : Quiet env (limitValue token) fun _ => True := by
  unfold Binding.limitValue
  split
  · exact .pure trivial
  · split
    · exact .pure trivial
    · exact (report _ _).bind fun _ _ => .pure trivial

/-- A row limit is put around a query quietly. -/
theorem limit (top : Option Ast.Top) (query : Bound.Query) :
    Quiet env (limit top query) fun _ => True := by
  unfold Binding.limit
  split
  · exact .pure trivial
  · exact (limitValue _).bind fun _ _ => .pure trivial

/-- The types of two columns are merged quietly. -/
theorem mergeType (span : Span) (ordinal : Nat) (left right : SqlType) :
    Quiet env (mergeType span ordinal left right) fun _ => True := by
  unfold Binding.mergeType
  split
  · exact .pure trivial
  · exact (report _ _).bind fun _ _ => .pure trivial

/-- Columns are merged quietly, pair by pair. -/
theorem mergePairs (span : Span) (ordinal : Nat) (pairs : List (QueryColumn × QueryColumn)) :
    Quiet env (mergePairs span ordinal pairs) fun _ => True := by
  induction pairs generalizing ordinal with
  | nil => exact .pure trivial
  | cons pair rest ih =>
    exact (mergeType _ _ _ _).bind fun _ _ => (supply (.queryColumn _ _)).bind fun _ _ =>
      (ih _).bind fun _ _ => .pure trivial

/-- The columns of two queries are merged quietly. -/
theorem mergeColumns (span : Span) (left right : List QueryColumn) :
    Quiet env (mergeColumns span left right) fun _ => True := by
  unfold Binding.mergeColumns
  split
  · exact mergePairs _ _ _
  · exact (report _ _).bind fun _ _ => supply (.copyColumns _)

/-- A set operation is bound quietly. -/
theorem combine (info : NodeInfo) (operator : Option SetOperator) (left right : Bound.Query) :
    Quiet env (combine info operator left right) fun _ => True :=
  (mergeColumns _ _ _).bind fun _ _ => .pure trivial

/-- The length of a column name list is checked quietly. -/
theorem checkNames (list : Option Ast.ColumnNames) (query : Bound.Query) :
    Quiet env (checkNames list query) fun _ => True := by
  unfold Binding.checkNames
  split
  · exact .pure trivial
  · split
    · exact report _ _
    · exact .pure trivial

end Quiet

end Binding

end QuerySemantics
