import QuerySemantics.Proofs.Binding.Lockstep

/-!
# The rules of binding in lockstep

Each rule makes the same of alike tokens and of the same bound parts.

## Main results

* `Binding.Lockstep.name`, `Binding.Lockstep.qualified`: names. A silent pass does not get behind a
  name that refers to nothing.
* `Binding.Lockstep.call`, `Binding.Lockstep.method`, `Binding.Lockstep.caseOf` and fellows: the other
  rules for expressions.
* `Binding.Lockstep.namedTable`, `Binding.Lockstep.wildcard`, `Binding.Lockstep.combine`,
  `Binding.Lockstep.define` and fellows: the rules for table references and queries.
-/

set_option autoImplicit false

namespace QuerySemantics

namespace Binding

variable {c : Coupling} {scope : Scope}

namespace Lockstep

/-! ## Names and variables -/

/-- Alike names are resolved in lockstep. -/
theorem name {ident ident' : Option Token} (h : Option.Rel c.token ident ident') :
    Lockstep c scope (name ident) (name ident') id := by
  cases h with
  | none => exact missingExpr
  | @some token token' h =>
    refine currentScope (caseSensitive ?_)
    rw [c.ident_eq h]
    rcases c.resolveValue_lift scope token.ident with hlift | ⟨hsilent, hnone⟩
    · rw [hlift]
      split
      · exact pure _
      · exact (unresolved _ _ (c.span_token h)).bind fun _ => pure _
      · exact (unresolved _ _ (c.span_token h)).bind fun _ => pure _
    · rw [hnone]
      exact of_stuck ((Stuck.unresolved hsilent _ _ _).bind fun _ => pure _)

/-- Alike parameters are resolved in lockstep. -/
theorem hostVariable {info info' : NodeInfo} {ident ident' : Option Token} (hinfo : c.info info info')
    (h : Option.Rel c.token ident ident') :
    Lockstep c scope (hostVariable info ident) (hostVariable info' ident') id := by
  cases h with
  | none => exact missingExpr
  | @some token token' h =>
    refine currentScope (caseSensitive ?_)
    rw [c.ident_eq h, c.hostVariable?_lift]
    split
    · exact pure _
    · exact (unresolved _ _ (c.span_info hinfo)).bind fun _ => pure _

/-! ## Qualified names -/

/-- Columns of one instance are looked up in lockstep. -/
theorem columnOf {token token' : Token} (table : TableInstance) (h : c.token token token') :
    Lockstep c scope (columnOf table token) (columnOf table token') id := by
  refine caseSensitive ?_
  rw [c.ident_eq h]
  split
  · exact pure _
  · split
    · exact badSymbol _
    · exact unresolved _ _ (c.span_token h)
  · exact unresolved _ _ (c.span_token h)

/-- A property of what cannot be resolved is made in lockstep. -/
theorem propertyOfBad {info info' : NodeInfo} {span span' : Span} (qualifier : String)
    (problem : Problem) (name : String) (hinfo : c.info info info') (hspan : c.span span span') :
    Lockstep c scope (propertyOfBad info qualifier span problem name)
      (propertyOfBad info' qualifier span' problem name) id :=
  (report problem hspan).bind fun _ => (badName qualifier).bind fun _ => (recordExpr _ hinfo).bind
    fun _ => (badSymbol name).bind fun _ => pure _

end Lockstep

/-- A silent pass does not make a property of what cannot be resolved: it would report that. -/
theorem Stuck.propertyOfBad {info info' : NodeInfo} (h : c.silent) (qualifier : String) (span : Span)
    (problem : Problem) (name : String) (hinfo : c.info info info') :
    Stuck c scope (propertyOfBad info qualifier span problem name) :=
  (Stuck.report h span problem).bind fun _ => (Lockstep.badName qualifier).bind fun _ =>
    (Lockstep.recordExpr _ hinfo).bind fun _ => (Lockstep.badSymbol name).bind fun _ => .pure _

namespace Lockstep

/-- **A decided qualifier**, where both passes look the same up. -/
theorem qualified {info info' : NodeInfo} {token token' member member' : Token}
    (hinfo : c.info info info') (htoken : c.token token token') (hmember : c.token member member')
    (hlift : (c.lift scope).resolveInstance c.options.caseSensitive token.ident =
      scope.resolveInstance c.options.caseSensitive token.ident) :
    Lockstep c scope (qualified info token member) (qualified info' token' member') id := by
  refine currentScope (caseSensitive ?_)
  dsimp only
  rw [c.ident_eq htoken, c.ident_eq hmember, hlift]
  split
  · exact (recordExpr _ hinfo).bind fun _ => (columnOf _ hmember).bind fun _ => pure _
  · exact (propertyOfBad _ _ _ hinfo (c.span_token htoken)).bind fun _ => pure _
  · rcases c.resolveValue_lift scope token.ident with hvalue | ⟨hsilent, hnone⟩
    · rw [hvalue]
      split
      · exact (propertyOfBad _ _ _ hinfo (c.span_token htoken)).bind fun _ => pure _
      · exact pure _
    · rw [if_pos (by rw [hnone]; rfl)]
      exact of_stuck ((Stuck.propertyOfBad hsilent _ _ _ _ hinfo).bind fun _ => pure _)

end Lockstep

/-- A qualifier that is no table instance is a value or nothing. -/
theorem qualified_of_notFound {env : Env} {info : NodeInfo} {token member : Token}
    (h : env.scope.resolveInstance env.options.caseSensitive token.ident = .notFound) (pass : Pass) :
    qualified info token member env pass =
      (if (env.scope.resolveValue env.options.caseSensitive token.ident).isNotFound then do
        return some (← propertyOfBad info token.ident token.span
          (.unresolvedName .tableOrColumn token.ident) member.ident)
      else return none : BindM (Option Bound.Expr)) env pass := by
  unfold Binding.qualified
  simp only [Binding.currentScope, Binding.caseSensitive, Bind.bind, ReaderT.bind, StateT.bind, h]

/-- **A value as qualifier** in a silent pass: it must be there, and so the target of the property is
bound as an expression. -/
theorem Stuck.qualified {info info' : NodeInfo} {token member : Token}
    {rest rest' : Option Bound.Expr → BindM Bound.Expr} (hsilent : c.silent) (hinfo : c.info info info')
    (hnone : scope.resolveInstance c.options.caseSensitive token.ident = .notFound)
    (hrest : ∀ decided, Lockstep c scope (rest decided) (rest' decided) id)
    (hundecided : Stuck c scope (rest none)) :
    Stuck c scope (qualified info token member >>= rest) := by
  intro pass
  change ¬c.Holds (rest (Binding.qualified info token member (c.env scope) pass).1 (c.env scope)
    (Binding.qualified info token member (c.env scope) pass).2).2
  rw [qualified_of_notFound hnone]
  split
  · have hbad : Stuck c scope (do
        return some (← Binding.propertyOfBad info token.ident token.span
          (.unresolvedName .tableOrColumn token.ident) member.ident)) :=
      (propertyOfBad hsilent _ _ _ _ hinfo).bind fun _ => .pure _
    exact hbad.bind hrest pass
  · exact hundecided pass

namespace Lockstep

/-! ## Members -/

/-- Properties of one type are looked up in lockstep. -/
theorem propertyNamed {token token' : Token} (type : SqlType) (h : c.token token token') :
    Lockstep c scope (propertyNamed type token) (propertyNamed type token') id := by
  unfold Binding.propertyNamed
  rw [c.ident_eq h]
  dsimp only
  split
  · exact badSymbol _
  · refine caseSensitive ((propertiesOf type).bind fun found => ?_)
    split
    · exact pure _
    · exact unresolved _ _ (c.span_token h)
    · exact unresolved _ _ (c.span_token h)

/-- Properties of one target are bound in lockstep. -/
theorem property {token token' : Token} (target : Bound.Expr) (h : c.token token token') :
    Lockstep c scope (property target token) (property target token') id :=
  (propertyNamed _ h).bind fun _ => pure _

/-- Ambiguous calls are reported in lockstep. -/
theorem ambiguousCall {span span' : Span} (name : String) (arguments : List SqlType)
    (candidates : List String) (h : c.span span span') :
    Lockstep c scope (ambiguousCall span name arguments candidates)
      (ambiguousCall span' name arguments candidates) id := by
  unfold Binding.ambiguousCall
  split
  · exact badSymbol _
  · exact unresolved _ _ h

/-- Methods of one type are looked up in lockstep. -/
theorem methodNamed {span span' : Span} {token token' : Token} (type : SqlType)
    (arguments : List SqlType) (hspan : c.span span span') (h : c.token token token') :
    Lockstep c scope (methodNamed span type token arguments)
      (methodNamed span' type token' arguments) id := by
  unfold Binding.methodNamed
  rw [c.ident_eq h]
  dsimp only
  split
  · exact badSymbol _
  · refine caseSensitive ((methodsOf type).bind fun found => ?_)
    split
    · exact unresolved _ _ (c.span_token h)
    · split
      · exact pure _
      · exact ambiguousCall _ _ _ hspan
      · exact unresolved _ _ hspan

/-- Method calls of one target are bound in lockstep. -/
theorem method {info info' : NodeInfo} {ident ident' : Option Token} (target : Bound.Expr)
    (arguments : List Bound.Expr) (hinfo : c.info info info') (h : Option.Rel c.token ident ident') :
    Lockstep c scope (method info ident target arguments) (method info' ident' target arguments)
      id := by
  cases h with
  | none => exact missingExpr
  | some h => exact (methodNamed _ _ (c.span_info hinfo) h).bind fun _ => pure _

/-! ## Calls -/

/-- A function is chosen in lockstep. -/
theorem overload {span span' : Span} (name : String) (arguments : List SqlType)
    (functions : List Function) (h : c.span span span') :
    Lockstep c scope (overload span name arguments functions)
      (overload span' name arguments functions) id := by
  unfold Binding.overload
  split
  · exact pure _
  · exact (ambiguousCall _ _ _ h).bind fun _ => pure _
  · exact (unresolved _ _ h).bind fun _ => pure _

/-- Aggregates of the same arguments are typed in lockstep. -/
theorem aggregateType {span span' : Span} (it : Aggregate) (arguments : List SqlType)
    (h : c.span span span') :
    Lockstep c scope (aggregateType span it arguments) (aggregateType span' it arguments) id := by
  unfold Binding.aggregateType
  split
  · exact pure _
  · exact (report _ h).bind fun _ => pure _

/-- Alike calls are bound in lockstep. -/
theorem call {info info' : NodeInfo} {ident ident' : Option Token} (arguments : List Bound.Expr)
    (hinfo : c.info info info') (h : Option.Rel c.token ident ident') :
    Lockstep c scope (call info ident arguments) (call info' ident' arguments) id := by
  cases h with
  | none => exact missingExpr
  | some h =>
    refine currentScope (caseSensitive ?_)
    dsimp only
    rw [c.ident_eq h, c.functionsNamed_lift, c.aggregate?_lift]
    split
    · split
      · exact (aggregateType _ _ (c.span_info hinfo)).bind fun _ => pure _
      · exact (unresolved _ _ (c.span_token h)).bind fun _ => pure _
    · exact (overload _ _ _ (c.span_info hinfo)).bind fun _ => pure _

/-- Alike counts of rows are bound in lockstep. -/
theorem countAll {info info' : NodeInfo} {ident ident' : Option Token} (hinfo : c.info info info')
    (h : Option.Rel c.token ident ident') :
    Lockstep c scope (countAll info ident) (countAll info' ident') id := by
  cases h with
  | none => exact missingExpr
  | some h =>
    refine currentScope (caseSensitive ?_)
    rw [c.ident_eq h, c.aggregate?_lift]
    split
    · exact (unresolved _ _ (c.span_token h)).bind fun _ => pure _
    · split
      · exact pure _
      · exact (report _ (c.span_info hinfo)).bind fun _ => pure _

/-! ## Literals, operators and conversions -/

/-- Alike literals are read in lockstep. -/
theorem literal {token token' : Option Token} (h : Option.Rel c.token token token') :
    Lockstep c scope (literal token) (literal token') id := by
  cases h with
  | none => exact missingExpr
  | some h =>
    unfold Binding.literal
    simp only [Likeness.value?_eq h, c.token_text_eq h]
    split
    · exact pure _
    · exact (report _ (c.span_token h)).bind fun _ => pure _

/-- A type that there is or is not is taken in lockstep. -/
theorem typeOrReport {span span' : Span} (problem : Problem) (result : Option SqlType)
    (h : c.span span span') :
    Lockstep c scope (typeOrReport span problem result) (typeOrReport span' problem result) id := by
  unfold Binding.typeOrReport
  split
  · exact pure _
  · exact (report _ h).bind fun _ => pure _

/-- Unary operators on one operand are bound in lockstep. -/
theorem unary {info info' : NodeInfo} {token token' : Option Token} (operand : Bound.Expr)
    (hinfo : c.info info info') (h : Option.Rel c.token token token') :
    Lockstep c scope (unary info token operand) (unary info' token' operand) id := by
  unfold Binding.unary
  rw [Likeness.bind_kind_eq UnaryOperator.ofToken? h]
  split
  · exact missingExpr
  · exact (typeOrReport _ _ (c.span_info hinfo)).bind fun _ => pure _

/-- Binary operators on the same operands are bound in lockstep. -/
theorem binary {info info' : NodeInfo} {token token' : Option Token} (negated : Bool)
    (left right : Bound.Expr) (hinfo : c.info info info') (h : Option.Rel c.token token token') :
    Lockstep c scope (binary info token negated left right) (binary info' token' negated left right)
      id := by
  unfold Binding.binary
  rw [Likeness.bind_kind_eq (BinaryOperator.ofToken? negated) h]
  split
  · exact missingExpr
  · exact (typeOrReport _ _ (c.span_info hinfo)).bind fun _ => pure _

/-- Alike names of types are resolved in lockstep. -/
theorem typeNamed {ident ident' : Option Token} (h : Option.Rel c.token ident ident') :
    Lockstep c scope (typeNamed ident) (typeNamed ident') id := by
  cases h with
  | none => exact pure _
  | some h =>
    refine currentScope ?_
    rw [c.ident_eq h, c.catalog_lift]
    exact typeOrReport _ _ (c.span_token h)

/-- Conversions of one operand are bound in lockstep. -/
theorem cast {info info' : NodeInfo} {target target' : Option Ast.TypeName} (operand : Bound.Expr)
    (hinfo : c.info info info') (h : Option.Rel (Ast.TypeName.Alike c.toLikeness) target target') :
    Lockstep c scope (cast info operand target) (cast info' operand target') id := by
  have hident : Option.Rel c.token (target.bind Ast.TypeName.ident)
      (target'.bind Ast.TypeName.ident) := by
    cases h with
    | none => exact .none
    | some h => exact h.ident
  exact (typeNamed hident).bind fun _ => (typeOrReport _ _ (c.span_info hinfo)).bind fun _ => pure _

/-- Conditions are checked in lockstep. -/
theorem checkCondition {span span' : Span} (place : ConditionPlace) (condition : Bound.Expr)
    (h : c.span span span') :
    Lockstep c scope (checkCondition span place condition) (checkCondition span' place condition)
      id := by
  unfold Binding.checkCondition
  split
  · exact report _ h
  · exact pure _

/-- Labels of a `CASE` are checked in lockstep. -/
theorem checkLabel {written written' : Option Ast.Expr} (input : Option Bound.Expr)
    (condition : Bound.Expr)
    (h : Option.Rel (fun it it' => c.span it.info.span it'.info.span) written written') :
    Lockstep c scope (checkLabel input written condition) (checkLabel input written' condition)
      id := by
  cases h with
  | none => cases input <;> exact pure _
  | some h =>
    cases input with
    | none => exact checkCondition _ _ h
    | some input =>
      unfold Binding.checkLabel
      dsimp only
      split
      · exact report _ h
      · exact pure _

/-- `CASE`s of the same parts are typed in lockstep. -/
theorem caseOf {info info' : NodeInfo} (input : Option Bound.Expr) (labels : List Bound.CaseLabel)
    (otherwise : Option Bound.Expr) (hinfo : c.info info info') :
    Lockstep c scope (caseOf info input labels otherwise) (caseOf info' input labels otherwise)
      id := by
  unfold Binding.caseOf
  split
  · exact pure _
  · exact (report _ (c.span_info hinfo)).bind fun _ => pure _

/-! ## Subselects -/

/-- The column of a query that stands for a value is taken in lockstep. -/
theorem singleColumn {span span' : Span} (query : Bound.Query) (h : c.span span span') :
    Lockstep c scope (singleColumn span query) (singleColumn span' query) id := by
  unfold Binding.singleColumn
  split
  · exact pure _
  · exact (report _ h).bind fun _ => pure _

/-- Subselects of one query are bound in lockstep. -/
theorem subselect {info info' : NodeInfo} (query : Bound.Query) (hinfo : c.info info info') :
    Lockstep c scope (subselect info query) (subselect info' query) id :=
  (singleColumn _ (c.span_info hinfo)).bind fun _ => pure _

/-- Quantified comparisons with one query are bound in lockstep. -/
theorem quantified {info info' : NodeInfo} {token token' : Option Token} (quantifier : Quantifier)
    (left : Bound.Expr) (query : Bound.Query) (hinfo : c.info info info')
    (h : Option.Rel c.token token token') :
    Lockstep c scope (quantified info token quantifier left query)
      (quantified info' token' quantifier left query) id := by
  unfold Binding.quantified
  rw [Likeness.bind_kind_eq BinaryOperator.comparison? h]
  refine (singleColumn _ (c.span_info hinfo)).bind fun _ => ?_
  split
  · exact missingExpr
  · exact (typeOrReport _ _ (c.span_info hinfo)).bind fun _ => pure _

/-! ## Tables -/

/-- Alike names of tables are resolved in lockstep. -/
theorem tableNamed {token token' : Token} (h : c.token token token') :
    Lockstep c scope (tableNamed token) (tableNamed token') id := by
  refine currentScope (caseSensitive ?_)
  rw [c.ident_eq h, c.commonTable?_lift, c.schemaTable?_lift]
  split
  · exact pure _
  · split
    · exact pure _
    · exact (report _ (c.span_token h)).bind fun _ => badInstance _

/-- Alike named tables are bound in lockstep. -/
theorem namedTable {ident ident' : Option Token} {correlation correlation' : Option Ast.Alias}
    (h : Option.Rel c.token ident ident')
    (hcorrelation : Option.Rel (Ast.Alias.Alike c.toLikeness) correlation correlation') :
    Lockstep c scope (namedTable ident correlation) (namedTable ident' correlation') id := by
  cases h with
  | none => exact missingTable
  | some h =>
    unfold Binding.namedTable
    dsimp only
    rw [Likeness.aliasName?_eq hcorrelation, c.ident_eq h]
    exact (tableNamed h).bind fun _ => (supply _).bind fun _ => pure _

/-- Derived tables of one query are bound in lockstep. -/
theorem derivedTable {ident ident' : Option Token} (query : Bound.Query)
    (h : Option.Rel c.token ident ident') :
    Lockstep c scope (derivedTable ident query) (derivedTable ident' query) id := by
  unfold Binding.derivedTable
  rw [Likeness.map_ident_eq h]
  exact (supply _).bind fun _ => (supply _).bind fun _ => pure _

/-- The scope of the right side of a join is made in lockstep. -/
theorem lateralScope (kind : JoinKind) (left : Bound.TableRef) :
    Lockstep c scope (lateralScope kind left) (lateralScope kind left) c.lift := by
  unfold Binding.lateralScope
  split
  · exact childScope _
  · exact fun pass hend => ⟨hend, fun _ hcoupled => ⟨rfl, hcoupled⟩⟩

/-! ## Select lists -/

/-- Entries of a select list with one value are bound in lockstep. -/
theorem selectColumn {info info' : NodeInfo} {written written' : Option Ast.Expr}
    {correlation correlation' : Option Ast.Alias} (value : Bound.Expr) (hinfo : c.info info info')
    (hname : written'.bind Ast.Expr.ownName? = written.bind Ast.Expr.ownName?)
    (hcorrelation : Option.Rel (Ast.Alias.Alike c.toLikeness) correlation correlation') :
    Lockstep c scope (selectColumn info written correlation value)
      (selectColumn info' written' correlation' value) id := by
  unfold Binding.selectColumn columnName
  rw [Likeness.aliasName?_eq hcorrelation, hname]
  exact (supply _).bind fun _ => (record _ hinfo).bind fun _ => pure _

/-- Qualifiers of wildcards are resolved in lockstep. -/
theorem qualifier {token token' : Token} (instances : List TableInstance)
    (h : c.token token token') :
    Lockstep c scope (qualifier instances token) (qualifier instances token') id := by
  refine caseSensitive ?_
  rw [c.ident_eq h]
  split
  · exact pure _
  · exact (report _ (c.span_token h)).bind fun _ => pure _
  · exact (report _ (c.span_token h)).bind fun _ => pure _

/-- Wildcards over the same instances are expanded in lockstep. -/
theorem wildcardItem {token token' : Option Token} (instances : List TableInstance)
    (h : Option.Rel c.token token token') :
    Lockstep c scope (wildcardItem instances token) (wildcardItem instances token') id := by
  cases h with
  | none => exact (supply _).bind fun _ => pure _
  | some h => exact (qualifier _ h).bind fun _ => (supply _).bind fun _ => pure _

/-- Wildcards over the same instances are bound in lockstep. -/
theorem wildcard {info info' : NodeInfo} {token token' : Option Token}
    (instances : List TableInstance) (hinfo : c.info info info')
    (h : Option.Rel c.token token token') :
    Lockstep c scope (wildcard info instances token) (wildcard info' instances token') id :=
  (wildcardItem _ h).bind fun _ => (record _ hinfo).bind fun _ => pure _

/-! ## Row limits and set operations -/

/-- Alike row limits are read in lockstep. -/
theorem limitValue {token token' : Option Token} (h : Option.Rel c.token token token') :
    Lockstep c scope (limitValue token) (limitValue token') id := by
  cases h with
  | none => exact pure _
  | some h =>
    unfold Binding.limitValue
    simp only [c.token_text_eq h]
    split
    · exact pure _
    · exact (report _ (c.span_token h)).bind fun _ => pure _

/-- Alike row limits are put around a query in lockstep. -/
theorem limit {top top' : Option Ast.Top} (query : Bound.Query)
    (h : Option.Rel (Ast.Top.Alike c.toLikeness) top top') :
    Lockstep c scope (limit top query) (limit top' query) id := by
  cases h with
  | none => exact pure _
  | some h =>
    unfold Binding.limit
    dsimp only
    rw [h.withTies]
    exact (limitValue h.value).bind fun _ => pure _

/-- The types of two columns are merged in lockstep. -/
theorem mergeType {span span' : Span} (ordinal : Nat) (left right : SqlType)
    (h : c.span span span') :
    Lockstep c scope (mergeType span ordinal left right) (mergeType span' ordinal left right)
      id := by
  unfold Binding.mergeType
  split
  · exact pure _
  · exact (report _ h).bind fun _ => pure _

/-- Columns are merged pair by pair in lockstep. -/
theorem mergePairs {span span' : Span} (ordinal : Nat) (pairs : List (QueryColumn × QueryColumn))
    (h : c.span span span') :
    Lockstep c scope (mergePairs span ordinal pairs) (mergePairs span' ordinal pairs) id := by
  induction pairs generalizing ordinal with
  | nil => exact pure _
  | cons pair rest ih =>
    exact (mergeType _ _ _ h).bind fun _ => (supply _).bind fun _ => (ih _).bind fun _ => pure _

/-- The columns of two queries are merged in lockstep. -/
theorem mergeColumns {span span' : Span} (left right : List QueryColumn) (h : c.span span span') :
    Lockstep c scope (mergeColumns span left right) (mergeColumns span' left right) id := by
  unfold Binding.mergeColumns
  split
  · exact mergePairs _ _ h
  · exact (report _ h).bind fun _ => supply _

/-- Set operations of the same queries are bound in lockstep. -/
theorem combine {info info' : NodeInfo} (operator : Option SetOperator) (left right : Bound.Query)
    (hinfo : c.info info info') :
    Lockstep c scope (combine info operator left right) (combine info' operator left right) id :=
  (mergeColumns _ _ (c.span_info hinfo)).bind fun _ => pure _

/-! ## Tables of a `WITH` -/

/-- The lengths of alike column name lists are checked in lockstep. -/
theorem checkNames {list list' : Option Ast.ColumnNames} (query : Bound.Query)
    (h : Option.Rel (Ast.ColumnNames.Alike c.toLikeness) list list') :
    Lockstep c scope (checkNames list query) (checkNames list' query) id := by
  cases h with
  | none => exact pure _
  | some h =>
    unfold Binding.checkNames
    dsimp only
    rw [← h.idents.length_eq]
    split
    · exact report _ (c.span_info h.info)
    · exact pure _

/-- Alike definitions of one query are bound in lockstep. -/
theorem define {info info' : NodeInfo} {ident ident' : Option Token}
    {list list' : Option Ast.ColumnNames} (query : Bound.Query) (hinfo : c.info info info')
    (hident : Option.Rel c.token ident ident')
    (h : Option.Rel (Ast.ColumnNames.Alike c.toLikeness) list list') :
    Lockstep c scope (define info ident list query) (define info' ident' list' query) id := by
  unfold Binding.define
  rw [Likeness.columnNames_eq h, Likeness.map_ident_eq hident]
  exact (checkNames _ h).bind fun _ => (supply _).bind fun _ => (record _ hinfo).bind fun _ => pure _

end Lockstep

end Binding

end QuerySemantics
