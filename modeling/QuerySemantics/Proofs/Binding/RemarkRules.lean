import QuerySemantics.Binding.Basic
import QuerySemantics.Proofs.Binding.Remarks

/-!
# Rules and their remarks

What a computation adds to the diagnostics are remarks. Most steps of a pass add none, and a rule of
binding adds those that the piece gives that it is the rule for: none, one, or two of different
categories, or one for each column of a set operation.

## Main definitions

* `Binding.Silent`: a computation that leaves the diagnostics as they are.
* `Binding.Notes`: a computation that adds remarks of a kind.

## Main results

* `Binding.Notes.bind`, `Binding.Notes.before`, `Binding.Notes.behind`: the rules for sequences.
* `Binding.Notes.reportIn`, `Binding.Notes.report`: a report is a remark that the piece gives.
* `Binding.Notes.name`, `Binding.Notes.cast`, `Binding.Notes.combine` and fellows: the rules of binding.
-/

set_option autoImplicit false

namespace QuerySemantics

namespace Binding

variable {α β : Type} {env : Env}

/-! ## Silence -/

/-- **Silent**: a computation that leaves the diagnostics as they are. -/
def Silent (env : Env) (body : BindM α) : Prop :=
  ∀ pass, (body env pass).2.diagnostics = pass.diagnostics

namespace Silent

/-- A value adds no diagnostics. -/
theorem pure {value : α} : Silent env (Pure.pure value) :=
  fun _ => rfl

/-- A sequence of silent computations is silent. -/
theorem bind {first : BindM α} {rest : α → BindM β} (hfirst : Silent env first)
    (hrest : ∀ value, Silent env (rest value)) : Silent env (first >>= rest) :=
  fun pass => (hrest _ _).trans (hfirst pass)

/-- Looking at the scope is silent. -/
theorem currentScope : Silent env currentScope :=
  fun _ => rfl

/-- Looking at the mode in which names are compared is silent. -/
theorem caseSensitive : Silent env caseSensitive :=
  fun _ => rfl

/-- Taking identities is silent. -/
theorem supply {taken : Supply α} : Silent env (supply taken) :=
  fun _ => rfl

/-- A new link in front of the scope at hand is silent. -/
theorem childScope {frame : Frame} : Silent env (childScope frame) :=
  currentScope.bind fun _ => supply

/-- Recording a bound node is silent. -/
theorem record {info : NodeInfo} {node : Bound.Node} : Silent env (record info node) :=
  fun _ => rfl

/-- Recording the scope at hand is silent. -/
theorem recordScope {info : NodeInfo} : Silent env (recordScope info) :=
  fun _ => rfl

/-- Recording an expression is silent. -/
theorem recordExpr {info : NodeInfo} {it : Bound.Expr} : Silent env (recordExpr info it) :=
  record.bind fun _ => pure

/-- Recording a table reference is silent. -/
theorem recordTable {info : NodeInfo} {it : Bound.TableRef} : Silent env (recordTable info it) :=
  record.bind fun _ => pure

/-- Recording a query is silent. -/
theorem recordQuery {info : NodeInfo} {query : Bound.Query} {inner : Scope} :
    Silent env (recordQuery info query inner) :=
  record.bind fun _ => pure

/-- Asking for the methods of a type is silent. -/
theorem methodsOf {type : SqlType} : Silent env (methodsOf type) :=
  fun _ => rfl

/-- Asking for the properties of a type is silent. -/
theorem propertiesOf {type : SqlType} : Silent env (propertiesOf type) :=
  fun _ => rfl

/-- A symbol for what cannot be resolved is made silently: whoever calls for it has reported. -/
theorem badSymbol {name : String} : Silent env (badSymbol name) :=
  supply.bind fun _ => pure

/-- An expression for a name that cannot be resolved is made silently. -/
theorem badName {name : String} : Silent env (badName name) :=
  badSymbol.bind fun _ => pure

/-- A missing expression is not reported: parsing has done so. -/
theorem missingExpr : Silent env missingExpr :=
  badName

/-- An instance for a table that cannot be resolved is made silently. -/
theorem badInstance {name : String} : Silent env (badInstance name) :=
  supply.bind fun _ => pure

/-- A missing table reference is not reported. -/
theorem missingTable : Silent env missingTable :=
  badInstance.bind fun _ => supply.bind fun _ => pure

/-- The scope of the right side of a join is made silently. -/
theorem lateralScope {kind : JoinKind} {left : Bound.TableRef} :
    Silent env (lateralScope kind left) := by
  unfold Binding.lateralScope
  split
  · exact childScope
  · exact currentScope

/-- A derived table is made silently. -/
theorem derivedTable {ident : Option Token} {query : Bound.Query} :
    Silent env (derivedTable ident query) :=
  supply.bind fun _ => supply.bind fun _ => pure

/-- An entry of a select list gets its column silently. -/
theorem selectColumn {info : NodeInfo} {written : Option Ast.Expr} {correlation : Option Ast.Alias}
    {value : Bound.Expr} : Silent env (selectColumn info written correlation value) :=
  supply.bind fun _ => record.bind fun _ => pure

end Silent

/-! ## Remarks of a computation -/

/-- **Notes**: what the computation adds to the diagnostics are remarks as described. -/
def Notes (env : Env) (body : BindM α) (may : α → List Remark → Prop) : Prop :=
  ∀ pass, ∃ remarks, may (body env pass).1 remarks ∧
    (body env pass).2.diagnostics = pass.diagnostics ++ remarks.map Remark.diagnostic

namespace Notes

/-- **Sequence** of computations that note something. -/
theorem bind {first : BindM α} {rest : α → BindM β} {may : α → List Remark → Prop}
    {may' : β → List Remark → Prop} (hfirst : Notes env first may)
    (hrest : ∀ value remarks, may value remarks →
      Notes env (rest value) fun result remarks' => may' result (remarks ++ remarks')) :
    Notes env (first >>= rest) may' := by
  intro pass
  obtain ⟨remarks, hmay, hadded⟩ := hfirst pass
  obtain ⟨remarks', hmay', hadded'⟩ := hrest _ remarks hmay (first env pass).2
  refine ⟨remarks ++ remarks', hmay', hadded'.trans ?_⟩
  rw [hadded, List.map_append, List.append_assoc]

/-- Remarks of a kind are remarks of any kind that this one is among. -/
theorem mono {body : BindM α} {may may' : α → List Remark → Prop} (h : Notes env body may)
    (himp : ∀ value remarks, may value remarks → may' value remarks) : Notes env body may' := by
  intro pass
  obtain ⟨remarks, hmay, hadded⟩ := h pass
  exact ⟨remarks, himp _ _ hmay, hadded⟩

/-- A computation that says nothing. -/
theorem silent {body : BindM α} {may : α → List Remark → Prop} (h : Silent env body)
    (hmay : ∀ value, may value []) : Notes env body may :=
  fun pass => ⟨[], hmay _, (h pass).trans (List.append_nil _).symm⟩

/-- A value of which it is known what it stands for. -/
theorem pure {value : α} {may : α → List Remark → Prop} (hmay : may value []) :
    Notes env (Pure.pure value) may :=
  fun _ => ⟨[], hmay, (List.append_nil _).symm⟩

/-- What is said behind a computation that says nothing. -/
theorem before {first : BindM α} {rest : α → BindM β} {may : β → List Remark → Prop}
    (hfirst : Silent env first) (hrest : ∀ value, Notes env (rest value) may) :
    Notes env (first >>= rest) may := by
  intro pass
  obtain ⟨remarks, hmay, hadded⟩ := hrest (first env pass).1 (first env pass).2
  exact ⟨remarks, hmay, hadded.trans (congrArg (· ++ _) (hfirst pass))⟩

/-- What is said before a computation that says nothing. -/
theorem behind {first : BindM α} {rest : α → BindM β} {may : List Remark → Prop}
    (hfirst : Notes env first fun _ => may) (hrest : ∀ value, Silent env (rest value)) :
    Notes env (first >>= rest) fun _ => may :=
  hfirst.bind fun value remarks h => silent (hrest value) fun _ => (List.append_nil remarks).symm ▸ h

/-- Working in another scope. -/
theorem within {scope : Scope} {body : BindM α} {may : α → List Remark → Prop}
    (h : Notes { env with scope } body may) : Notes env (within scope body) may :=
  h

/-- Closing a piece with its own remarks, behind those of its parts. -/
theorem closing {piece : Piece} {body : BindM α} {below : List Remark}
    (hbody : Notes env body fun _ => piece.Gives) (hbelow : Told piece.visited below) :
    Notes env body fun _ own => Told [piece] (below ++ own) :=
  hbody.mono fun _ _ => hbelow.one

/-! ## Reports -/

section Piece

variable {piece : Piece} {info : NodeInfo} {span : Span} {problem : Problem} {token : Token}

/-- A rule that says nothing. -/
theorem nothing {body : BindM α} (h : Silent env body) : Notes env body fun _ => piece.Gives :=
  silent h fun _ => .nil

/-- **A report**, if it is kept, is a remark of its category. -/
theorem reportIn (h : piece.Gives [⟨info, ⟨span, problem⟩⟩]) :
    Notes env (Binding.report span problem) fun _ => piece.GivesIn problem.category := by
  intro pass
  unfold Binding.report
  split
  · exact ⟨[⟨info, ⟨span, problem⟩⟩], ⟨h, fun it hit => List.mem_singleton.1 hit ▸ rfl⟩, rfl⟩
  · exact ⟨[], .nil, (List.append_nil _).symm⟩

/-- A report is a remark that the piece gives. -/
theorem report (h : piece.Gives [⟨info, ⟨span, problem⟩⟩]) :
    Notes env (Binding.report span problem) fun _ => piece.Gives :=
  (reportIn h).mono fun _ _ hown => hown.toGives

/-- What cannot be resolved is reported once, and stands for an unknown symbol. -/
theorem unresolved {name : String} (h : piece.Gives [⟨info, ⟨span, problem⟩⟩]) :
    Notes env (Binding.unresolved span problem name) fun _ => piece.Gives :=
  (report h).behind fun _ => .badSymbol

/-- A type that there is not is reported, in the category of the problem. -/
theorem typeOrReportIn {result : Option SqlType} (h : piece.Gives [⟨info, ⟨span, problem⟩⟩]) :
    Notes env (Binding.typeOrReport span problem result) fun _ =>
      piece.GivesIn problem.category := by
  unfold Binding.typeOrReport
  split
  · exact silent .pure fun _ => .nil
  · exact (reportIn h).behind fun _ => .pure

/-- A type that there is not is reported. -/
theorem typeOrReport {result : Option SqlType} (h : piece.Gives [⟨info, ⟨span, problem⟩⟩]) :
    Notes env (Binding.typeOrReport span problem result) fun _ => piece.Gives :=
  (typeOrReportIn h).mono fun _ _ hown => hown.toGives

/-! ## Names -/

/-- A column that an instance does not have is reported at its name. -/
theorem columnOf {table : TableInstance} (hinfo : piece.info? = some info)
    (htoken : token ∈ piece.tokens) :
    Notes env (Binding.columnOf table token) fun _ => piece.Gives := by
  have hmarks := Piece.marks_token htoken
  refine .before .caseSensitive fun cased => ?_
  split
  · exact nothing .pure
  · split
    · exact nothing .badSymbol
    · exact unresolved (.self hinfo hmarks rfl)
  · exact unresolved (.self hinfo hmarks rfl)

/-- A property that a type does not have is reported at its name. -/
theorem property {target : Bound.Expr} (hinfo : piece.info? = some info)
    (htoken : token ∈ piece.tokens) :
    Notes env (Binding.property target token) fun _ => piece.Gives := by
  have hmarks := Piece.marks_token htoken
  refine behind ?_ fun _ => .pure
  unfold propertyNamed
  dsimp only
  split
  · exact nothing .badSymbol
  · refine .before .caseSensitive fun cased => .before .propertiesOf fun found => ?_
    split
    · exact nothing .pure
    · exact unresolved (.self hinfo hmarks rfl)
    · exact unresolved (.self hinfo hmarks rfl)

end Piece

section Rules

variable {info : NodeInfo} {ident : Option Token}

/-- A name is reported if it refers to nothing, or to more than one value. -/
theorem name : Notes env (Binding.name ident) fun _ => (Piece.expr (.name info ident)).Gives := by
  unfold Binding.name
  split
  · exact nothing .missingExpr
  · rename_i token
    have hmarks : (Piece.expr (.name info (some token))).Marks token.span :=
      Piece.marks_token (List.mem_singleton_self _)
    refine .before .currentScope fun scope => .before .caseSensitive fun cased => ?_
    split
    · exact nothing .pure
    · exact (unresolved (.self rfl hmarks rfl)).behind fun _ => .pure
    · exact (unresolved (.self rfl hmarks rfl)).behind fun _ => .pure

/-- A parameter is reported if the catalog has none of its name. -/
theorem hostVariable :
    Notes env (Binding.hostVariable info ident) fun _ =>
      (Piece.expr (.parameter info ident)).Gives := by
  unfold Binding.hostVariable
  split
  · exact nothing .missingExpr
  · refine .before .currentScope fun scope => .before .caseSensitive fun cased => ?_
    split
    · exact nothing .pure
    · exact (unresolved (.self rfl (Piece.marks_self rfl rfl) rfl)).behind fun _ => .pure

/-- **A qualifier that is decided** is walked through with its name. One that is not says nothing. -/
theorem qualified (outer : NodeInfo) {token member : Token} :
    Notes env (Binding.qualified info token member) fun decided remarks =>
      match decided with
      | some _ =>
        Told [.expr (.property outer (some (.name info (some token))) (some member))] remarks
      | none => remarks = [] := by
  have htarget : Told (Piece.expr (.name info (some token))).visited [] := .nil
  have hmarks : (Piece.expr (.name info (some token))).Marks token.span :=
    Piece.marks_token (List.mem_singleton_self _)
  -- a qualifier that refers to nothing is reported
  have hbad : ∀ {problem : Problem}, problem.isImposed = false →
      Notes env (propertyOfBad info token.ident token.span problem member.ident) fun _ =>
        Told [.expr (.property outer (some (.name info (some token))) (some member))] := by
    intro problem hproblem
    refine (report (.self rfl hmarks hproblem)).behind (fun _ => ?_) |>.mono fun _ _ hown => ?_
    · exact Silent.badName.bind fun _ => Silent.recordExpr.bind fun _ =>
        Silent.badSymbol.bind fun _ => .pure
    · exact .quiet (htarget.one hown)
  unfold Binding.qualified
  refine .before .currentScope fun scope => .before .caseSensitive fun cased => ?_
  dsimp only
  split
  · rename_i table _
    have hcolumn : Notes env (Binding.columnOf table member) fun _ =>
        (Piece.expr (.property outer (some (.name info (some token))) (some member))).Gives :=
      columnOf rfl (List.mem_singleton_self _)
    refine .before .recordExpr fun _ => hcolumn.bind fun symbol own hown => .pure ?_
    rw [List.append_nil]
    have htargets : Told (Piece.expr (.property outer (some (.name info (some token)))
        (some member))).visited [] := .quiet htarget
    exact htargets.one hown
  · exact (hbad rfl).bind fun _ remarks h => .pure ((List.append_nil remarks).symm ▸ h)
  · split
    · exact (hbad rfl).bind fun _ remarks h => .pure ((List.append_nil remarks).symm ▸ h)
    · exact .pure rfl

/-! ## Operators, conversions and conditions -/

/-- A literal is reported if its text stands for no value. -/
theorem literal {token : Option Token} :
    Notes env (Binding.literal token) fun _ => (Piece.expr (.literal info token)).Gives := by
  unfold Binding.literal
  split
  · exact nothing .missingExpr
  · split
    · exact nothing .pure
    · exact (report (.self rfl (Piece.marks_token (List.mem_singleton_self _)) rfl)).behind
        fun _ => .pure

/-- A unary operator is reported if it does not take an operand of the type. -/
theorem unary {operator : Option Token} {operand : Option Ast.Expr} {bound : Bound.Expr} :
    Notes env (Binding.unary info operator bound) fun _ =>
      (Piece.expr (.unary info operator operand)).Gives := by
  unfold Binding.unary
  split
  · exact nothing .missingExpr
  · exact (typeOrReport (.self rfl (Piece.marks_self rfl rfl) rfl)).behind fun _ => .pure

/-- A binary operator is reported if it does not take operands of the types. -/
theorem binary {operator : Option Token} {negated : Bool} {left right : Option Ast.Expr}
    {left' right' : Bound.Expr} :
    Notes env (Binding.binary info operator negated left' right') fun _ =>
      (Piece.expr (.binary info left operator negated right)).Gives := by
  unfold Binding.binary
  split
  · exact nothing .missingExpr
  · exact (typeOrReport (.self rfl (Piece.marks_self rfl rfl) rfl)).behind fun _ => .pure

/-- A type name that denotes nothing is reported at its name. -/
theorem typeNamed (info : NodeInfo) (operand : Option Ast.Expr) (target : Option Ast.TypeName) :
    Notes env (Binding.typeNamed (target.bind Ast.TypeName.ident)) fun _ =>
      (Piece.expr (.cast info operand target)).GivesIn .unresolvedName := by
  unfold Binding.typeNamed
  split
  · exact silent .pure fun _ => .nil
  · rename_i token htoken
    obtain ⟨leaf, rfl, hident⟩ := Option.bind_eq_some_iff.1 htoken
    have hmarks : (Piece.typeName leaf).Marks token.span :=
      Piece.marks_token (Option.mem_toList.2 hident)
    have hleaf : .typeName leaf ∈ (Piece.expr (.cast info operand (some leaf))).leaves :=
      List.mem_singleton_self _
    exact .before .currentScope fun scope => typeOrReportIn (.leaf hleaf rfl hmarks rfl)

/-- A conversion is reported if its type is not known, and if the operand does not convert to it. -/
theorem cast {operand : Option Ast.Expr} {target : Option Ast.TypeName} {bound : Bound.Expr} :
    Notes env (Binding.cast info bound target) fun _ =>
      (Piece.expr (.cast info operand target)).Gives := by
  have hmarks : (Piece.expr (.cast info operand target)).Marks info.span := Piece.marks_self rfl rfl
  refine (typeNamed info operand target).bind fun type own hown => ?_
  refine behind ((typeOrReportIn (.self rfl hmarks rfl)).mono fun _ own' hown' => ?_) fun _ => .pure
  exact hown.append hown' nofun

/-- A condition that is not a truth value is reported where the clause stands. -/
theorem checkCondition {predicate : Option Ast.Expr} {place : ConditionPlace} {bound : Bound.Expr}
    (hplace : place ≠ .when) :
    Notes env (Binding.checkCondition info.span place bound) fun _ =>
      (Piece.condition (.mk info predicate)).Gives := by
  unfold Binding.checkCondition
  split
  · refine report (.self rfl (Piece.marks_self rfl rfl) ?_)
    cases place with
    | when => exact absurd rfl hplace
    | _ => rfl
  · exact nothing .pure

/-- What a `CASE` calls for is imposed on the expression behind the `WHEN`. -/
theorem checkLabel (info : NodeInfo) (result : Option Ast.Expr) {input : Option Bound.Expr}
    {written : Option Ast.Expr} {bound : Bound.Expr} :
    Notes env (Binding.checkLabel input written bound) fun _ =>
      (Piece.caseLabel (.mk info written result)).Gives := by
  have hmarks : ∀ {written : Ast.Expr}, (Piece.expr written).Marks written.info.span :=
    Piece.marks_self rfl rfl
  unfold Binding.checkLabel
  split
  · exact nothing .pure
  · unfold Binding.checkCondition
    split
    · exact report (.part List.mem_cons_self rfl hmarks rfl)
    · exact nothing .pure
  · split
    · exact report (.part List.mem_cons_self rfl hmarks rfl)
    · exact nothing .pure

/-- A `CASE` is reported if its results have no common type. -/
theorem caseOf {input otherwise : Option Ast.Expr} {labels : List Ast.CaseLabel}
    {input' otherwise' : Option Bound.Expr} {labels' : List Bound.CaseLabel} :
    Notes env (Binding.caseOf info input' labels' otherwise') fun _ =>
      (Piece.expr (.cases info input labels otherwise)).Gives := by
  unfold Binding.caseOf
  split
  · exact nothing .pure
  · exact (report (.self rfl (Piece.marks_self rfl rfl) rfl)).behind fun _ => .pure

/-! ## Subselects -/

/-- A query that stands for a value is reported if it does not put out one column. -/
theorem singleColumn (it : Ast.Expr) {query : Bound.Query} :
    Notes env (Binding.singleColumn it.info.span query) fun _ =>
      (Piece.expr it).GivesIn .shapeMismatch := by
  unfold Binding.singleColumn
  split
  · exact silent .pure fun _ => .nil
  · exact (reportIn (.self rfl (Piece.marks_self rfl rfl) rfl)).behind fun _ => .pure

/-- A subselect is reported if it does not put out one column. -/
theorem subselect {body : Option Ast.Query} {query : Bound.Query} :
    Notes env (Binding.subselect info query) fun _ =>
      (Piece.expr (.subselect info body)).Gives :=
  behind ((singleColumn (.subselect info body)).mono fun _ _ hown => hown.toGives) fun _ => .pure

/-- A quantified comparison is reported if its query does not put out one column, and if the values do
not compare. -/
theorem quantified {left : Option Ast.Expr} {operator : Option Token} {quantifier : Quantifier}
    {body : Option Ast.Query} {left' : Bound.Expr} {query : Bound.Query} :
    Notes env (Binding.quantified info operator quantifier left' query) fun _ =>
      (Piece.expr (.quantified info left operator quantifier body)).Gives := by
  refine (singleColumn (.quantified info left operator quantifier body)).bind
    fun column own hown => ?_
  split
  · refine silent .missingExpr fun _ => ?_
    rw [List.append_nil]
    exact hown.toGives
  · have hmarks : (Piece.expr (.quantified info left operator quantifier body)).Marks info.span :=
      Piece.marks_self rfl rfl
    refine behind ((typeOrReportIn (.self rfl hmarks rfl)).mono fun _ own' hown' => ?_)
      fun _ => .pure
    exact hown.append hown' nofun

/-! ## Calls -/

/-- A call that is ambiguous is reported, unless the type of an argument is not known. -/
theorem ambiguousCall {piece : Piece} {span : Span} {name : String} {arguments : List SqlType}
    {candidates : List String} (hinfo : piece.info? = some info) (hmarks : piece.Marks span) :
    Notes env (Binding.ambiguousCall span name arguments candidates) fun _ => piece.Gives := by
  unfold Binding.ambiguousCall
  split
  · exact nothing .badSymbol
  · exact unresolved (.self hinfo hmarks rfl)

/-- A call is reported if no function takes the arguments, or if several take them equally well. -/
theorem overload {piece : Piece} {span : Span} {name : String} {arguments : List SqlType}
    {functions : List Function} (hinfo : piece.info? = some info) (hmarks : piece.Marks span) :
    Notes env (Binding.overload span name arguments functions) fun _ => piece.Gives := by
  unfold Binding.overload
  split
  · exact nothing .pure
  · exact (ambiguousCall hinfo hmarks).behind fun _ => .pure
  · exact (unresolved (.self hinfo hmarks rfl)).behind fun _ => .pure

/-- An aggregate is reported if it does not take the arguments. -/
theorem aggregateType {piece : Piece} {span : Span} {it : Aggregate} {arguments : List SqlType}
    (hinfo : piece.info? = some info) (hmarks : piece.Marks span) :
    Notes env (Binding.aggregateType span it arguments) fun _ => piece.Gives := by
  unfold Binding.aggregateType
  split
  · exact nothing .pure
  · exact (report (.self hinfo hmarks rfl)).behind fun _ => .pure

/-- A call gives one remark at most, whether it is that of a function or of an aggregate. -/
theorem call {arguments : Option Ast.Arguments} {arguments' : List Bound.Expr} :
    Notes env (Binding.call info ident arguments') fun _ =>
      (Piece.expr (.call info ident arguments)).Gives := by
  have hself : (Piece.expr (.call info ident arguments)).Marks info.span := Piece.marks_self rfl rfl
  unfold Binding.call
  split
  · exact nothing .missingExpr
  · rename_i token
    have hmarks : (Piece.expr (.call info (some token) arguments)).Marks token.span :=
      Piece.marks_token (List.mem_singleton_self _)
    refine .before .currentScope fun scope => .before .caseSensitive fun cased => ?_
    split
    · split
      · exact (aggregateType rfl hself).behind fun _ => .pure
      · exact (unresolved (.self rfl hmarks rfl)).behind fun _ => .pure
    · exact (overload rfl hself).behind fun _ => .pure

/-- A call with `*` is reported if there is no such aggregate, or if it does not count rows. -/
theorem countAll :
    Notes env (Binding.countAll info ident) fun _ => (Piece.expr (.countAll info ident)).Gives := by
  unfold Binding.countAll
  split
  · exact nothing .missingExpr
  · rename_i token
    have hmarks : (Piece.expr (.countAll info (some token))).Marks token.span :=
      Piece.marks_token (List.mem_singleton_self _)
    refine .before .currentScope fun scope => .before .caseSensitive fun cased => ?_
    split
    · exact (unresolved (.self rfl hmarks rfl)).behind fun _ => .pure
    · split
      · exact nothing .pure
      · exact (report (.self rfl (Piece.marks_self rfl rfl) rfl)).behind fun _ => .pure

/-- A method call gives one remark at most. -/
theorem method {target : Option Ast.Expr} {arguments : Option Ast.Arguments} {target' : Bound.Expr}
    {arguments' : List Bound.Expr} :
    Notes env (Binding.method info ident target' arguments') fun _ =>
      (Piece.expr (.method info target ident arguments)).Gives := by
  have hself : (Piece.expr (.method info target ident arguments)).Marks info.span :=
    Piece.marks_self rfl rfl
  unfold Binding.method
  split
  · exact nothing .missingExpr
  · rename_i token
    have hmarks : (Piece.expr (.method info target (some token) arguments)).Marks token.span :=
      Piece.marks_token (List.mem_singleton_self _)
    refine behind ?_ fun _ => .pure
    unfold methodNamed
    dsimp only
    split
    · exact nothing .badSymbol
    · refine .before .caseSensitive fun cased => .before .methodsOf fun found => ?_
      split
      · exact unresolved (.self rfl hmarks rfl)
      · split
        · exact nothing .pure
        · exact ambiguousCall rfl hself
        · exact unresolved (.self rfl hself rfl)

/-! ## Tables -/

/-- A named table is reported if there is none of its name. -/
theorem namedTable {correlation : Option Ast.Alias} :
    Notes env (Binding.namedTable ident correlation) fun _ =>
      (Piece.table (.named info ident correlation)).Gives := by
  unfold Binding.namedTable
  split
  · exact nothing .missingTable
  · rename_i token
    have hmarks : (Piece.table (.named info (some token) correlation)).Marks token.span :=
      Piece.marks_token (List.mem_singleton_self _)
    refine behind ?_ fun _ => Silent.supply.bind fun _ => .pure
    unfold Binding.tableNamed
    refine .before .currentScope fun scope => .before .caseSensitive fun cased => ?_
    split
    · exact nothing .pure
    · split
      · exact nothing .pure
      · exact (report (.self rfl hmarks rfl)).behind fun _ => .badInstance

/-! ## Queries -/

/-- A wildcard is reported if its qualifier is not the name of one table in the `FROM`. -/
theorem wildcard {instances : List TableInstance} {token : Option Token} :
    Notes env (Binding.wildcard info instances token) fun _ =>
      (Piece.selectItem (.wildcard info token)).Gives := by
  refine behind ?_ fun _ => Silent.record.bind fun _ => .pure
  unfold wildcardItem
  split
  · exact nothing (Silent.supply.bind fun _ => .pure)
  · rename_i token
    have hmarks : (Piece.selectItem (.wildcard info (some token))).Marks token.span :=
      Piece.marks_token (List.mem_singleton_self _)
    refine behind ?_ fun _ => Silent.supply.bind fun _ => .pure
    refine .before .caseSensitive fun cased => ?_
    split
    · exact nothing .pure
    · exact (report (.self rfl hmarks rfl)).behind fun _ => .pure
    · exact (report (.self rfl hmarks rfl)).behind fun _ => .pure

/-- A row limit that is not a number is reported for the select clause that it stands in. -/
theorem limit {distinct : Bool} {top : Option Ast.Top} {items : List Ast.SelectItem}
    {query : Bound.Query} :
    Notes env (Binding.limit top query) fun _ =>
      (Piece.selectClause (.mk info distinct top items)).Gives := by
  unfold Binding.limit
  split
  · exact nothing .pure
  · rename_i top
    have hleaf : .top top ∈ (Piece.selectClause (.mk info distinct (some top) items)).leaves :=
      List.mem_singleton_self _
    refine behind ?_ fun _ => .pure
    unfold limitValue
    split
    · exact nothing .pure
    · rename_i token hvalue
      have hmarks : (Piece.top top).Marks token.span :=
        Piece.marks_token (Option.mem_toList.2 hvalue)
      split
      · exact nothing .pure
      · exact (report (.leaf hleaf rfl hmarks rfl)).behind fun _ => .pure

/-- Columns without a common type are reported by their ordinals. -/
theorem mergePairs {piece : Piece} {span : Span} (hinfo : piece.info? = some info)
    (hmarks : piece.Marks span) (pairs : List (QueryColumn × QueryColumn)) (ordinal : Nat) :
    Notes env (Binding.mergePairs span ordinal pairs) fun _ => piece.GivesFrom ordinal := by
  induction pairs generalizing ordinal with
  | nil => exact pure .nil
  | cons pair rest ih =>
    obtain ⟨left, right⟩ := pair
    have htype : Notes env (Binding.mergeType span ordinal left.type right.type) fun _ own =>
        own = [] ∨ own = [⟨info, ⟨span, .setOperationTypes ordinal left.type right.type⟩⟩] := by
      unfold Binding.mergeType
      split
      · exact pure (.inl rfl)
      · refine behind ?_ fun _ => .pure
        intro pass
        unfold Binding.report
        split
        · exact ⟨_, .inr rfl, rfl⟩
        · exact ⟨_, .inl rfl, (List.append_nil _).symm⟩
    refine htype.bind fun type own hown => .before .supply fun column => ?_
    refine ((ih (ordinal + 1)).behind fun _ => .pure).mono fun _ own' hown' => ?_
    rcases hown with rfl | rfl
    · exact hown'.of_succ
    · exact hown'.cons hinfo hmarks

/-- A set operation is reported if the numbers of columns differ, or for each pair without common type.
-/
theorem combine {left right : Option Ast.Query} {operator : Option SetOperator}
    {left' right' : Bound.Query} :
    Notes env (Binding.combine info operator left' right') fun _ =>
      (Piece.query (.combined info left operator right)).Gives := by
  have hmarks : (Piece.query (.combined info left operator right)).Marks info.span :=
    Piece.marks_self rfl rfl
  refine behind ?_ fun _ => .pure
  unfold mergeColumns
  split
  · exact (mergePairs rfl hmarks _ _).mono fun _ _ hown => hown.toGives
  · exact (report (.self rfl hmarks rfl)).behind fun _ => .supply

/-- A column name list that does not fit is reported where it stands. -/
theorem define (body : Option Ast.Query) {columns : Option Ast.ColumnNames} {query : Bound.Query} :
    Notes env (Binding.define info ident columns query) fun _ =>
      (Piece.commonTable (.mk info ident columns body)).Gives := by
  refine behind ?_ fun _ => Silent.supply.bind fun _ => Silent.record.bind fun _ => .pure
  unfold checkNames
  split
  · exact nothing .pure
  · rename_i list
    have hleaf : .columnNames list ∈
        (Piece.commonTable (.mk info ident (some list) body)).leaves := List.mem_singleton_self _
    split
    · exact report (.leaf hleaf rfl (Piece.marks_self rfl rfl) rfl)
    · exact nothing .pure

end Rules

end Notes

end Binding

end QuerySemantics
