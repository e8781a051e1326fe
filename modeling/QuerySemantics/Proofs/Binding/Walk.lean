import QuerySemantics.Binding.Basic

/-!
# The walk through a query

Binding goes through the abstract syntax of a query once: each function binds the parts of a node,
applies the rule of the node to what the parts are bound to, and records the result. Whatever is to be
known of binding is proved along this walk. The recursion is the same each time; what differs is the
judgment on a computation that binds a node of some kind.

A judgment is closed if it holds of the computation for a node as soon as it holds of those for its
parts, whatever these are. It then holds of binding all of the syntax.

## Main definitions

* `Binding.CalledFor`, `Binding.IfAny`, `Binding.InTurn`: parts that may be missing, and lists of parts.
* `Binding.Judgment`: what is known of the computations that bind nodes, for each kind of node.
* `Binding.Judgment.Closed`: the rules of a judgment, one for each form of node.

## Main results

* `Binding.Judgment.Closed.expr`, `Binding.Judgment.Closed.table`, `Binding.Judgment.Closed.query`: a
  closed judgment holds of binding expressions, table references and queries.
-/

set_option autoImplicit false

namespace QuerySemantics

namespace Binding

/-! ## Parts of a node -/

section Parts

variable {α β : Type}

/-- **A part that is called for**: it is known of the part that is there; for a missing one something
else is done. -/
inductive CalledFor (known : α → BindM β → Prop) (instead : BindM β) :
    Option α → BindM β → Prop where
  | given {it : α} {body : BindM β} : known it body → CalledFor known instead (some it) body
  | missing : CalledFor known instead none instead

/-- **A part that need not be there.** -/
inductive IfAny (known : α → BindM β → Prop) : Option α → BindM (Option β) → Prop where
  | given {it : α} {body : BindM β} : known it body → IfAny known (some it) (do return some (← body))
  | missing : IfAny known none (return none)

/-- **Parts one after the other**, each of which is known. -/
inductive InTurn (known : α → BindM β → Prop) : List α → BindM (List β) → Prop where
  | nil : InTurn known [] (return [])
  | cons {it : α} {rest : List α} {first : BindM β} {others : BindM (List β)} : known it first →
      InTurn known rest others → InTurn known (it :: rest) (do
        let value ← first
        return value :: (← others))

/-- **Definitions one after the other**: those behind a definition are known of behind any that it is
bound to. -/
inductive DefinedInTurn
    (known : List CommonTable → Ast.CommonTable → BindM Bound.Definition → Prop) :
    List CommonTable → List Ast.CommonTable → BindM (List Bound.Definition) → Prop where
  | nil {earlier : List CommonTable} : DefinedInTurn known earlier [] (return [])
  | cons {earlier : List CommonTable} {it : Ast.CommonTable} {rest : List Ast.CommonTable}
      {first : BindM Bound.Definition} {others : Bound.Definition → BindM (List Bound.Definition)} :
      known earlier it first →
      (∀ definition, DefinedInTurn known (earlier ++ [definition.symbol]) rest (others definition)) →
      DefinedInTurn known earlier (it :: rest) (do
        let definition ← first
        return definition :: (← others definition))

/-- What is known of a part may be put in other words. -/
theorem CalledFor.mono {known known' : α → BindM β → Prop} {instead body : BindM β} {it : Option α}
    (h : CalledFor known instead it body) (himp : ∀ it body, known it body → known' it body) :
    CalledFor known' instead it body := by
  cases h with
  | given h => exact .given (himp _ _ h)
  | missing => exact .missing

/-- What is known of parts one after the other may be put in other words. -/
theorem InTurn.mono {known known' : α → BindM β → Prop} {body : BindM (List β)} {items : List α}
    (h : InTurn known items body) (himp : ∀ it body, known it body → known' it body) :
    InTurn known' items body := by
  induction h with
  | nil => exact .nil
  | cons hfirst _ ih => exact .cons (himp _ _ hfirst) ih

end Parts

/-- What stands for a query that is not there. -/
def missingQuery : BindM ScopedQuery := do
  return ⟨.empty, ← currentScope⟩

/-- A qualifier is a bare name. -/
theorem eq_of_qualifier? {target : Ast.Expr} {info : NodeInfo} {token : Token}
    (h : qualifier? target = some (info, token)) : target = .name info (some token) := by
  unfold qualifier? at h
  split at h <;> cases h
  rfl

/-- A position is a literal. -/
theorem exists_of_position? {key : Ast.Expr} {token : Token} {position : Int}
    (h : key.position? = some (token, position)) : ∃ info, key = .literal info (some token) := by
  unfold Ast.Expr.position? at h
  split at h
  · split at h
    · obtain ⟨_, -, heq⟩ := Option.map_eq_some_iff.1 h
      cases heq
      exact ⟨_, rfl⟩
    · cases h
  · cases h

/-! ## Judgments -/

/-- **Judgment**: what is known of the computations that bind nodes, for each kind of node. Labels of a
`CASE` are bound behind its operand, entries of a select list over the instances of the `FROM`, keys of
an `ORDER BY` behind columns, and definitions behind those before them. -/
structure Judgment where
  Expr : Ast.Expr → BindM Bound.Expr → Prop
  Arguments : Ast.Arguments → BindM (List Bound.Expr) → Prop
  Label : Option Bound.Expr → Ast.CaseLabel → BindM Bound.CaseLabel → Prop
  Condition : ConditionPlace → Ast.Condition → BindM (Option Bound.Expr) → Prop
  Table : Ast.TableRef → BindM Bound.TableRef → Prop
  Source : Ast.FromClause → BindM (List Bound.TableRef) → Prop
  Grouping : Ast.GroupByClause → BindM (List Bound.Expr) → Prop
  Item : List TableInstance → Ast.SelectItem → BindM Bound.SelectItem → Prop
  Head : List TableInstance → Ast.SelectClause → BindM (List Bound.SelectItem) → Prop
  Key : List QueryColumn → Ast.Expr → BindM Bound.Expr → Prop
  Entry : List QueryColumn → Ast.OrderItem → BindM Bound.OrderKey → Prop
  Definition : List CommonTable → Ast.CommonTable → BindM Bound.Definition → Prop
  Query : Ast.Query → BindM ScopedQuery → Prop

namespace Judgment

/-! ## The rules of a judgment -/

section Rules

variable (j : Judgment)

/-- Expressions that are called for. -/
abbrev OptionalExpr : Option Ast.Expr → BindM Bound.Expr → Prop :=
  CalledFor j.Expr missingExpr

/-- Table references that are called for. -/
abbrev OptionalTable : Option Ast.TableRef → BindM Bound.TableRef → Prop :=
  CalledFor j.Table missingTable

/-- Queries that are called for. -/
abbrev OptionalQuery : Option Ast.Query → BindM ScopedQuery → Prop :=
  CalledFor j.Query missingQuery

/-- **Expressions without parts.** -/
structure Leaves : Prop where
  name (info : NodeInfo) (ident : Option Token) :
    j.Expr (.name info ident) (do recordExpr info (← Binding.name ident))
  parameter (info : NodeInfo) (ident : Option Token) :
    j.Expr (.parameter info ident) (do recordExpr info (← hostVariable info ident))
  literal (info : NodeInfo) (token : Option Token) :
    j.Expr (.literal info token) (do recordExpr info (← Binding.literal token))
  countAll (info : NodeInfo) (ident : Option Token) :
    j.Expr (.countAll info ident) (do recordExpr info (← Binding.countAll info ident))
  nameless (info : NodeInfo) {target : Option Ast.Expr} {ident : Option Token} :
    target = none ∨ ident = none →
      j.Expr (.property info target ident) (do recordExpr info (← missingExpr))

/-- **Operators**, and the conditions of clauses. -/
structure Operations : Prop where
  parenthesized (info : NodeInfo) {inner : Option Ast.Expr} {first : BindM Bound.Expr} :
    j.OptionalExpr inner first → j.Expr (.parenthesized info inner) first
  unary (info : NodeInfo) (operator : Option Token) {operand : Option Ast.Expr}
    {first : BindM Bound.Expr} : j.OptionalExpr operand first →
    j.Expr (.unary info operator operand) (do
      let operand ← first
      recordExpr info (← Binding.unary info operator operand))
  binary (info : NodeInfo) (operator : Option Token) (negated : Bool) {left right : Option Ast.Expr}
    {first second : BindM Bound.Expr} : j.OptionalExpr left first → j.OptionalExpr right second →
    j.Expr (.binary info left operator negated right) (do
      let left ← first
      let right ← second
      recordExpr info (← Binding.binary info operator negated left right))
  cast (info : NodeInfo) (type : Option Ast.TypeName) {operand : Option Ast.Expr}
    {first : BindM Bound.Expr} : j.OptionalExpr operand first →
    j.Expr (.cast info operand type) (do
      let operand ← first
      recordExpr info (← Binding.cast info operand type))
  isNull (info : NodeInfo) (negated : Bool) {operand : Option Ast.Expr} {first : BindM Bound.Expr} :
    j.OptionalExpr operand first →
    j.Expr (.isNull info operand negated) (do
      let operand ← first
      recordExpr info (.isNull operand negated))
  condition (info : NodeInfo) (place : ConditionPlace) {predicate : Option Ast.Expr}
    {first : BindM Bound.Expr} : j.OptionalExpr predicate first →
    j.Condition place (.mk info predicate) (do
      let bound ← first
      checkCondition info.span place bound
      return some bound)

/-- **`CASE`** and its labels. -/
structure Branches : Prop where
  label (input : Option Bound.Expr) (info : NodeInfo) {condition result : Option Ast.Expr}
    {first second : BindM Bound.Expr} :
    j.OptionalExpr condition first → j.OptionalExpr result second →
    j.Label input (.mk info condition result) (do
      let bound ← first
      checkLabel input condition bound
      let result ← second
      record info (.caseLabel (.mk bound result))
      return .mk bound result)
  cases (info : NodeInfo) {input otherwise : Option Ast.Expr} {labels : List Ast.CaseLabel}
    {first third : BindM (Option Bound.Expr)}
    {second : Option Bound.Expr → BindM (List Bound.CaseLabel)} : IfAny j.Expr input first →
    (∀ input, InTurn (j.Label input) labels (second input)) → IfAny j.Expr otherwise third →
    j.Expr (.cases info input labels otherwise) (do
      let input ← first
      let labels ← second input
      let otherwise ← third
      recordExpr info (← caseOf info input labels otherwise))

/-- **Properties, methods and calls.** -/
structure Members : Prop where
  property (info : NodeInfo) (ident : Token) {target : Ast.Expr} {first : BindM Bound.Expr} :
    qualifier? target = none → j.Expr target first →
    j.Expr (.property info (some target) (some ident)) (do
      let target ← first
      recordExpr info (← Binding.property target ident))
  qualified (info node : NodeInfo) (token ident : Token) {first : BindM Bound.Expr} :
    j.Expr (.name node (some token)) first →
    j.Expr (.property info (some (.name node (some token))) (some ident)) (do
      match ← Binding.qualified node token ident with
      | some it => recordExpr info it
      | none =>
        let target ← first
        recordExpr info (← Binding.property target ident))
  method (info : NodeInfo) (ident : Option Token) {target : Option Ast.Expr}
    {arguments : Option Ast.Arguments} {first : BindM Bound.Expr} {second : BindM (List Bound.Expr)} :
    j.OptionalExpr target first → CalledFor j.Arguments (return []) arguments second →
    j.Expr (.method info target ident arguments) (do
      let target ← first
      let arguments ← second
      recordExpr info (← Binding.method info ident target arguments))
  call (info : NodeInfo) (ident : Option Token) {arguments : Option Ast.Arguments}
    {first : BindM (List Bound.Expr)} : CalledFor j.Arguments (return []) arguments first →
    j.Expr (.call info ident arguments) (do
      let arguments ← first
      recordExpr info (← Binding.call info ident arguments))
  arguments (info : NodeInfo) {items : List Ast.Expr} {first : BindM (List Bound.Expr)} :
    InTurn j.Expr items first → j.Arguments (.mk info items) first

/-- **Expressions with a query in them.** -/
structure Subqueries : Prop where
  subselect (info : NodeInfo) {body : Option Ast.Query} {first : BindM ScopedQuery} :
    j.OptionalQuery body first → j.Expr (.subselect info body) (do
      let body ← first
      recordExpr info (← Binding.subselect info body.query))
  existence (info : NodeInfo) {body : Option Ast.Query} {first : BindM ScopedQuery} :
    j.OptionalQuery body first → j.Expr (.existence info body) (do
      let body ← first
      recordExpr info (.existence body.query))
  quantified (info : NodeInfo) (operator : Option Token) (quantifier : Quantifier)
    {left : Option Ast.Expr} {body : Option Ast.Query} {first : BindM Bound.Expr}
    {second : BindM ScopedQuery} : j.OptionalExpr left first → j.OptionalQuery body second →
    j.Expr (.quantified info left operator quantifier body) (do
      let left ← first
      let body ← second
      recordExpr info (← Binding.quantified info operator quantifier left body.query))

/-- **Table references** and the list of a `FROM`. -/
structure Tables : Prop where
  parenthesizedTable (info : NodeInfo) {inner : Option Ast.TableRef} {first : BindM Bound.TableRef} :
    j.OptionalTable inner first → j.Table (.parenthesized info inner) first
  named (info : NodeInfo) (ident : Option Token) (correlation : Option Ast.Alias) :
    j.Table (.named info ident correlation) (do recordTable info (← namedTable ident correlation))
  derived (info : NodeInfo) (ident : Option Token) {body : Option Ast.Query}
    {first : BindM ScopedQuery} : j.OptionalQuery body first →
    j.Table (.derived info body ident) (do
      let body ← first
      recordTable info (← derivedTable ident body.query))
  joined (info : NodeInfo) (kind : JoinKind) {left right : Option Ast.TableRef}
    {condition : Option Ast.Condition} {first second : BindM Bound.TableRef}
    {third : BindM (Option Bound.Expr)} : j.OptionalTable left first → j.OptionalTable right second →
    CalledFor (j.Condition .on) (return none) condition third →
    j.Table (.joined info left kind right condition) (do
      let left ← first
      let right ← within (← lateralScope kind left) second
      let both ← childScope (.tables (left.instances ++ right.instances))
      let condition ← within both do
        recordScope info
        third
      recordTable info (.joined left kind right condition))
  source (info : NodeInfo) {items : List Ast.TableRef} {first : BindM (List Bound.TableRef)} :
    InTurn j.Table items first → j.Source (.mk info items) first

/-- **`SELECT`** and its clauses. -/
structure Selects : Prop where
  column (instances : List TableInstance) (info : NodeInfo) (correlation : Option Ast.Alias)
    {value : Option Ast.Expr} {first : BindM Bound.Expr} : j.OptionalExpr value first →
    j.Item instances (.column info value correlation) (do
      let bound ← first
      selectColumn info value correlation bound)
  wildcard (instances : List TableInstance) (info : NodeInfo) (token : Option Token) :
    j.Item instances (.wildcard info token) (Binding.wildcard info instances token)
  head (instances : List TableInstance) (info : NodeInfo) (distinct : Bool) (top : Option Ast.Top)
    {items : List Ast.SelectItem} {first : BindM (List Bound.SelectItem)} :
    InTurn (j.Item instances) items first → j.Head instances (.mk info distinct top items) first
  grouping (info : NodeInfo) {keys : List Ast.Expr} {first : BindM (List Bound.Expr)} :
    InTurn j.Expr keys first → j.Grouping (.mk info keys) first
  select (info : NodeInfo) {head : Option Ast.SelectClause} {source : Option Ast.FromClause}
    {filter having : Option Ast.Condition} {grouping : Option Ast.GroupByClause}
    {first : BindM (List Bound.TableRef)} {second fourth : BindM (Option Bound.Expr)}
    {third : BindM (List Bound.Expr)} {fifth : List TableInstance → BindM (List Bound.SelectItem)} :
    CalledFor j.Source (return []) source first →
    CalledFor (j.Condition .filter) (return none) filter second →
    CalledFor j.Grouping (return []) grouping third →
    CalledFor (j.Condition .having) (return none) having fourth →
    (∀ instances, CalledFor (j.Head instances) (return []) head (fifth instances)) →
    j.Query (.select info head source filter grouping having) (do
      let references ← first
      let instances := references.flatMap Bound.TableRef.instances
      let inner ← childScope (.tables instances)
      let bound ← within inner do
        recordScope info
        let filter ← second
        let grouping ← third
        let having ← fourth
        let items ← fifth instances
        return Bound.Query.select (isDistinct head) references filter grouping having items
      recordQuery info (← limit (rowLimit head) bound) inner)

/-- **`ORDER BY`** and its entries. A position that is out of range is reported, and bound like any other
expression. -/
structure Orders : Prop where
  key (columns : List QueryColumn) {it : Ast.Expr} {first : BindM Bound.Expr} :
    it.position? = none → j.Expr it first → j.Key columns it first
  position (columns : List QueryColumn) (info : NodeInfo) (token : Token) {position : Int}
    {column : QueryColumn} : (Ast.Expr.literal info (some token)).position? = some (token, position) →
    columnAt? columns position = some column →
    j.Key columns (.literal info (some token)) (recordExpr info (.slot column.slot))
  outside (columns : List QueryColumn) (info : NodeInfo) (token : Token) {position : Int}
    {first : BindM Bound.Expr} : (Ast.Expr.literal info (some token)).position? = some (token, position) →
    columnAt? columns position = none → j.Expr (.literal info (some token)) first →
    j.Key columns (.literal info (some token)) (do
      report token.span (.orderByPosition position columns.length)
      first)
  entry (columns : List QueryColumn) (info : NodeInfo) (descending : Bool) {key : Option Ast.Expr}
    {first : BindM Bound.Expr} : CalledFor (j.Key columns) missingExpr key first →
    j.Entry columns (.mk info key descending) (do
      let key ← first
      return .mk key descending)
  ordered (info : NodeInfo) {input : Option Ast.Query} {items : List Ast.OrderItem}
    {first : BindM ScopedQuery} {second : List QueryColumn → BindM (List Bound.OrderKey)} :
    j.OptionalQuery input first → (∀ columns, InTurn (j.Entry columns) items (second columns)) →
    j.Query (.ordered info input items) (do
      let scope ← currentScope
      let input ← first
      let columns := input.query.output
      let inner ← supply (input.inner.child (.queryColumns columns))
      let keys ← within inner do
        recordScope info
        second columns
      recordQuery info (.ordered input.query keys) scope)

/-- **The other queries**, and the definitions of a `WITH`. -/
structure Queries : Prop where
  parenthesizedQuery (info : NodeInfo) {inner : Option Ast.Query} {first : BindM ScopedQuery} :
    j.OptionalQuery inner first → j.Query (.parenthesized info inner) (do
      let scope ← currentScope
      let bound ← first
      return ⟨bound.query, scope⟩)
  combined (info : NodeInfo) (operator : Option SetOperator) {left right : Option Ast.Query}
    {first second : BindM ScopedQuery} : j.OptionalQuery left first → j.OptionalQuery right second →
    j.Query (.combined info left operator right) (do
      let scope ← currentScope
      let left ← first
      let right ← second
      recordQuery info (← combine info operator left.query right.query) scope)
  definition (earlier : List CommonTable) (info : NodeInfo) (ident : Option Token)
    (columns : Option Ast.ColumnNames) {body : Option Ast.Query} {first : BindM ScopedQuery} :
    j.OptionalQuery body first →
    j.Definition earlier (.mk info ident columns body) (do
      let scope ←
        if earlier.isEmpty then currentScope else childScope (.commonTables earlier)
      let body ← within scope do
        recordScope info
        first
      define info ident columns body.query)
  withTables (info : NodeInfo) {definitions : List Ast.CommonTable} {body : Option Ast.Query}
    {first : BindM (List Bound.Definition)} {second : BindM ScopedQuery} :
    DefinedInTurn j.Definition [] definitions first → j.OptionalQuery body second →
    j.Query (.withTables info definitions body) (do
      let scope ← currentScope
      let definitions ← first
      let inner ← childScope (.commonTables (definitions.map Bound.Definition.symbol))
      let body ← within inner do
        recordScope info
        second
      recordQuery info (.withTables definitions body.query) scope)

/-- **A closed judgment** holds of the computation for a node if it holds of those for its parts. -/
structure Closed : Prop extends j.Leaves, j.Operations, j.Branches, j.Members, j.Subqueries, j.Tables,
    j.Selects, j.Orders, j.Queries

end Rules

/-! ## The walk -/

namespace Closed

variable {j : Judgment}

mutual

/-- **Binding an expression** is judged form by form. -/
theorem expr (h : j.Closed) : ∀ it : Ast.Expr, j.Expr it (Binding.expr it)
  | .parenthesized info inner => by
    rw [Binding.expr]
    exact h.parenthesized info (optionalExpr h inner)
  | .name info ident => by
    rw [Binding.expr]
    exact h.name info ident
  | .parameter info ident => by
    rw [Binding.expr]
    exact h.parameter info ident
  | .literal info token => by
    rw [Binding.expr]
    exact h.literal info token
  | .unary info operator operand => by
    rw [Binding.expr]
    exact h.unary info operator (optionalExpr h operand)
  | .binary info left operator negated right => by
    rw [Binding.expr]
    exact h.binary info operator negated (optionalExpr h left) (optionalExpr h right)
  | .property info (some target) (some ident) => by
    have htarget : j.Expr target (Binding.expr target) := expr h target
    rw [Binding.expr]
    cases hqualifier : qualifier? target with
    | none => exact h.property info ident hqualifier htarget
    | some qualifier =>
      cases eq_of_qualifier? hqualifier
      exact h.qualified info _ _ ident htarget
  | .property info none ident => by
    rw [Binding.expr]
    exact h.nameless info (.inl rfl)
  | .property info (some target) none => by
    rw [Binding.expr]
    · exact h.nameless info (.inr rfl)
    · simp
  | .method info target ident arguments => by
    rw [Binding.expr]
    exact h.method info ident (optionalExpr h target) (argumentList h arguments)
  | .call info ident arguments => by
    rw [Binding.expr]
    exact h.call info ident (argumentList h arguments)
  | .countAll info ident => by
    rw [Binding.expr]
    exact h.countAll info ident
  | .cast info operand type => by
    rw [Binding.expr]
    exact h.cast info type (optionalExpr h operand)
  | .isNull info operand negated => by
    rw [Binding.expr]
    exact h.isNull info negated (optionalExpr h operand)
  | .cases info input labels otherwise => by
    rw [Binding.expr]
    exact h.cases info (exprIfAny h input) (caseLabels h · labels) (exprIfAny h otherwise)
  | .subselect info body => by
    rw [Binding.expr]
    exact h.subselect info (optionalQuery h body)
  | .existence info body => by
    rw [Binding.expr]
    exact h.existence info (optionalQuery h body)
  | .quantified info left operator quantifier body => by
    rw [Binding.expr]
    exact h.quantified info operator quantifier (optionalExpr h left) (optionalQuery h body)
termination_by structural it => it

/-- Binding an expression that may be missing. -/
theorem optionalExpr (h : j.Closed) : ∀ it : Option Ast.Expr, j.OptionalExpr it (Binding.optionalExpr it)
  | some it => by
    rw [Binding.optionalExpr]
    exact .given (expr h it)
  | none => by
    rw [Binding.optionalExpr]
    exact .missing
termination_by structural it => it

/-- Binding an expression that need not be there. -/
theorem exprIfAny (h : j.Closed) : ∀ it : Option Ast.Expr, IfAny j.Expr it (Binding.exprIfAny it)
  | some it => by
    rw [Binding.exprIfAny]
    exact .given (expr h it)
  | none => by
    rw [Binding.exprIfAny]
    exact .missing
termination_by structural it => it

/-- Binding expressions one after the other. -/
theorem exprs (h : j.Closed) : ∀ items : List Ast.Expr, InTurn j.Expr items (Binding.exprs items)
  | [] => by
    rw [Binding.exprs]
    exact .nil
  | it :: rest => by
    rw [Binding.exprs]
    exact .cons (expr h it) (exprs h rest)
termination_by structural it => it

/-- Binding the arguments of a call. -/
theorem argumentList (h : j.Closed) : ∀ list : Option Ast.Arguments,
    CalledFor j.Arguments (return []) list (Binding.argumentList list)
  | some (.mk info items) => by
    rw [Binding.argumentList]
    exact .given (h.arguments info (exprs h items))
  | none => by
    rw [Binding.argumentList]
    exact .missing
termination_by structural it => it

/-- Binding the labels of a `CASE`. -/
theorem caseLabels (h : j.Closed) (input : Option Bound.Expr) : ∀ labels : List Ast.CaseLabel,
    InTurn (j.Label input) labels (Binding.caseLabels input labels)
  | [] => by
    rw [Binding.caseLabels]
    exact .nil
  | .mk info condition result :: rest => by
    rw [Binding.caseLabels]
    exact .cons (h.label input info (optionalExpr h condition) (optionalExpr h result))
      (caseLabels h input rest)
termination_by structural it => it

/-- Binding the condition of a clause. -/
theorem conditionIfAny (h : j.Closed) (place : ConditionPlace) : ∀ it : Option Ast.Condition,
    CalledFor (j.Condition place) (return none) it (Binding.conditionIfAny place it)
  | some (.mk info predicate) => by
    rw [Binding.conditionIfAny]
    exact .given (h.condition info place (optionalExpr h predicate))
  | none => by
    rw [Binding.conditionIfAny]
    exact .missing
termination_by structural it => it

/-- **Binding a table reference** is judged form by form. -/
theorem table (h : j.Closed) : ∀ it : Ast.TableRef, j.Table it (Binding.table it)
  | .parenthesized info inner => by
    rw [Binding.table]
    exact h.parenthesizedTable info (optionalTable h inner)
  | .named info ident correlation => by
    rw [Binding.table]
    exact h.named info ident correlation
  | .derived info body ident => by
    rw [Binding.table]
    exact h.derived info ident (optionalQuery h body)
  | .joined info left kind right condition => by
    rw [Binding.table]
    exact h.joined info kind (optionalTable h left) (optionalTable h right) (conditionIfAny h .on condition)
termination_by structural it => it

/-- Binding a table reference that may be missing. -/
theorem optionalTable (h : j.Closed) : ∀ it : Option Ast.TableRef,
    j.OptionalTable it (Binding.optionalTable it)
  | some it => by
    rw [Binding.optionalTable]
    exact .given (table h it)
  | none => by
    rw [Binding.optionalTable]
    exact .missing
termination_by structural it => it

/-- Binding table references one after the other. -/
theorem tables (h : j.Closed) : ∀ items : List Ast.TableRef, InTurn j.Table items (Binding.tables items)
  | [] => by
    rw [Binding.tables]
    exact .nil
  | it :: rest => by
    rw [Binding.tables]
    exact .cons (table h it) (tables h rest)
termination_by structural it => it

/-- Binding a `FROM` clause. -/
theorem fromClause (h : j.Closed) : ∀ it : Option Ast.FromClause,
    CalledFor j.Source (return []) it (Binding.fromClause it)
  | some (.mk info items) => by
    rw [Binding.fromClause]
    exact .given (h.source info (tables h items))
  | none => by
    rw [Binding.fromClause]
    exact .missing
termination_by structural it => it

/-- Binding a `GROUP BY` clause. -/
theorem groupByClause (h : j.Closed) : ∀ it : Option Ast.GroupByClause,
    CalledFor j.Grouping (return []) it (Binding.groupByClause it)
  | some (.mk info keys) => by
    rw [Binding.groupByClause]
    exact .given (h.grouping info (exprs h keys))
  | none => by
    rw [Binding.groupByClause]
    exact .missing
termination_by structural it => it

/-- Binding the entries of a select list. -/
theorem selectItems (h : j.Closed) (instances : List TableInstance) : ∀ items : List Ast.SelectItem,
    InTurn (j.Item instances) items (Binding.selectItems instances items)
  | [] => by
    rw [Binding.selectItems]
    exact .nil
  | .column info value correlation :: rest => by
    rw [Binding.selectItems]
    exact .cons (h.column instances info correlation (optionalExpr h value)) (selectItems h instances rest)
  | .wildcard info token :: rest => by
    rw [Binding.selectItems]
    exact .cons (h.wildcard instances info token) (selectItems h instances rest)
termination_by structural it => it

/-- Binding the select list of a `SELECT`. -/
theorem selectClause (h : j.Closed) (instances : List TableInstance) : ∀ it : Option Ast.SelectClause,
    CalledFor (j.Head instances) (return []) it (Binding.selectClause instances it)
  | some (.mk info distinct top items) => by
    rw [Binding.selectClause]
    exact .given (h.head instances info distinct top (selectItems h instances items))
  | none => by
    rw [Binding.selectClause]
    exact .missing
termination_by structural it => it

/-- Binding the key of an `ORDER BY` entry. -/
theorem orderKey (h : j.Closed) (columns : List QueryColumn) : ∀ key : Option Ast.Expr,
    CalledFor (j.Key columns) missingExpr key (Binding.orderKey columns key)
  | none => by
    rw [Binding.orderKey]
    exact .missing
  | some key => by
    have hkey : j.Expr key (Binding.expr key) := expr h key
    rw [Binding.orderKey]
    split
    next hnone => exact .given (h.key columns hnone hkey)
    next token position hposition =>
      obtain ⟨info, rfl⟩ := exists_of_position? hposition
      split
      next column hcolumn => exact .given (h.position columns info token hposition hcolumn)
      next hcolumn => exact .given (h.outside columns info token hposition hcolumn hkey)
termination_by structural it => it

/-- Binding the entries of an `ORDER BY`. -/
theorem orderItems (h : j.Closed) (columns : List QueryColumn) : ∀ items : List Ast.OrderItem,
    InTurn (j.Entry columns) items (Binding.orderItems columns items)
  | [] => by
    rw [Binding.orderItems]
    exact .nil
  | .mk info key descending :: rest => by
    rw [Binding.orderItems]
    exact .cons (h.entry columns info descending (orderKey h columns key)) (orderItems h columns rest)
termination_by structural it => it

/-- Binding the definitions of a `WITH`. -/
theorem commonTables (h : j.Closed) : ∀ (earlier : List CommonTable) (items : List Ast.CommonTable),
    DefinedInTurn j.Definition earlier items (Binding.commonTables earlier items)
  | earlier, [] => by
    rw [Binding.commonTables]
    exact .nil
  | earlier, .mk info ident columns body :: rest => by
    have hfirst := h.definition earlier info ident columns (optionalQuery h body)
    have hcons := DefinedInTurn.cons hfirst fun definition =>
      commonTables h (earlier ++ [definition.symbol]) rest
    rw [Binding.commonTables]
    split at hcons
    next hempty => exact (if_pos hempty).symm ▸ hcons
    next hempty => exact (if_neg hempty).symm ▸ hcons
termination_by structural _ it => it

/-- **Binding a query** is judged form by form. -/
theorem query (h : j.Closed) : ∀ it : Ast.Query, j.Query it (Binding.query it)
  | .parenthesized info inner => by
    rw [Binding.query]
    exact h.parenthesizedQuery info (optionalQuery h inner)
  | .select info head source filter grouping having => by
    have hselect := h.select info (fromClause h source) (conditionIfAny h .filter filter)
      (groupByClause h grouping) (conditionIfAny h .having having) (selectClause h · head)
    rw [Binding.query]
    exact hselect
  | .combined info left operator right => by
    rw [Binding.query]
    exact h.combined info operator (optionalQuery h left) (optionalQuery h right)
  | .ordered info input items => by
    have hordered := h.ordered info (optionalQuery h input) (orderItems h · items)
    rw [Binding.query]
    exact hordered
  | .withTables info definitions body => by
    rw [Binding.query]
    exact h.withTables info (commonTables h [] definitions) (optionalQuery h body)
termination_by structural it => it

/-- Binding a query that may be missing. -/
theorem optionalQuery (h : j.Closed) : ∀ it : Option Ast.Query,
    j.OptionalQuery it (Binding.optionalQuery it)
  | some it => by
    rw [Binding.optionalQuery]
    exact .given (query h it)
  | none => by
    rw [Binding.optionalQuery]
    exact .missing
termination_by structural it => it

end

end Closed

end Judgment

end Binding

end QuerySemantics
