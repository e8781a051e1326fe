import QuerySemantics.Proofs.Binding.Visit
import QuerySemantics.Proofs.Binding.Walk

/-!
# Binding visits

The walk through a query, form by form: binding an expression, a table reference or a query in a
scope visits it there. What the rules do between the parts is quiet, so each form is settled by the
visits of its parts.

## Main definitions

* `Binding.visits`: the judgment that binding a node visits it.

## Main results

* `Binding.visits_closed`: binding visits the syntax.
* `SyntaxTree.bind_visits`: binding a tree visits its root.
-/

set_option autoImplicit false

namespace QuerySemantics

namespace Binding

/-! ## Settling a node -/

section Settling

variable {env : Env} {first second third : Pass} {early : List Step} {piece : Piece}

/-- A node without a scope of its own, whose parts are visited and which has no record. -/
theorem Pass.Visits.passed (h : first.Visits early second) (henters : piece.enters = false)
    (hrecorded : piece.isRecorded = false) (hgathers : gathers piece = false)
    (hearly : early.map Step.piece = piece.early)
    (hscope : ∀ step ∈ early, step.scope = env.scope) :
    first.Visits [.plain env.scope (some piece)] second := by
  have hentered : (second.entered piece env.scope).Agrees second :=
    ⟨rfl, by simp [entered, entry, henters], Nat.le_refl _⟩
  have hlate : List.map Step.piece [] = piece.late := (Piece.late_eq_nil henters).symm
  exact .node (.stays henters hscope) hearly h hentered hlate (by simp)
    (Pass.Agrees.refl second).visits (.passed hrecorded hgathers) (.refl second)

/-- A node without a scope of its own, which passes on the instances of its parts. -/
theorem Pass.Visits.gathered (h : first.Visits early second) (henters : piece.enters = false)
    (hgathers : gathers piece = true) (hearly : early.map Step.piece = piece.early)
    (hscope : ∀ step ∈ early, step.scope = env.scope) :
    first.Visits [⟨env.scope, some piece, early.flatMap (·.outcome.instances), [], env.scope⟩]
      second := by
  have hentered : (second.entered piece env.scope).Agrees second :=
    ⟨rfl, by simp [entered, entry, henters], Nat.le_refl _⟩
  have hlate : List.map Step.piece [] = piece.late := (Piece.late_eq_nil henters).symm
  exact .node (.stays henters hscope) hearly h hentered hlate (by simp)
    (Pass.Agrees.refl second).visits (.gathered hgathers) (.refl second)

/-- A node without a scope of its own, whose parts are visited and which is recorded last. -/
theorem Pass.Visits.settled {outcome : Outcome} {node : Bound.Node} {info : NodeInfo}
    (h : first.Visits early second) (henters : piece.enters = false)
    (hearly : early.map Step.piece = piece.early)
    (hscope : ∀ step ∈ early, step.scope = env.scope) (hagrees : second.Agrees third)
    (hown : Concludes env.scope env.scope early second.next third.next piece outcome
      [⟨info, node, env.scope⟩]) :
    Ends env third (record info node)
      fun _ last => first.Visits [⟨env.scope, some piece, outcome⟩] last := by
  have hentered : (second.entered piece env.scope).Agrees second :=
    ⟨rfl, by simp [entered, entry, henters], Nat.le_refl _⟩
  have hlate : List.map Step.piece [] = piece.late := (Piece.late_eq_nil henters).symm
  have hrecorded : (second.recorded [⟨info, node, env.scope⟩]).Agrees
      (third.recorded [⟨info, node, env.scope⟩]) :=
    ⟨by simp [recorded, hagrees.records], hagrees.scopes, hagrees.next⟩
  exact Visits.node (.stays henters hscope) hearly h hentered hlate (by simp)
    (Pass.Agrees.refl second).visits hown hrecorded

/-- A node enters a scope by recording it. -/
theorem Ends.entering {α : Type} {info : NodeInfo} {inner : Scope} {rest : BindM α}
    {post : α → Pass → Prop} (henters : piece.enters = true) (hinfo : piece.info? = some info)
    (h : Ends { env with scope := inner } (second.entered piece inner) rest post) :
    Ends env second (Binding.within inner (do recordScope info; rest)) post := by
  have hstate : (recordScope info { env with scope := inner } second).2 =
      second.entered piece inner := by
    simp [recordScope, Pass.entered, entry, henters, hinfo]
  have hentered : Ends { env with scope := inner } second (recordScope info)
      fun _ last => last = second.entered piece inner := hstate
  refine Ends.within (hentered.bind fun _ last hlast => ?_)
  rw [hlast]
  exact h

/-- **Closing a node** with a scope of its own, whose parts are visited and which is recorded
last. -/
theorem Pass.Visits.closed {fourth : Pass} {scope inner : Scope} {late : List Step}
    {outcome : Outcome} {node : Bound.Node} {info : NodeInfo} (h₁ : first.Visits early second)
    (hearly : early.map Step.piece = piece.early) (henters : Enters scope early piece inner)
    (h₂ : (second.entered piece inner).Visits late third)
    (hlate : late.map Step.piece = piece.late) (hscope : ∀ step ∈ late, step.scope = inner)
    (hagrees : third.Agrees fourth)
    (hown : Concludes scope inner early third.next fourth.next piece outcome
      [⟨info, node, env.scope⟩]) :
    Ends env fourth (record info node)
      fun _ last => first.Visits [⟨scope, some piece, outcome⟩] last := by
  have hrecorded : (third.recorded [⟨info, node, env.scope⟩]).Agrees
      (fourth.recorded [⟨info, node, env.scope⟩]) :=
    ⟨by simp [recorded, hagrees.records], hagrees.scopes, hagrees.next⟩
  exact Visits.node henters hearly h₁ (.refl _) hlate hscope h₂ hown hrecorded

/-- **Settling an expression**: its parts are visited and it is recorded with a grounded value. -/
theorem Pass.Visits.recordExpr {it : Ast.Expr} {value : Bound.Expr} (h : first.Visits early second)
    (hearly : early.map Step.piece = (Piece.expr it).early)
    (hscope : ∀ step ∈ early, step.scope = env.scope)
    (hrecorded : (Piece.expr it).isRecorded = true) (hagrees : second.Agrees third)
    (hgrounded : value.GroundedIn env.scope) :
    Ends env third (recordExpr it.info value)
      fun _ last => first.Visits [.plain env.scope (some (.expr it))] last :=
  (h.settled rfl hearly hscope hagrees (.expr hrecorded hgrounded)).bind fun _ _ h => .pure h

/-- Settling an expression by a quiet rule for its value. -/
theorem Pass.Visits.expr {it : Ast.Expr} {rule : BindM Bound.Expr} (h : first.Visits early second)
    (hearly : early.map Step.piece = (Piece.expr it).early)
    (hscope : ∀ step ∈ early, step.scope = env.scope)
    (hrecorded : (Piece.expr it).isRecorded = true)
    (hrule : Quiet env rule (·.GroundedIn env.scope)) :
    Ends env second (do Binding.recordExpr it.info (← rule))
      fun _ last => first.Visits [.plain env.scope (some (.expr it))] last :=
  (hrule second).bind fun _ _ ⟨hagrees, hgrounded⟩ =>
    h.recordExpr hearly hscope hrecorded hagrees hgrounded

end Settling

/-! ## Qualified names -/

/-- **A decided qualifier is visited**: where it is not a value, the qualifier is recorded, and the
name that it stands in front of is grounded. -/
theorem qualified_visits (info : NodeInfo) (token member : Token) (env : Env) (pass : Pass) :
    Ends env pass (qualified info token member) fun decided pass' =>
      match decided with
      | some it => pass.Visits [.plain env.scope (some (.expr (.name info (some token))))] pass' ∧
          it.GroundedIn env.scope
      | none => pass.Agrees pass' := by
  -- whatever the qualifier itself refers to is recorded for it
  have hrecord : ∀ {before : Pass} {value : Bound.Expr}, pass.Agrees before →
      value.GroundedIn env.scope → Ends env before (recordExpr info value) fun _ last =>
        pass.Visits [.plain env.scope (some (.expr (.name info (some token))))] last :=
    fun hbefore hvalue =>
      Pass.Visits.recordExpr (Pass.Agrees.refl pass).visits rfl (by simp) rfl hbefore hvalue
  have hbad : ∀ {before : Pass} {problem : Problem}, pass.Agrees before → Ends env before
      (propertyOfBad info token.ident token.span problem member.ident) fun it last =>
        pass.Visits [.plain env.scope (some (.expr (.name info (some token))))] last ∧
          it.GroundedIn env.scope := by
    intro before problem hbefore
    refine (Quiet.report _ _ before).bind fun _ reported h₁ => ?_
    refine (Quiet.badName _ reported).bind fun value named h₂ => ?_
    obtain ⟨id, rfl⟩ := h₂.2
    have hnamed := hbefore.trans (h₁.1.trans h₂.1)
    refine (hrecord hnamed (.of_symbol rfl (.bad _ id _))).bind fun target recorded h₃ => ?_
    refine (Quiet.badSymbol _ recorded).bind fun symbol last h₄ => ?_
    obtain ⟨id', rfl⟩ := h₄.2
    exact .pure ⟨h₃.agrees h₄.1, .of_symbol rfl (.bad _ id' _)⟩
  unfold qualified
  refine (Quiet.currentScope pass).bind fun scope before ⟨h₁, hscope⟩ => ?_
  refine (Quiet.caseSensitive before).bind fun cased looked ⟨h₂, _⟩ => ?_
  subst hscope
  have hlooked := h₁.trans h₂
  dsimp only
  split
  · rename_i table hfound
    have htable := Scope.mem_visible_of_resolveInstance hfound
    have hvalue : (Symbol.tableInstance table).GroundedIn env.scope :=
      .of_mem (Scope.mem_offered_of_visible htable)
    refine (hrecord hlooked (.of_symbol rfl hvalue)).bind fun _ recorded h₃ => ?_
    refine (Quiet.columnOf member htable recorded).bind fun symbol last h₄ => ?_
    exact .pure ⟨h₃.agrees h₄.1, .of_symbol rfl h₄.2⟩
  · exact (hbad hlooked).bind fun _ _ h => .pure h
  · split
    · exact (hbad hlooked).bind fun _ _ h => .pure h
    · exact .pure hlooked

/-! ## New tables -/

/-- A new table instance takes the next identity for itself. -/
theorem newInstance_ends (name : String) (source : TableSource) (env : Env) (pass : Pass) :
    Ends env pass (supply (TableInstance.create name source)) fun table last =>
      pass.Agrees last ∧ pass.next ≤ table.id ∧ table.id < last.next ∧ table.source = source :=
  ⟨⟨rfl, rfl, Supply.Advances.tableInstance name source pass.next⟩, Nat.le_refl _,
    Supply.Advances.instanceColumns name source.columns (pass.next + 1), rfl⟩

/-- A table that is not there has an instance of its own. -/
theorem missingTable_ends (env : Env) (pass : Pass) :
    Ends env pass missingTable fun it last => pass.Agrees last ∧ ∃ table, it = .named table ∧
      pass.next ≤ table.id ∧ table.id < last.next ∧ ∀ common, table.source ≠ .common common := by
  refine (Quiet.badInstance "" pass).bind fun source before ⟨h₁, id, hsource⟩ => ?_
  refine (newInstance_ends _ _ env before).bind fun table last ⟨h₂, hle, hlt, heq⟩ => ?_
  refine .pure ⟨h₁.trans h₂, table, rfl, Nat.le_trans h₁.next hle, hlt, fun common h => ?_⟩
  rw [heq, hsource] at h
  cases h

/-- A table by name is a new instance; a common table that it is an occurrence of is declared. -/
theorem namedTable_ends (ident : Option Token) (correlation : Option Ast.Alias) (env : Env)
    (pass : Pass) :
    Ends env pass (namedTable ident correlation) fun it last => pass.Agrees last ∧
      ∃ table, it = .named table ∧ pass.next ≤ table.id ∧ table.id < last.next ∧
        ∀ common, table.source = .common common → Declared.ofCommonTable common ∈ env.scope.declares := by
  unfold namedTable
  split
  · refine (missingTable_ends env pass).mono fun it last ⟨h, table, heq, hle, hlt, hsource⟩ => ?_
    exact ⟨h, table, heq, hle, hlt, fun common hcommon => absurd hcommon (hsource common)⟩
  · refine (Quiet.tableNamed _ pass).bind fun source before ⟨h₁, hdeclares⟩ => ?_
    refine (newInstance_ends _ _ env before).bind fun table last ⟨h₂, hle, hlt, heq⟩ => ?_
    exact .pure ⟨h₁.trans h₂, table, rfl, Nat.le_trans h₁.next hle, hlt, heq ▸ hdeclares⟩

/-- A new common table takes the next identity for itself. -/
theorem newCommonTable_ends (name : String) (shape : List (String × SqlType))
    (kind : Bound.NodeKind) (output : List QueryColumn) (env : Env) (pass : Pass) :
    Ends env pass (supply (CommonTable.create name shape kind output)) fun table last =>
      pass.Agrees last ∧ pass.next ≤ table.id ∧ table.id < last.next :=
  ⟨⟨rfl, rfl, Supply.Advances.commonTable name shape kind output pass.next⟩, Nat.le_refl _,
    Supply.Advances.columns 0 shape (pass.next + 1)⟩

/-- A query in place of a table is a new instance. -/
theorem derivedTable_ends (ident : Option Token) (query : Bound.Query) (env : Env) (pass : Pass) :
    Ends env pass (derivedTable ident query) fun it last => pass.Agrees last ∧
      ∃ table, it = .derived table query ∧ pass.next ≤ table.id ∧ table.id < last.next := by
  refine (Quiet.supply (.derivedTable _ _) pass).bind fun shape before ⟨h₁, _⟩ => ?_
  refine (newInstance_ends _ _ env before).bind fun table last ⟨h₂, hle, hlt, _⟩ => ?_
  exact .pure ⟨h₁.trans h₂, table, rfl, Nat.le_trans h₁.next hle, hlt⟩

/-- The scope of the right side of a join is the one at hand, or has the left side in front. -/
theorem lateralScope_quiet (kind : JoinKind) (left : Bound.TableRef) (env : Env) :
    Quiet env (lateralScope kind left) fun scope => scope = env.scope ∨ isLateral kind = true ∧
      ∃ id, scope = env.scope.push id (.tables left.instances) := by
  unfold lateralScope
  split
  · rename_i hlateral
    exact (Quiet.childScope _).mono fun _ h => .inr ⟨hlateral, h⟩
  · exact Quiet.currentScope.mono fun _ h => .inl h

/-! ## Steps of lists -/

/-- The steps of pieces that introduce nothing. -/
def plainSteps {α : Type} (scope : Scope) (wrap : α → Piece) (items : List α) : List Step :=
  items.map fun it => .plain scope (some (wrap it))

/-- Steps in one scope go to all items of a list. -/
@[simp] theorem map_piece_plainSteps {α : Type} (scope : Scope) (wrap : α → Piece)
    (items : List α) : (plainSteps scope wrap items).map Step.piece = items.map (some ∘ wrap) := by
  simp [plainSteps, Step.plain, Function.comp_def]

/-- Steps in one scope stay in that scope. -/
theorem scope_of_mem_plainSteps {α : Type} {scope : Scope} {wrap : α → Piece} {items : List α} :
    ∀ step ∈ plainSteps scope wrap items, step.scope = scope := by
  intro step hstep
  obtain ⟨it, -, rfl⟩ := List.mem_map.1 hstep
  rfl

/-- The step of a query, with the scope that an `ORDER BY` looks into. -/
def queryStep (scope : Scope) (query : Option Ast.Query) (inner : Scope) : Step :=
  ⟨scope, query.map .query, [], [], inner⟩

/-- The step of a table reference, with the instances that it introduces. -/
def tableStep (scope : Scope) (table : Option Ast.TableRef) (instances : List TableInstance) :
    Step :=
  ⟨scope, table.map .table, instances, [], scope⟩

/-- The step of a piece that introduces nothing and is not there. -/
theorem Pass.Agrees.visits_none {first second : Pass} (h : first.Agrees second) (scope : Scope) :
    first.Visits [.plain scope none] second :=
  visits_missing h fun _ htable => absurd htable List.not_mem_nil

/-! ## Visiting parts -/

/-- **Visiting**: the computation visits the piece in the scope at hand, and leaves nothing to what is
behind it. -/
def VisitsPiece {α : Type} (it : Piece) (body : BindM α) : Prop :=
  ∀ env pass, Ends env pass body fun _ last => pass.Visits [.plain env.scope (some it)] last

namespace VisitsPiece

variable {α β : Type} {wrap : α → Piece}

/-- A part that may be missing, if nothing is recorded in its place. -/
theorem calledFor {instead body : BindM β} {it : Option α}
    (h : CalledFor (fun it => VisitsPiece (wrap it)) instead it body)
    (hmissing : ∀ env pass, Ends env pass instead fun _ last => pass.Agrees last) (env : Env)
    (pass : Pass) :
    Ends env pass body fun _ last => pass.Visits [.plain env.scope (it.map wrap)] last := by
  cases h with
  | given h => exact h env pass
  | missing => exact (hmissing env pass).mono fun _ _ h => h.visits_none env.scope

/-- A part in the place of which nothing is done. -/
theorem ifGiven {value : β} {body : BindM β} {it : Option α}
    (h : CalledFor (fun it => VisitsPiece (wrap it)) (return value) it body) (env : Env)
    (pass : Pass) :
    Ends env pass body fun _ last => pass.Visits [.plain env.scope (it.map wrap)] last :=
  calledFor h (fun _ pass => .pure (.refl pass)) env pass

/-- A part that need not be there. -/
theorem ifAny {body : BindM (Option β)} {it : Option α}
    (h : IfAny (fun it => VisitsPiece (wrap it)) it body) (env : Env) (pass : Pass) :
    Ends env pass body fun _ last => pass.Visits [.plain env.scope (it.map wrap)] last := by
  cases h with
  | given h => exact (h env pass).bind fun _ _ h => .pure h
  | missing => exact .pure ((Pass.Agrees.refl pass).visits_none env.scope)

/-- Parts one after the other. -/
theorem inTurn {body : BindM (List β)} {items : List α}
    (h : InTurn (fun it => VisitsPiece (wrap it)) items body) (env : Env) (pass : Pass) :
    Ends env pass body fun _ last => pass.Visits (plainSteps env.scope wrap items) last := by
  induction h generalizing pass with
  | nil => exact .pure (Pass.Agrees.refl pass).visits
  | cons hfirst _ ih =>
    refine (hfirst env pass).bind fun _ middle h₁ => ?_
    exact (ih middle).bind fun _ _ h₂ => .pure (h₁.trans h₂)

end VisitsPiece

/-! ## The judgment -/

/-- **Binding a node visits it.** The steps of tables have their instances, those of queries the scope
that an `ORDER BY` looks into, and those of definitions the common table. -/
def visits : Judgment where
  Expr it := VisitsPiece (.expr it)
  Arguments it := VisitsPiece (.arguments it)
  Label _ it := VisitsPiece (.caseLabel it)
  Condition _ it := VisitsPiece (.condition it)
  Table it body := ∀ env pass, Ends env pass body fun bound last =>
    pass.Visits [tableStep env.scope (some it) bound.instances] last
  Source it body := ∀ env pass, Ends env pass body fun bound last =>
    pass.Visits [⟨env.scope, some (.fromClause it), bound.flatMap Bound.TableRef.instances, [],
      env.scope⟩] last
  Grouping it := VisitsPiece (.groupBy it)
  Item _ it := VisitsPiece (.selectItem it)
  Head _ it := VisitsPiece (.selectClause it)
  Key _ it := VisitsPiece (.expr it)
  Entry _ it := VisitsPiece (.orderItem it)
  Definition earlier it body := ∀ env pass, Ends env pass body fun definition last => ∃ scope : Scope,
    (scope = env.scope ∨ ∃ id, scope = env.scope.push id (.commonTables earlier)) ∧
      pass.Visits [⟨scope, some (.commonTable it), [], [definition.symbol], scope⟩] last
  Query it body := ∀ env pass, Ends env pass body fun bound last =>
    pass.Visits [queryStep env.scope (some it) bound.inner] last

section Parts

variable {env : Env} {pass : Pass}

/-- Expressions that are called for. -/
theorem Ends.optionalExpr {it : Option Ast.Expr} {body : BindM Bound.Expr}
    (h : visits.OptionalExpr it body) :
    Ends env pass body fun _ last => pass.Visits [.plain env.scope (it.map .expr)] last :=
  VisitsPiece.calledFor h (fun _ pass => (Quiet.missing pass).mono fun _ _ h => h.1) env pass

/-- Table references that are called for, with the instances that they introduce. -/
theorem Ends.optionalTable {it : Option Ast.TableRef} {body : BindM Bound.TableRef}
    (h : visits.OptionalTable it body) : Ends env pass body fun bound last =>
      pass.Visits [tableStep env.scope it bound.instances] last := by
  cases h with
  | given h => exact h env pass
  | missing =>
    refine (missingTable_ends env pass).mono fun it last ⟨h, table, hit, hle, hlt, _⟩ => ?_
    subst hit
    exact Pass.visits_missing h (by simp [Bound.TableRef.instances, hle, hlt])

/-- Table references one after the other. -/
theorem Ends.tables {items : List Ast.TableRef} {body : BindM (List Bound.TableRef)}
    (h : InTurn visits.Table items body) : Ends env pass body fun bound last => ∃ steps : List Step,
      steps.map Step.piece = items.map (some ∘ .table) ∧
        (∀ step ∈ steps, step.scope = env.scope) ∧
          steps.flatMap (·.outcome.instances) = bound.flatMap Bound.TableRef.instances ∧
            pass.Visits steps last := by
  induction h generalizing pass with
  | nil => exact .pure ⟨[], rfl, by simp, rfl, (Pass.Agrees.refl pass).visits⟩
  | @cons it rest _ _ hfirst _ ih =>
    refine (hfirst env pass).bind fun first middle h₁ => ?_
    refine (@ih middle).bind fun bound last ⟨steps, hpieces, hscope, hinstances, h₂⟩ => .pure ?_
    refine ⟨tableStep env.scope (some it) first.instances :: steps, ?_, ?_, ?_, h₁.trans h₂⟩
    · simp [hpieces, tableStep]
    · simpa [tableStep] using hscope
    · simp [hinstances, tableStep]

/-- The list of a `FROM`, with the instances that it introduces. -/
theorem Ends.fromClause {it : Option Ast.FromClause} {body : BindM (List Bound.TableRef)}
    (h : CalledFor visits.Source (return []) it body) : Ends env pass body fun bound last =>
      pass.Visits [⟨env.scope, it.map .fromClause, bound.flatMap Bound.TableRef.instances, [],
        env.scope⟩] last := by
  cases h with
  | given h => exact h env pass
  | missing => exact .pure (Pass.visits_missing (.refl pass) (by simp))

/-- Queries that are called for, with the scope that an `ORDER BY` behind them looks into. -/
theorem Ends.optionalQuery {it : Option Ast.Query} {body : BindM ScopedQuery}
    (h : visits.OptionalQuery it body) : Ends env pass body fun bound last =>
      pass.Visits [queryStep env.scope it bound.inner] last := by
  cases h with
  | given h => exact h env pass
  | missing =>
    exact (Quiet.currentScope pass).bind fun scope last ⟨h, hscope⟩ =>
      .pure (hscope ▸ h.visits_none env.scope)

/-- Definitions one after the other, each in the scope of those before it. -/
theorem Ends.definitions {earlier : List CommonTable} {items : List Ast.CommonTable}
    {body : BindM (List Bound.Definition)} (h : DefinedInTurn visits.Definition earlier items body) :
    Ends env pass body fun bound last => ∃ steps : List Step,
      steps.map Step.piece = items.map (some ∘ .commonTable) ∧ Chained env.scope earlier steps ∧
        steps.flatMap (·.outcome.defined) = bound.map Bound.Definition.symbol ∧
          pass.Visits steps last := by
  induction h generalizing pass with
  | nil => exact .pure ⟨[], rfl, trivial, rfl, (Pass.Agrees.refl pass).visits⟩
  | @cons earlier it rest _ _ hfirst _ ih =>
    refine (hfirst env pass).bind fun definition middle ⟨scope, hscope, h₁⟩ => ?_
    refine (@ih definition middle).bind
      fun bound last ⟨steps, hpieces, hchained, hdefined, h₂⟩ => .pure ?_
    refine ⟨⟨scope, some (.commonTable it), [], [definition.symbol], scope⟩ :: steps, ?_,
      ⟨hscope, hchained⟩, ?_, h₁.trans h₂⟩
    · simp [hpieces]
    · simp [hdefined]

end Parts

/-! ## The rules -/

/-- Visiting expressions without parts. -/
theorem visits_leaves : visits.Leaves where
  name _ ident _ pass := (Pass.Agrees.refl pass).visits.expr rfl (by simp) rfl (.name ident)
  parameter info ident _ pass :=
    (Pass.Agrees.refl pass).visits.expr rfl (by simp) rfl (.hostVariable info ident)
  literal _ token _ pass := (Pass.Agrees.refl pass).visits.expr rfl (by simp) rfl (.literal token)
  countAll info ident _ pass :=
    (Pass.Agrees.refl pass).visits.expr rfl (by simp) rfl (.countAll info ident)
  nameless info target ident hnone _ pass := by
    have hvisited : (Piece.expr (.property info target ident)).early = [] := by
      rcases hnone with rfl | rfl
      · cases ident <;> rfl
      · cases target <;> rfl
    exact (Pass.Agrees.refl pass).visits.expr hvisited.symm (by simp) rfl .missing

/-- Visiting operators and the conditions of clauses. -/
theorem visits_operations : visits.Operations where
  parenthesized _ _ _ h _ _ := (Ends.optionalExpr h).mono fun _ _ h =>
    h.passed rfl rfl rfl rfl (by simp [Step.plain])
  unary info operator _ _ h _ _ := (Ends.optionalExpr h).bind fun value _ h =>
    h.expr rfl (by simp [Step.plain]) rfl (.unary info operator value)
  binary info operator negated _ _ _ _ h₁ h₂ _ _ := by
    refine (Ends.optionalExpr h₁).bind fun left _ h₁ => ?_
    refine (Ends.optionalExpr h₂).bind fun right _ h₂ => ?_
    exact (h₁.trans h₂).expr rfl (by simp [Step.plain]) rfl (.binary info operator negated left right)
  cast info type _ _ h _ _ := (Ends.optionalExpr h).bind fun value _ h =>
    h.expr rfl (by simp [Step.plain]) rfl (.cast info value type)
  isNull _ _ _ _ h _ _ := (Ends.optionalExpr h).bind fun _ before h =>
    h.recordExpr rfl (by simp [Step.plain]) rfl (.refl before) (.of_none rfl)
  condition info place _ _ h _ _ := by
    refine (Ends.optionalExpr h).bind fun bound pass₁ h₁ => ?_
    refine (Quiet.checkCondition info.span place bound pass₁).bind fun _ pass₂ h₂ => ?_
    exact .pure ((h₁.agrees h₂.1).passed rfl rfl rfl rfl (by simp [Step.plain]))

/-- Visiting a `CASE` and its labels. -/
theorem visits_branches : visits.Branches where
  label input info condition _ _ _ h₁ h₂ _ _ := by
    refine (Ends.optionalExpr h₁).bind fun bound pass₁ h₁ => ?_
    refine (Quiet.checkLabel input condition bound pass₁).bind fun _ pass₂ h₂' => ?_
    refine (Ends.optionalExpr h₂).bind fun result pass₃ h₃ => ?_
    exact (((h₁.agrees h₂'.1).trans h₃).settled rfl rfl (by simp [Step.plain]) (.refl pass₃)
      .caseLabel).bind fun _ _ h => .pure h
  cases info _ _ _ _ _ _ h₁ h₂ h₃ env pass := by
    refine (VisitsPiece.ifAny h₁ env pass).bind fun input pass₁ h₁ => ?_
    refine (VisitsPiece.inTurn (h₂ input) env pass₁).bind fun labels pass₂ h₂ => ?_
    refine (VisitsPiece.ifAny h₃ env pass₂).bind fun otherwise pass₃ h₃ => ?_
    refine ((h₁.trans h₂).trans h₃).expr (by simp [Step.plain, Piece.early]) ?_ rfl
      (.caseOf info input labels otherwise)
    simp only [List.mem_append, List.mem_singleton]
    rintro step ((rfl | hstep) | rfl)
    · rfl
    · exact scope_of_mem_plainSteps step hstep
    · rfl

/-- Visiting properties, methods and calls. -/
theorem visits_members : visits.Members where
  property _ ident _ _ _ h env pass := (h env pass).bind fun target _ h =>
    h.expr rfl (by simp [Step.plain]) rfl (.property target ident)
  qualified info node token ident _ h env pass := by
    refine (qualified_visits node token ident env pass).bind fun decided before hdecided => ?_
    cases decided with
    | some it => exact hdecided.1.recordExpr rfl (by simp [Step.plain]) rfl (.refl before) hdecided.2
    | none =>
      refine (h env before).bind fun target _ h => ?_
      exact (hdecided.visits.trans h).expr rfl (by simp [Step.plain]) rfl (.property target ident)
  method info ident _ _ _ _ h₁ h₂ _ _ := by
    refine (Ends.optionalExpr h₁).bind fun target _ h₁ => ?_
    refine (VisitsPiece.ifGiven h₂ _ _).bind fun arguments _ h₂ => ?_
    exact (h₁.trans h₂).expr rfl (by simp [Step.plain]) rfl (.method info ident target arguments)
  call info ident _ _ h _ _ := (VisitsPiece.ifGiven h _ _).bind fun arguments _ h =>
    h.expr rfl (by simp [Step.plain]) rfl (.call info ident arguments)
  arguments _ _ _ h env pass := (VisitsPiece.inTurn h env pass).mono fun _ _ h =>
    h.passed rfl rfl rfl (by simp [Piece.early]) scope_of_mem_plainSteps

/-- Visiting expressions with a query in them. -/
theorem visits_subqueries : visits.Subqueries where
  subselect info _ _ h _ _ := (Ends.optionalQuery h).bind fun body _ h =>
    h.expr rfl (by simp [queryStep]) rfl (.subselect info body.query)
  existence _ _ _ h _ _ := (Ends.optionalQuery h).bind fun _ before h =>
    h.recordExpr rfl (by simp [queryStep]) rfl (.refl before) (.of_none rfl)
  quantified info operator quantifier _ _ _ _ h₁ h₂ _ _ := by
    refine (Ends.optionalExpr h₁).bind fun left _ h₁ => ?_
    refine (Ends.optionalQuery h₂).bind fun body _ h₂ => ?_
    exact (h₁.trans h₂).expr rfl (by simp [Step.plain, queryStep]) rfl
      (.quantified info operator quantifier left body.query)

/-- Visiting table references. -/
theorem visits_tables : visits.Tables where
  parenthesizedTable _ _ _ h _ _ := (Ends.optionalTable h).mono fun _ _ h => by
    simpa [tableStep] using h.gathered rfl rfl rfl (by simp [tableStep])
  named _ ident correlation env pass := by
    refine (namedTable_ends ident correlation env pass).bind
      fun it before ⟨hagrees, table, hit, hle, hlt, hsource⟩ => ?_
    subst hit
    exact ((Pass.Agrees.refl pass).visits.settled rfl rfl (by simp) hagrees
      (.named hle hlt hsource)).bind fun _ _ h => .pure h
  derived _ ident _ _ h env _ := by
    refine (Ends.optionalQuery h).bind fun body pass₁ h₁ => ?_
    refine (derivedTable_ends ident body.query env pass₁).bind
      fun it pass₂ ⟨hagrees, table, hit, hle, hlt⟩ => ?_
    subst hit
    exact (h₁.settled rfl rfl (by simp [queryStep]) hagrees (.derived hle hlt)).bind
      fun _ _ h => .pure h
  joined info kind left right condition _ _ third h₁ h₂ h₃ env pass := by
    -- the right side may see the left one, and the condition sees both
    refine (Ends.optionalTable h₁).bind fun left' pass₁ h₁ => ?_
    refine (lateralScope_quiet kind left' env pass₁).bind fun lateral pass₂ ⟨h₂', hlateral⟩ => ?_
    refine (Ends.within (Ends.optionalTable h₂)).bind fun right' pass₃ h₃' => ?_
    refine (Quiet.childScope _ pass₃).bind fun both pass₄ ⟨h₄, id, hboth⟩ => ?_
    subst hboth
    let piece := Piece.table (.joined info left kind right condition)
    let both := env.scope.push id (.tables (left'.instances ++ right'.instances))
    have hlate : Ends env pass₄ (within both (do
        recordScope info
        third)) fun _ last => (pass₄.entered piece both).Visits
          [.plain both (condition.map .condition)] last :=
      .entering rfl rfl (VisitsPiece.ifGiven h₃ _ _)
    refine hlate.bind fun condition' pass₅ h₅ => ?_
    have hparts := ((h₁.agrees h₂').trans h₃').agrees h₄
    have hentered : Enters env.scope ([tableStep env.scope left left'.instances] ++
        [tableStep lateral right right'.instances]) piece both := .joined rfl rfl hlateral
    refine (hparts.closed rfl hentered h₅ rfl (by simp [Step.plain]) (.refl pass₅)
      .joined).bind fun _ last h => .pure ?_
    simpa [tableStep, Bound.TableRef.instances] using h
  source _ _ _ h _ _ := (Ends.tables h).mono
    fun bound last ⟨steps, hpieces, hscope, hinstances, h⟩ => by
      rw [← hinstances]
      exact h.gathered rfl rfl hpieces hscope

/-- **The clauses of a `SELECT`** are visited in the scope with the tables of its `FROM`. -/
theorem Ends.clauses {env : Env} {pass : Pass} {inner : Scope} (info : NodeInfo)
    {head : Option Ast.SelectClause} (source : Option Ast.FromClause)
    {filter having : Option Ast.Condition} {grouping : Option Ast.GroupByClause}
    {references : List Bound.TableRef} {instances : List TableInstance}
    {second fourth : BindM (Option Bound.Expr)} {third : BindM (List Bound.Expr)}
    {fifth : BindM (List Bound.SelectItem)}
    (h₂ : CalledFor (visits.Condition .filter) (return none) filter second)
    (h₃ : CalledFor visits.Grouping (return []) grouping third)
    (h₄ : CalledFor (visits.Condition .having) (return none) having fourth)
    (h₅ : CalledFor (visits.Head instances) (return []) head fifth) :
    Ends env pass (Binding.within inner (do
        recordScope info
        let filter ← second
        let grouping ← third
        let having ← fourth
        let items ← fifth
        return Bound.Query.select (isDistinct head) references filter grouping having items))
      fun _ last => (pass.entered (.query (.select info head source filter grouping having))
        inner).Visits ([.plain inner (filter.map .condition)] ++ [.plain inner (grouping.map .groupBy)] ++
          [.plain inner (having.map .condition)] ++ [.plain inner (head.map .selectClause)]) last := by
  let piece := Piece.query (.select info head source filter grouping having)
  refine .entering (show piece.enters = true from rfl) rfl ?_
  refine (VisitsPiece.ifGiven h₂ _ _).bind fun _ pass₁ h₁ => ?_
  refine (VisitsPiece.ifGiven h₃ _ pass₁).bind fun _ pass₂ h₂ => ?_
  refine (VisitsPiece.ifGiven h₄ _ pass₂).bind fun _ pass₃ h₃ => ?_
  refine (VisitsPiece.ifGiven h₅ _ pass₃).bind fun _ pass₄ h₄ => .pure ?_
  exact ((h₁.trans h₂).trans h₃).trans h₄

/-- Visiting a `SELECT` and its clauses. -/
theorem visits_selects : visits.Selects where
  column _ info correlation value _ h _ _ := by
    refine (Ends.optionalExpr h).bind fun bound pass₁ h₁ => ?_
    refine (Quiet.supply (.queryColumn _ _) pass₁).bind fun column pass₂ h₂ => ?_
    exact (h₁.settled rfl rfl (by simp [Step.plain]) h₂.1 .selectItem).bind fun _ _ h => .pure h
  wildcard instances info token _ pass := by
    refine (Quiet.wildcardItem instances token pass).bind fun item pass₁ h₁ => ?_
    exact ((Pass.Agrees.refl pass).visits.settled rfl rfl (by simp) h₁.1 .selectItem).bind
      fun _ _ h => .pure h
  head _ _ _ _ _ _ h env pass := (VisitsPiece.inTurn h env pass).mono fun _ _ h =>
    h.passed rfl rfl rfl (by simp [Piece.early]) scope_of_mem_plainSteps
  grouping _ _ _ h env pass := (VisitsPiece.inTurn h env pass).mono fun _ _ h =>
    h.passed rfl rfl rfl (by simp [Piece.early]) scope_of_mem_plainSteps
  select info head source filter having grouping _ _ _ _ _ h₁ h₂ h₃ h₄ h₅ env pass := by
    refine (Ends.fromClause h₁).bind fun references pass₁ h₁ => ?_
    refine (Quiet.childScope _ pass₁).bind fun inner pass₂ hinner => ?_
    obtain ⟨h₂', id, rfl⟩ := hinner
    let instances := references.flatMap Bound.TableRef.instances
    let inner := env.scope.push id (.tables instances)
    let early : List Step := [⟨env.scope, source.map .fromClause, instances, [], env.scope⟩]
    have hentered : Enters env.scope early
        (.query (.select info head source filter grouping having)) inner := by
      have hinstances : early.flatMap (·.outcome.instances) = instances := by simp [early]
      rw [show inner = env.scope.push id (.tables (early.flatMap (·.outcome.instances))) by
        rw [hinstances]]
      exact .select (by simp [early])
    refine (Ends.clauses info source h₂ h₃ h₄ (h₅ instances)).bind fun bound pass₃ h₃ => ?_
    refine (Quiet.limit _ bound pass₃).bind fun limited pass₄ h₄ => ?_
    exact ((h₁.agrees h₂').closed rfl hentered h₃ rfl (by simp [Step.plain, inner, instances]) h₄.1
      .select).bind fun _ _ h => .pure h

/-- Visiting an `ORDER BY` and its entries. -/
theorem visits_orders : visits.Orders where
  key _ _ _ _ h := h
  position _ _ _ _ _ _ _ _ pass :=
    (Pass.Agrees.refl pass).visits.recordExpr rfl (by simp) rfl (.refl pass) (.of_none rfl)
  outside _ _ _ _ _ _ _ h env pass := by
    refine (Quiet.report _ _ pass).bind fun _ reported hreported => ?_
    exact (h env reported).mono fun _ _ h => hreported.1.visits.trans h
  entry _ _ _ _ _ h _ _ := by
    refine (VisitsPiece.calledFor h (fun _ pass => (Quiet.missing pass).mono fun _ _ h => h.1) _
      _).bind fun _ _ h => .pure ?_
    exact h.passed rfl rfl rfl rfl (by simp [Step.plain])
  ordered info input items _ second h₁ h₂ env pass := by
    refine (Quiet.currentScope pass).bind fun scope pass₁ ⟨h₁', hscope⟩ => ?_
    subst hscope
    refine (Ends.optionalQuery h₁).bind fun input' pass₂ h₂' => ?_
    refine (Quiet.child _ _ pass₂).bind fun inner pass₃ ⟨h₃, id, hinner⟩ => ?_
    subst hinner
    let columns := input'.query.output
    let piece := Piece.query (.ordered info input items)
    let inner := input'.inner.push id (.queryColumns columns)
    have hlate : Ends env pass₃ (within inner (do
        recordScope info
        second columns)) fun _ last => (pass₃.entered piece inner).Visits
          (plainSteps inner .orderItem items) last :=
      .entering rfl rfl (VisitsPiece.inTurn (h₂ columns) _ _)
    refine hlate.bind fun keys pass₄ h₄ => ?_
    have hentered : Enters env.scope [queryStep env.scope input input'.inner] piece inner :=
      .ordered rfl rfl
    exact (((h₁'.visits.trans h₂').agrees h₃).closed rfl hentered h₄ (by simp [piece, Piece.late])
      scope_of_mem_plainSteps (.refl pass₄) (.query rfl)).bind fun _ _ h => .pure h

/-- Visiting the other queries. -/
theorem visits_queries : visits.Queries where
  parenthesizedQuery _ _ _ h env pass := by
    refine (Quiet.currentScope pass).bind fun scope pass₁ ⟨h₁, hscope⟩ => ?_
    subst hscope
    refine (Ends.optionalQuery h).bind fun bound last h₂ => .pure ?_
    exact (h₁.visits.trans h₂).passed rfl rfl rfl rfl (by simp [queryStep])
  combined info operator _ _ _ _ h₁ h₂ env pass := by
    refine (Quiet.currentScope pass).bind fun scope pass₁ ⟨h₁', hscope⟩ => ?_
    subst hscope
    refine (Ends.optionalQuery h₁).bind fun left' pass₂ h₂' => ?_
    refine (Ends.optionalQuery h₂).bind fun right' pass₃ h₃ => ?_
    refine (Quiet.combine info operator _ _ pass₃).bind fun bound pass₄ h₄ => ?_
    exact (((h₁'.visits.trans h₂').trans h₃).settled rfl rfl (by simp [queryStep]) h₄.1
      (.query rfl)).bind fun _ _ h => .pure h
  definition earlier info ident columns body first h env pass := by
    let piece := Piece.commonTable (.mk info ident columns body)
    -- the definition, once it is clear which scope its query sees
    have hrest : ∀ {scope : Scope} {pass₁ : Pass}, pass.Agrees pass₁ →
        (scope = env.scope ∨ ∃ id, scope = env.scope.push id (.commonTables earlier)) →
        Ends env pass₁ (do
          let body ← within scope do
            recordScope info
            first
          define info ident columns body.query) fun definition last => ∃ scope : Scope,
            (scope = env.scope ∨ ∃ id, scope = env.scope.push id (.commonTables earlier)) ∧
              pass.Visits [⟨scope, some piece, [], [definition.symbol], scope⟩] last := by
      intro scope pass₁ h₁ hscope
      have hlate : Ends env pass₁ (within scope (do
          recordScope info
          first)) fun bound last => (pass₁.entered piece scope).Visits
            [queryStep scope body bound.inner] last :=
        .entering rfl rfl (Ends.optionalQuery h)
      refine hlate.bind fun bound pass₂ h₂ => ?_
      refine (Quiet.checkNames columns bound.query pass₂).bind fun _ pass₃ h₃ => ?_
      refine (newCommonTable_ends _ _ _ _ env pass₃).bind fun table pass₄ ⟨h₄, hle, hlt⟩ => ?_
      exact (h₁.visits.closed rfl (.commonTable rfl) h₂ rfl (by simp [queryStep])
        (h₃.1.trans h₄) (.commonTable (Nat.le_trans h₃.1.next hle) hlt)).bind
          fun _ _ h => .pure ⟨scope, hscope, h⟩
    split
    · refine (Quiet.currentScope pass).bind fun scope pass₁ ⟨h₁, hscope⟩ => ?_
      exact hrest h₁ (.inl hscope)
    · refine (Quiet.childScope _ pass).bind fun scope pass₁ ⟨h₁, hscope⟩ => ?_
      exact hrest h₁ (.inr hscope)
  withTables info definitions body _ second h₁ h₂ env pass := by
    refine (Quiet.currentScope pass).bind fun scope pass₁ ⟨h₁', hscope⟩ => ?_
    subst hscope
    refine (Ends.definitions h₁).bind
      fun bound pass₂ ⟨steps, hpieces, hchained, hdefined, h₂'⟩ => ?_
    refine (Quiet.childScope _ pass₂).bind fun inner pass₃ ⟨h₃, id, hinner⟩ => ?_
    subst hinner
    rw [← hdefined]
    let piece := Piece.query (.withTables info definitions body)
    let inner := env.scope.push id (.commonTables (steps.flatMap (·.outcome.defined)))
    have hlate : Ends env pass₃ (within inner (do
        recordScope info
        second)) fun bound last => (pass₃.entered piece inner).Visits
          [queryStep inner body bound.inner] last :=
      .entering rfl rfl (Ends.optionalQuery h₂)
    refine hlate.bind fun bound' pass₄ h₄ => ?_
    have hparts : pass.Visits steps pass₃ := (h₁'.visits.trans h₂').agrees h₃
    have hearly : steps.map Step.piece = piece.early := hpieces
    exact (hparts.closed hearly (.withTables hchained) h₄ rfl (by simp [queryStep, inner])
      (.refl pass₄) (.query rfl)).bind fun _ _ h => .pure h

/-- **Binding visits the syntax.** -/
theorem visits_closed : visits.Closed :=
  ⟨visits_leaves, visits_operations, visits_branches, visits_members, visits_subqueries,
    visits_tables, visits_selects, visits_orders, visits_queries⟩

/-- **Binding an expression visits it.** -/
theorem expr_visits (it : Ast.Expr) (env : Env) (pass : Pass) : Ends env pass (expr it) fun _ last =>
    pass.Visits [.plain env.scope (some (.expr it))] last :=
  visits_closed.expr it env pass

/-- **Binding a query visits it**, with the scope that an `ORDER BY` behind it looks into. -/
theorem query_visits (it : Ast.Query) (env : Env) (pass : Pass) :
    Ends env pass (query it) fun bound last =>
      pass.Visits [queryStep env.scope (some it) bound.inner] last :=
  visits_closed.query it env pass

/-- Binding the entries of an `ORDER BY` visits them in order. -/
theorem orderItems_visits (columns : List QueryColumn) (items : List Ast.OrderItem) (env : Env)
    (pass : Pass) : Ends env pass (orderItems columns items) fun _ last =>
      pass.Visits (plainSteps env.scope .orderItem items) last :=
  VisitsPiece.inTurn (visits_closed.orderItems columns items) env pass

/-! ## Whole trees -/

/-- **Binding what a tree is read as visits it**, if it is a unit, a query or an expression. -/
theorem piece_visits (it : Piece) (env : Env) (pass : Pass) :
    Ends env pass (piece it) fun _ last => ∃ outcome,
      pass.Visits (if it.isRoot then [⟨env.scope, some it, outcome⟩] else []) last := by
  have hnone : ∀ {root : Piece}, root.isRoot = false → Ends env pass (Pure.pure ()) fun _ last =>
      ∃ outcome, pass.Visits (if root.isRoot then [⟨env.scope, some root, outcome⟩] else [])
        last := by
    intro root hroot
    refine .pure ⟨.plain env.scope, ?_⟩
    simpa [hroot] using (Pass.Agrees.refl pass).visits
  cases it with
  | unit it =>
    obtain ⟨info, body, value⟩ := it
    cases body with
    | some body =>
      refine (query_visits body env pass).bind fun bound last h => .pure ⟨.plain env.scope, ?_⟩
      exact h.passed rfl rfl rfl rfl (by simp [queryStep])
    | none =>
      have hearly : [Step.plain env.scope (value.map Piece.expr)].map Step.piece =
          (Piece.unit ⟨info, none, value⟩).early := rfl
      cases value with
      | some value =>
        refine (expr_visits value env pass).bind fun bound last h => .pure ⟨.plain env.scope, ?_⟩
        exact h.passed rfl rfl rfl hearly (by simp [Step.plain])
      | none =>
        refine .pure ⟨.plain env.scope, ?_⟩
        have h := (Pass.Agrees.refl pass).visits_none env.scope
        exact h.passed rfl rfl rfl hearly (by simp [Step.plain])
  | query it => exact (query_visits it env pass).bind fun bound last h => .pure ⟨_, h⟩
  | expr it => exact (expr_visits it env pass).bind fun bound last h => .pure ⟨_, h⟩
  | _ => exact hnone rfl

/-- The pass over a tree first enters the scope at hand, and then visits what it is read as. -/
theorem pass_visits (part : Located) (env : Env) (before : Pass) :
    Ends env before (pass part) fun _ last => ∃ outcome,
      Pass.Visits { before with scopes := part.info?.toList.map (·, env.scope) ++ before.scopes }
        (if part.piece.isRoot then [⟨env.scope, some part.piece, outcome⟩] else []) last := by
  cases part with
  | token leaf => exact ⟨.plain env.scope, (Pass.Agrees.refl before).visits⟩
  | node info children => exact piece_visits (Located.node info children).piece env _

end Binding

open Binding

/-- The steps of binding a tree: its root, if it is a unit, a query or an expression. -/
def SyntaxTree.steps (tree : SyntaxTree) (scope : Scope) (outcome : Outcome) : List Step :=
  if tree.root.piece.isRoot then [⟨scope, some tree.root.piece, outcome⟩] else []

/-- Binding a tree comes to what its root reaches. -/
theorem SyntaxTree.comes_steps {tree : SyntaxTree} {scope : Scope} {outcome : Outcome}
    {piece : Piece} : Visit.Comes (tree.steps scope outcome) piece ↔
      tree.root.piece.isRoot = true ∧ tree.root.piece.Reached piece := by
  unfold steps
  cases tree.root.piece.isRoot <;> simp [Visit.Comes]

/-- **Binding a tree visits its root**, in the scope of the catalog. -/
theorem SyntaxTree.bind_visits (tree : SyntaxTree) (options : Options) (catalog : Catalog)
    (next : SymbolId) : ∃ outcome first last log,
      Visit (tree.steps (tree.bind options catalog next).1.rootScope outcome) first last log ∧
        (tree.bind options catalog next).1.records = log.records ∧
          (tree.bind options catalog next).1.scopes = log.scopes ++
            tree.root.info?.toList.map (·, (tree.bind options catalog next).1.rootScope) := by
  obtain ⟨outcome, log, hvisit, hrecords, hscopes⟩ :=
    pass_visits tree.root ⟨options, ⟨next, catalog, []⟩⟩ (.start (next + 1))
  refine ⟨outcome, _, _, log, hvisit, ?_, ?_⟩
  · exact hrecords.trans (List.append_nil _)
  · exact hscopes.trans (congrArg _ (List.append_nil _))

/-- A bound tree is its own root. -/
theorem SyntaxTree.contains_bind (tree : SyntaxTree) (options : Options) (catalog : Catalog)
    (next : SymbolId) (node : NodeRef) :
    (tree.bind options catalog next).1.contains node = (node.tree == tree.id) := by
  have hroot : (tree.bind options catalog next).1.root = tree.rootRef := by
    change (tree.root.info?.map tree.ref).getD tree.rootRef = tree.rootRef
    have hplaced := tree.placed_root
    cases hcases : tree.root with
    | token leaf => rfl
    | node info children =>
      rw [hcases] at hplaced
      simp [Located.info?, ref, rootRef, hplaced.1]
  simp [BindingResult.contains, hroot, rootRef]

end QuerySemantics
