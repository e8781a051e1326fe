import QuerySemantics.Proofs.Ast.Parts
import QuerySemantics.Proofs.Binding.Rules

/-!
# Visits

The shape of a pass without its rules: which nodes it comes to, in which scope and in which order,
and what it adds to the log on the way. A node is visited by visiting its early parts, entering a
scope of its own if its form has one, visiting its late parts there, and recording the node.

## Main definitions

* `Binding.Log`: what a part of a pass adds to the log.
* `Binding.Outcome`, `Binding.Step`: what a visited piece leaves to the pieces behind it, and a
  piece that is visited in a scope with an outcome.
* `Binding.Enters`: the scopes of the early parts of a node and the scope that it enters.
* `Binding.Concludes`: the outcome and the record of a node whose parts are visited.
* `Binding.Visit`: visiting pieces one after the other.
* `Binding.Pass.Visits`: two states of a pass with visits between them.

## Main results

* `Binding.Pass.Visits.node`: a node is visited with its parts.
* `Binding.Visit.exists_record_iff`, `Binding.Visit.exists_scope_iff`: the log holds records of the
  nodes reached and scopes of those that enter one.
* `Binding.Visit.grounded`: recorded expressions are grounded in the scope of the record.
-/

set_option autoImplicit false

namespace QuerySemantics

namespace Binding

/-! ## Logs -/

/-- **Log**: records and scopes that a part of a pass adds, the latest first. -/
structure Log where
  records : List Record
  scopes : List (NodeInfo × Scope)

namespace Log

/-- The log without entries. -/
def empty : Log :=
  ⟨[], []⟩

/-- Logs are put together with the later one in front. -/
instance : Append Log :=
  ⟨fun later earlier => ⟨later.records ++ earlier.records, later.scopes ++ earlier.scopes⟩⟩

/-- The records of two parts of a pass, the later ones first. -/
@[simp] theorem records_append (later earlier : Log) :
    (later ++ earlier).records = later.records ++ earlier.records :=
  rfl

/-- The scopes of two parts of a pass, the later ones first. -/
@[simp] theorem scopes_append (later earlier : Log) :
    (later ++ earlier).scopes = later.scopes ++ earlier.scopes :=
  rfl

/-- Nothing is recorded in the empty log. -/
@[simp] theorem records_empty : empty.records = [] :=
  rfl

/-- No scope is entered in the empty log. -/
@[simp] theorem scopes_empty : empty.scopes = [] :=
  rfl

/-- Appending logs is associative. -/
theorem append_assoc (first second third : Log) :
    first ++ second ++ third = first ++ (second ++ third) := by
  change Log.mk _ _ = Log.mk _ _
  simp

/-- A part of a pass behind one where nothing is recorded. -/
theorem append_empty (log : Log) : log ++ empty = log := by
  change Log.mk _ _ = _
  simp

/-- A part of a pass where nothing is recorded, behind another one. -/
theorem empty_append (log : Log) : empty ++ log = log :=
  rfl

end Log

/-! ## Steps -/

/-- **Outcome** of a visit: the table instances that a table reference introduces, the tables that a
definition defines, and the scope that an `ORDER BY` directly behind a query looks into. -/
structure Outcome where
  instances : List TableInstance
  defined : List CommonTable
  inner : Scope

/-- The outcome of a piece that introduces nothing. -/
def Outcome.plain (scope : Scope) : Outcome :=
  ⟨[], [], scope⟩

/-- **Step**: a piece that is visited in a scope, and the outcome. A piece that is missing is visited
as `none`. -/
structure Step where
  scope : Scope
  piece : Option Piece
  outcome : Outcome

/-- The step of a piece that introduces nothing. -/
def Step.plain (scope : Scope) (piece : Option Piece) : Step :=
  ⟨scope, piece, .plain scope⟩

/-- Definitions one after the other, in scopes that offer the tables of those before them. -/
def Chained (scope : Scope) : (earlier : List CommonTable) → List Step → Prop
  | _, [] => True
  | earlier, step :: rest =>
    (step.scope = scope ∨ ∃ id, step.scope = scope.push id (.commonTables earlier)) ∧
      Chained scope (earlier ++ step.outcome.defined) rest

/-- **Entering**: in which scopes the early parts of a node are visited, and which scope the node
enters behind them. A node that enters none stays in its own. -/
inductive Enters (scope : Scope) (early : List Step) : Piece → Scope → Prop where
  | stays {piece : Piece} : piece.enters = false → (∀ step ∈ early, step.scope = scope) →
      Enters scope early piece scope
  | select {info : NodeInfo} {head : Option Ast.SelectClause} {source : Option Ast.FromClause}
      {filter : Option Ast.Condition} {grouping : Option Ast.GroupByClause}
      {having : Option Ast.Condition} {id : SymbolId} :
      (∀ step ∈ early, step.scope = scope) →
      Enters scope early (.query (.select info head source filter grouping having))
        (scope.push id (.tables (early.flatMap (·.outcome.instances))))
  | joined {info : NodeInfo} {left right : Option Ast.TableRef} {kind : JoinKind}
      {condition : Option Ast.Condition} {first second : Step} {id : SymbolId} :
      early = [first, second] → first.scope = scope →
      (second.scope = scope ∨ isLateral kind = true ∧
        ∃ id, second.scope = scope.push id (.tables first.outcome.instances)) →
      Enters scope early (.table (.joined info left kind right condition))
        (scope.push id (.tables (first.outcome.instances ++ second.outcome.instances)))
  | ordered {info : NodeInfo} {input : Option Ast.Query} {items : List Ast.OrderItem}
      {first : Step} {id : SymbolId} {columns : List QueryColumn} :
      early = [first] → first.scope = scope →
      Enters scope early (.query (.ordered info input items))
        (first.outcome.inner.push id (.queryColumns columns))
  | withTables {info : NodeInfo} {tables : List Ast.CommonTable} {body : Option Ast.Query}
      {id : SymbolId} :
      Chained scope [] early →
      Enters scope early (.query (.withTables info tables body))
        (scope.push id (.commonTables (early.flatMap (·.outcome.defined))))
  | commonTable {it : Ast.CommonTable} : early = [] → Enters scope early (.commonTable it) scope

/-- Whether a piece that is not recorded passes on the instances of its parts. -/
def gathers : Piece → Bool
  | .fromClause _ | .table (.parenthesized _ _) => true
  | _ => false

/-- **Conclusion**: the outcome and the record of a node that stands in `scope` and entered `inner`,
where its early parts are visited and it takes identities from `first` to `last`. -/
inductive Concludes (scope inner : Scope) (early : List Step) (first last : SymbolId) :
    Piece → Outcome → List Record → Prop where
  | passed {piece : Piece} : piece.isRecorded = false → gathers piece = false →
      Concludes scope inner early first last piece (.plain scope) []
  | gathered {piece : Piece} : gathers piece = true →
      Concludes scope inner early first last piece
        ⟨early.flatMap (·.outcome.instances), [], scope⟩ []
  | expr {it : Ast.Expr} {value : Bound.Expr} : (Piece.expr it).isRecorded = true →
      value.GroundedIn scope →
      Concludes scope inner early first last (.expr it) (.plain scope)
        [⟨it.info, .expr value, scope⟩]
  | named {info : NodeInfo} {ident : Option Token} {correlation : Option Ast.Alias}
      {table : TableInstance} : first ≤ table.id → table.id < last →
      (∀ common, table.source = .common common → Declared.ofCommonTable common ∈ scope.declares) →
      Concludes scope inner early first last (.table (.named info ident correlation))
        ⟨[table], [], scope⟩ [⟨info, .table (.named table), scope⟩]
  | derived {info : NodeInfo} {body : Option Ast.Query} {ident : Option Token}
      {table : TableInstance} {query : Bound.Query} : first ≤ table.id → table.id < last →
      Concludes scope inner early first last (.table (.derived info body ident))
        ⟨[table], [], scope⟩ [⟨info, .table (.derived table query), scope⟩]
  | joined {info : NodeInfo} {left right : Option Ast.TableRef} {kind : JoinKind}
      {condition : Option Ast.Condition} {left' right' : Bound.TableRef}
      {condition' : Option Bound.Expr} :
      Concludes scope inner early first last (.table (.joined info left kind right condition))
        ⟨early.flatMap (·.outcome.instances), [], scope⟩
        [⟨info, .table (.joined left' kind right' condition'), scope⟩]
  | selectItem {item : Ast.SelectItem} {value : Bound.SelectItem} :
      Concludes scope inner early first last (.selectItem item) (.plain scope)
        [⟨item.info, .selectItem value, scope⟩]
  | caseLabel {label : Ast.CaseLabel} {value : Bound.CaseLabel} :
      Concludes scope inner early first last (.caseLabel label) (.plain scope)
        [⟨label.info, .caseLabel value, scope⟩]
  | select {info : NodeInfo} {head : Option Ast.SelectClause} {source : Option Ast.FromClause}
      {filter : Option Ast.Condition} {grouping : Option Ast.GroupByClause}
      {having : Option Ast.Condition} {query : Bound.Query} :
      Concludes scope inner early first last
        (.query (.select info head source filter grouping having)) ⟨[], [], inner⟩
        [⟨info, .query query, scope⟩]
  | query {it : Ast.Query} {query : Bound.Query} : (Piece.query it).isRecorded = true →
      Concludes scope inner early first last (.query it) (.plain scope)
        [⟨it.info, .query query, scope⟩]
  | commonTable {it : Ast.CommonTable} {table : CommonTable} {query : Bound.Query}
      {outer : Scope} : first ≤ table.id → table.id < last →
      Concludes scope inner early first last (.commonTable it) ⟨[], [table], scope⟩
        [⟨it.info, .definition (.mk table query), outer⟩]

/-- What a node adds to the scopes of the log. -/
def entry (piece : Piece) (inner : Scope) : List (NodeInfo × Scope) :=
  if piece.enters then piece.info?.toList.map (·, inner) else []

/-- **Visit** of steps one after the other, with the identities that are taken from `first` to `last`
and the log that it leaves. -/
inductive Visit : List Step → (first last : SymbolId) → Log → Prop where
  | nil {first last : SymbolId} : first ≤ last → Visit [] first last .empty
  /-- A missing piece may stand for a table that is not there. -/
  | missing {scope : Scope} {instances : List TableInstance} {rest : List Step}
      {first next last : SymbolId} {log : Log} :
      first ≤ next → (∀ table ∈ instances, first ≤ table.id ∧ table.id < next) →
      Visit rest next last log →
      Visit (⟨scope, none, ⟨instances, [], scope⟩⟩ :: rest) first last log
  | node {scope inner : Scope} {piece : Piece} {outcome : Outcome} {early late rest : List Step}
      {first middle stop next last : SymbolId} {log₁ log₂ log₃ : Log} {own : List Record} :
      early.map Step.piece = piece.early → late.map Step.piece = piece.late →
      Enters scope early piece inner → (∀ step ∈ late, step.scope = inner) →
      Visit early first middle log₁ → Visit late middle stop log₂ → stop ≤ next →
      Concludes scope inner early stop next piece outcome own →
      Visit rest next last log₃ →
      Visit (⟨scope, some piece, outcome⟩ :: rest) first last
        (log₃ ++ (⟨own, []⟩ ++ (log₂ ++ (⟨[], entry piece inner⟩ ++ log₁))))

namespace Visit

variable {steps : List Step} {first last : SymbolId} {log : Log}

/-- Visits take identities. -/
theorem le (h : Visit steps first last log) : first ≤ last := by
  induction h with
  | nil hle => exact hle
  | missing hle _ _ ih => exact Nat.le_trans hle ih
  | node _ _ _ _ _ _ hle _ _ ih₁ ih₂ ih₃ =>
    exact Nat.le_trans ih₁ (Nat.le_trans ih₂ (Nat.le_trans hle ih₃))

/-- Identities may have been taken before the first visit. -/
theorem of_le {earlier : SymbolId} (h : Visit steps first last log) (hle : earlier ≤ first) :
    Visit steps earlier last log := by
  induction h generalizing earlier with
  | nil hle' => exact .nil (Nat.le_trans hle hle')
  | missing hle' hinstances hrest =>
    refine .missing (Nat.le_trans hle hle') (fun table htable => ?_) hrest
    exact ⟨Nat.le_trans hle (hinstances table htable).1, (hinstances table htable).2⟩
  | node hearly hlate henters hscope _ h₂ hle' hown h₃ ih₁ =>
    exact .node hearly hlate henters hscope (ih₁ hle) h₂ hle' hown h₃

/-- **Sequence** of visits. -/
theorem append {steps' : List Step} {next : SymbolId} {log' : Log}
    (h : Visit steps first last log) (h' : Visit steps' last next log') :
    Visit (steps ++ steps') first next (log' ++ log) := by
  induction h with
  | nil hle =>
    rw [Log.append_empty]
    exact h'.of_le hle
  | missing hle hinstances _ ih => exact .missing hle hinstances (ih h')
  | node hearly hlate henters hscope h₁ h₂ hle hown _ _ _ ih =>
    rw [← Log.append_assoc]
    exact .node hearly hlate henters hscope h₁ h₂ hle hown (ih h')

/-! ## What a log holds -/

/-- **Coming to a piece**: one of the steps reaches it. -/
def Comes (steps : List Step) (piece : Piece) : Prop :=
  ∃ step ∈ steps, ∃ start, step.piece = some start ∧ start.Reached piece

/-- Without steps no piece comes. -/
theorem comes_nil {piece : Piece} : ¬ Comes [] piece := by
  rintro ⟨step, hstep, -⟩
  exact absurd hstep List.not_mem_nil

/-- A piece comes in the first step or in a later one. -/
theorem comes_cons {step : Step} {rest : List Step} {piece : Piece} :
    Comes (step :: rest) piece ↔
      (∃ start, step.piece = some start ∧ start.Reached piece) ∨ Comes rest piece := by
  simp [Comes]

/-- Steps over all parts of a piece come to what the parts reach. -/
theorem comes_parts {steps steps' : List Step} {piece inner : Piece}
    (hearly : steps.map Step.piece = piece.early) (hlate : steps'.map Step.piece = piece.late) :
    Comes steps inner ∨ Comes steps' inner ↔ ∃ part ∈ piece.visited, part.Reached inner := by
  have hsteps : ∀ {steps : List Step} {parts : List (Option Piece)},
      steps.map Step.piece = parts →
        (Comes steps inner ↔ ∃ part, some part ∈ parts ∧ part.Reached inner) := by
    rintro steps _ rfl
    constructor
    · rintro ⟨step, hstep, start, hstart, hinner⟩
      exact ⟨start, List.mem_map.2 ⟨step, hstep, hstart⟩, hinner⟩
    · rintro ⟨part, hpart, hinner⟩
      obtain ⟨step, hstep, hstart⟩ := List.mem_map.1 hpart
      exact ⟨step, hstep, part, hstart, hinner⟩
  rw [hsteps hearly, hsteps hlate]
  simp only [Piece.visited, List.mem_filterMap, List.mem_append, id]
  constructor
  · rintro (⟨part, hpart, hinner⟩ | ⟨part, hpart, hinner⟩)
    · exact ⟨part, ⟨some part, .inl hpart, rfl⟩, hinner⟩
    · exact ⟨part, ⟨some part, .inr hpart, rfl⟩, hinner⟩
  · rintro ⟨part, ⟨_, hpart | hpart, rfl⟩, hinner⟩
    · exact .inl ⟨part, hpart, hinner⟩
    · exact .inr ⟨part, hpart, hinner⟩

end Visit

/-- A piece that passes on the instances of its parts is not recorded. -/
theorem isRecorded_of_gathers {piece : Piece} (h : gathers piece = true) :
    piece.isRecorded = false := by
  unfold gathers at h
  split at h <;> first | rfl | cases h

/-- A node is recorded with its own information, or not at all. -/
theorem Concludes.map_info {scope inner : Scope} {early : List Step} {first last : SymbolId}
    {piece : Piece} {outcome : Outcome} {own : List Record}
    (h : Concludes scope inner early first last piece outcome own) :
    own.map Record.info = if piece.isRecorded then piece.info?.toList else [] := by
  cases h with
  | passed h => simp [h]
  | gathered h => simp [isRecorded_of_gathers h]
  | expr h => simp [h, Piece.info?]
  | query h => simp [h, Piece.info?]
  | _ => rfl

namespace Visit

variable {steps : List Step} {first last : SymbolId} {log : Log}

/-- **Records** are those of the nodes that the visit comes to and that are bound. -/
theorem exists_record_iff (h : Visit steps first last log) (info : NodeInfo) :
    (∃ record ∈ log.records, record.info = info) ↔
      ∃ piece, Comes steps piece ∧ piece.isRecorded = true ∧ piece.info? = some info := by
  induction h with
  | nil => simp [Log.empty, comes_nil]
  | missing _ _ _ ih => simp [ih, comes_cons]
  | @node _ inner piece _ early late rest _ _ _ _ _ log₁ log₂ log₃ own hearly hlate _ _ _ _ _ hown
      _ ih₁ ih₂ ih₃ =>
    have hself : (∃ record ∈ own, record.info = info) ↔
        piece.isRecorded = true ∧ piece.info? = some info := by
      rw [← List.mem_map, hown.map_info]
      cases piece.isRecorded <;> simp
    have hrecords : (∃ record ∈ (log₃ ++ (⟨own, []⟩ ++ (log₂ ++
          (⟨[], entry piece inner⟩ ++ log₁)))).records, record.info = info) ↔
        (∃ record ∈ log₃.records, record.info = info) ∨ (∃ record ∈ own, record.info = info) ∨
          (∃ record ∈ log₂.records, record.info = info) ∨
            ∃ record ∈ log₁.records, record.info = info := by
      simp only [Log.records_append, List.mem_append, List.nil_append, or_and_right, exists_or]
    rw [hrecords, ih₁, ih₂, ih₃, hself]
    simp only [comes_cons, Option.some.injEq, exists_eq_left', @Piece.reached_iff piece,
      ← comes_parts hearly hlate]
    constructor
    · rintro (⟨inner, hin, h⟩ | h | ⟨inner, hin, h⟩ | ⟨inner, hin, h⟩)
      · exact ⟨inner, .inr hin, h⟩
      · exact ⟨piece, .inl (.inl rfl), h⟩
      · exact ⟨inner, .inl (.inr (.inr hin)), h⟩
      · exact ⟨inner, .inl (.inr (.inl hin)), h⟩
    · rintro ⟨inner, (rfl | hin | hin) | hin, h⟩
      · exact .inr (.inl h)
      · exact .inr (.inr (.inr ⟨inner, hin, h⟩))
      · exact .inr (.inr (.inl ⟨inner, hin, h⟩))
      · exact .inl ⟨inner, hin, h⟩

/-- **Scopes** are those of the nodes that the visit comes to and that enter one. -/
theorem exists_scope_iff (h : Visit steps first last log) (info : NodeInfo) :
    (∃ entered ∈ log.scopes, entered.1 = info) ↔
      ∃ piece, Comes steps piece ∧ piece.enters = true ∧ piece.info? = some info := by
  induction h with
  | nil => simp [Log.empty, comes_nil]
  | missing _ _ _ ih => simp [ih, comes_cons]
  | @node _ inner piece _ early late rest _ _ _ _ _ log₁ log₂ log₃ own hearly hlate _ _ _ _ _ _ _
      ih₁ ih₂ ih₃ =>
    have hself : (∃ entered ∈ entry piece inner, entered.1 = info) ↔
        piece.enters = true ∧ piece.info? = some info := by
      unfold entry
      cases piece.enters <;> cases piece.info? <;> simp
    have hscopes : (∃ entered ∈ (log₃ ++ (⟨own, []⟩ ++ (log₂ ++
          (⟨[], entry piece inner⟩ ++ log₁)))).scopes, entered.1 = info) ↔
        (∃ entered ∈ log₃.scopes, entered.1 = info) ∨
          (∃ entered ∈ log₂.scopes, entered.1 = info) ∨
            (∃ entered ∈ entry piece inner, entered.1 = info) ∨
              ∃ entered ∈ log₁.scopes, entered.1 = info := by
      simp only [Log.scopes_append, List.mem_append, List.nil_append, or_and_right, exists_or]
    rw [hscopes, ih₁, ih₂, ih₃, hself]
    simp only [comes_cons, Option.some.injEq, exists_eq_left', @Piece.reached_iff piece,
      ← comes_parts hearly hlate]
    constructor
    · rintro (⟨part, hin, h⟩ | ⟨part, hin, h⟩ | h | ⟨part, hin, h⟩)
      · exact ⟨part, .inr hin, h⟩
      · exact ⟨part, .inl (.inr (.inr hin)), h⟩
      · exact ⟨piece, .inl (.inl rfl), h⟩
      · exact ⟨part, .inl (.inr (.inl hin)), h⟩
    · rintro ⟨part, (rfl | hin | hin) | hin, h⟩
      · exact .inr (.inr (.inl h))
      · exact .inr (.inr (.inr ⟨part, hin, h⟩))
      · exact .inr (.inl ⟨part, hin, h⟩)
      · exact .inl ⟨part, hin, h⟩

/-- **Recorded expressions are grounded** in the scope of the record. -/
theorem grounded (h : Visit steps first last log) :
    ∀ record ∈ log.records, ∀ value, record.node = .expr value →
      value.GroundedIn record.scope := by
  induction h with
  | nil => simp
  | missing _ _ _ ih => exact ih
  | node _ _ _ _ _ _ _ hown _ ih₁ ih₂ ih₃ =>
    intro record hrecord value hvalue
    simp only [Log.records_append, List.mem_append, List.nil_append] at hrecord
    rcases hrecord with hrecord | hrecord | hrecord | hrecord
    · exact ih₃ record hrecord value hvalue
    · cases hown <;> simp only [List.mem_singleton, List.not_mem_nil] at hrecord <;>
        subst hrecord <;> cases hvalue
      assumption
    · exact ih₂ record hrecord value hvalue
    · exact ih₁ record hrecord value hvalue

end Visit

/-! ## Visits between states of a pass -/

/-- **Visits between states**: the later state has more records and scopes than the earlier one, by
visiting the steps. -/
def Pass.Visits (before : Pass) (steps : List Step) (after : Pass) : Prop :=
  ∃ log, Visit steps before.next after.next log ∧ after.records = log.records ++ before.records ∧
    after.scopes = log.scopes ++ before.scopes

namespace Pass

variable {first second third : Pass}

/-- Between states that agree nothing is visited. -/
theorem Agrees.visits (h : first.Agrees second) : first.Visits [] second :=
  ⟨.empty, .nil h.next, h.records, h.scopes⟩

/-- Visits follow each other. -/
theorem Visits.trans {steps steps' : List Step} (h₁ : first.Visits steps second)
    (h₂ : second.Visits steps' third) : first.Visits (steps ++ steps') third := by
  obtain ⟨log₁, hvisit₁, hrecords₁, hscopes₁⟩ := h₁
  obtain ⟨log₂, hvisit₂, hrecords₂, hscopes₂⟩ := h₂
  refine ⟨log₂ ++ log₁, hvisit₁.append hvisit₂, ?_, ?_⟩
  · rw [hrecords₂, hrecords₁, Log.records_append, List.append_assoc]
  · rw [hscopes₂, hscopes₁, Log.scopes_append, List.append_assoc]

/-- Quiet steps may follow visits. -/
theorem Visits.agrees {steps : List Step} (h₁ : first.Visits steps second)
    (h₂ : second.Agrees third) : first.Visits steps third := by
  simpa using h₁.trans h₂.visits

/-- A missing piece is visited. -/
theorem visits_missing {scope : Scope} {instances : List TableInstance}
    (h : first.Agrees second)
    (hinstances : ∀ table ∈ instances, first.next ≤ table.id ∧ table.id < second.next) :
    first.Visits [⟨scope, none, ⟨instances, [], scope⟩⟩] second :=
  ⟨.empty, .missing h.next hinstances (.nil (Nat.le_refl _)), h.records, h.scopes⟩

/-- A state in which a node entered a scope. -/
def entered (pass : Pass) (piece : Piece) (inner : Scope) : Pass :=
  { pass with scopes := entry piece inner ++ pass.scopes }

/-- A state in which a node was recorded. -/
def recorded (pass : Pass) (own : List Record) : Pass :=
  { pass with records := own ++ pass.records }

/-- **A node is visited with its parts.** -/
theorem Visits.node {fourth fifth : Pass} {scope inner : Scope} {piece : Piece}
    {outcome : Outcome} {early late : List Step} {own : List Record}
    (henters : Enters scope early piece inner) (hearly : early.map Step.piece = piece.early)
    (h₁ : first.Visits early second) (hinner : (second.entered piece inner).Agrees third)
    (hlate : late.map Step.piece = piece.late) (hscope : ∀ step ∈ late, step.scope = inner)
    (h₂ : third.Visits late fourth)
    (hown : Concludes scope inner early fourth.next fifth.next piece outcome own)
    (hrecorded : (fourth.recorded own).Agrees fifth) :
    first.Visits [⟨scope, some piece, outcome⟩] fifth := by
  obtain ⟨log₁, hvisit₁, hrecords₁, hscopes₁⟩ := h₁
  obtain ⟨log₂, hvisit₂, hrecords₂, hscopes₂⟩ := h₂
  have hle : second.next ≤ third.next := hinner.next
  refine ⟨_, .node hearly hlate henters hscope hvisit₁ (hvisit₂.of_le hle)
    hrecorded.next hown (.nil (Nat.le_refl _)), ?_, ?_⟩
  · rw [hrecorded.records, recorded, hrecords₂, hinner.records, entered, hrecords₁]
    simp
  · rw [hrecorded.scopes, recorded, hscopes₂, hinner.scopes, entered, hscopes₁]
    simp

end Pass

end Binding

end QuerySemantics
