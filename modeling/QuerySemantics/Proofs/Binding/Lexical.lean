import QuerySemantics.Proofs.Binding.Visit

/-!
# Lexical scoping

Every table instance and every common table has an identity that is taken when it is bound. What a
scope declares was therefore declared either by a link that was there before a visit began, or by
something that the visit itself came to. In the second case it is clear from the form of the nodes in
between where in the tree the declaration and its use stand to each other.

## Main definitions

* `Piece.HasTable`: the tables of a piece, through joins and parentheses.
* `Piece.Governs`: in which part of a node what another part declares may be used.
* `Bound.Node.introduced?`, `Bound.Node.used?`: what a bound node declares, and what it refers to.

## Main results

* `Binding.Visit.bounds_of_introduces`: identities are taken while visiting.
* `Binding.Visit.governed`: what a record refers to is declared around the visit, or governs the node
  of the record from within.
-/

set_option autoImplicit false

namespace QuerySemantics

open Ast

namespace Piece

/-! ## Tables and the parts that they govern -/

/-- **Tables** of a piece: the named and derived tables in it, reached through joins, parentheses and
the list of a `FROM` only. -/
inductive HasTable : Piece → NodeInfo → Prop where
  | named {info : NodeInfo} {ident : Option Token} {correlation : Option Alias} :
      HasTable (.table (.named info ident correlation)) info
  | derived {info : NodeInfo} {body : Option Query} {ident : Option Token} :
      HasTable (.table (.derived info body ident)) info
  | left {info source : NodeInfo} {left : TableRef} {kind : JoinKind} {right : Option TableRef}
      {condition : Option Condition} : HasTable (.table left) source →
      HasTable (.table (.joined info (some left) kind right condition)) source
  | right {info source : NodeInfo} {left : Option TableRef} {kind : JoinKind} {right : TableRef}
      {condition : Option Condition} : HasTable (.table right) source →
      HasTable (.table (.joined info left kind (some right) condition)) source
  | parenthesized {info source : NodeInfo} {inner : TableRef} : HasTable (.table inner) source →
      HasTable (.table (.parenthesized info (some inner))) source
  | fromClause {info source : NodeInfo} {tables : List TableRef} {table : TableRef} :
      table ∈ tables → HasTable (.table table) source →
      HasTable (.fromClause (.mk info tables)) source

/-- A piece introduces what its tables declare, and a definition the common table. -/
def Introduces (piece : Piece) (source : NodeInfo) : Declared → Prop
  | .tableInstance _ => piece.HasTable source
  | .commonTable _ => ∃ it, piece = .commonTable it ∧ it.info = source

/-- **Governing**: what the table or definition `source` declares may be used in a part of the node.

* The tables of a `FROM` govern the rest of their `SELECT`, and the entries of an `ORDER BY` directly
  behind it.
* The tables of a join govern its condition, and those on the left side of an inner or left join the
  right side.
* The definitions of a `WITH` govern its main query and the definitions behind them. -/
inductive Governs : Piece → (source : NodeInfo) → Declared → (part : Piece) → Prop where
  | select {info source : NodeInfo} {head : Option SelectClause} {clause : FromClause}
      {filter having : Option Condition} {grouping : Option GroupByClause} {id : SymbolId}
      {part : Piece} : HasTable (.fromClause clause) source →
      some part ∈ (Piece.query (.select info head (some clause) filter grouping having)).late →
      Governs (.query (.select info head (some clause) filter grouping having)) source
        (.tableInstance id) part
  | ordered {info source own : NodeInfo} {head : Option SelectClause} {clause : FromClause}
      {filter having : Option Condition} {grouping : Option GroupByClause} {id : SymbolId}
      {items : List OrderItem} {item : OrderItem} : HasTable (.fromClause clause) source →
      item ∈ items →
      Governs (.query (.ordered own (some (.select info head (some clause) filter grouping having))
        items)) source (.tableInstance id) (.orderItem item)
  | condition {info source : NodeInfo} {left right : Option TableRef} {kind : JoinKind}
      {clause : Condition} {table : TableRef} {id : SymbolId} : left = some table ∨ right = some table →
      HasTable (.table table) source →
      Governs (.table (.joined info left kind right (some clause))) source (.tableInstance id)
        (.condition clause)
  | lateral {info source : NodeInfo} {left right : TableRef} {kind : JoinKind}
      {clause : Option Condition} {id : SymbolId} : Binding.isLateral kind = true →
      HasTable (.table left) source →
      Governs (.table (.joined info (some left) kind (some right) clause)) source
        (.tableInstance id) (.table right)
  | body {info : NodeInfo} {tables : List Ast.CommonTable} {table : Ast.CommonTable} {body : Query}
      {id : SymbolId} : table ∈ tables →
      Governs (.query (.withTables info tables (some body))) table.info (.commonTable id)
        (.query body)
  | later {info : NodeInfo} {before behind : List Ast.CommonTable}
      {table later : Ast.CommonTable} {body : Option Query} {id : SymbolId} : table ∈ before →
      Governs (.query (.withTables info (before ++ later :: behind) body)) table.info
        (.commonTable id) (.commonTable later)

/-- Reaching a node, whatever it is read as. -/
def ReachesNode (piece : Piece) (info : NodeInfo) : Prop :=
  ∃ inner, piece.Reached inner ∧ inner.info? = some info

end Piece

/-- What a bound table reference or definition declares. -/
def Bound.Node.introduced? : Bound.Node → Option Declared
  | .table (.named it) | .table (.derived it _) => some (.ofInstance it)
  | .definition (.mk it _) => some (.ofCommonTable it)
  | _ => none

/-- What a bound expression or table reference refers to, as far as links of scopes declare it. -/
def Bound.Node.used? : Bound.Node → Option Declared
  | .expr it => (it.symbol?.bind Symbol.owner?).map .ofInstance
  | .table (.named it) =>
    match it.source with
    | .common defined => some (.ofCommonTable defined)
    | _ => none
  | _ => none

namespace Binding

/-- What a step leaves to those behind it. -/
def Outcome.declared (outcome : Outcome) : List Declared :=
  outcome.instances.map .ofInstance ++ outcome.defined.map .ofCommonTable

/-- A log introduces what the records in it declare. -/
def Log.Introduces (log : Log) (source : NodeInfo) (key : Declared) : Prop :=
  ∃ record ∈ log.records, record.info = source ∧ record.node.introduced? = some key

variable {scope inner : Scope} {early late steps : List Step} {first middle last : SymbolId}
  {piece part : Piece} {outcome : Outcome} {own : List Record} {log : Log} {source : NodeInfo}
  {key : Declared}

/-! ## What is introduced -/

/-- The piece of a step is one of those that are visited. -/
theorem some_mem_of_map {parts : List (Option Piece)} {step : Step} {start : Piece}
    (h : steps.map Step.piece = parts) (hstep : step ∈ steps) (hstart : step.piece = some start) :
    some start ∈ parts := by
  rw [← h, ← hstart]
  exact List.mem_map_of_mem hstep

/-- The record of a node introduces what the node leaves to those behind it. -/
theorem Concludes.own_introduces (h : Concludes scope inner early first last piece outcome own)
    {record : Record} (hrecord : record ∈ own) (hkey : record.node.introduced? = some key) :
    first ≤ key.id ∧ key.id < last ∧ key ∈ outcome.declared ∧
      piece.Introduces record.info key := by
  cases h with
  | named hle hlt =>
    obtain rfl := List.mem_singleton.1 hrecord
    cases hkey
    exact ⟨hle, hlt, by simp [Outcome.declared], .named⟩
  | derived hle hlt =>
    obtain rfl := List.mem_singleton.1 hrecord
    cases hkey
    exact ⟨hle, hlt, by simp [Outcome.declared], .derived⟩
  | @commonTable it table query outer hle hlt =>
    obtain rfl := List.mem_singleton.1 hrecord
    cases hkey
    exact ⟨hle, hlt, by simp [Outcome.declared], it, rfl, rfl⟩
  | passed | gathered => exact absurd hrecord List.not_mem_nil
  | _ =>
    obtain rfl := List.mem_singleton.1 hrecord
    cases hkey

/-- What the record of a node refers to is declared in the scope at hand. -/
theorem Concludes.own_used (h : Concludes scope inner early first last piece outcome own)
    {record : Record} (hrecord : record ∈ own) (hkey : record.node.used? = some key) :
    key ∈ scope.declares ∧ piece.info? = some record.info := by
  cases h with
  | expr _ hgrounded =>
    obtain rfl := List.mem_singleton.1 hrecord
    obtain ⟨table, htable, rfl⟩ := Option.map_eq_some_iff.1 hkey
    obtain ⟨symbol, hsymbol, howner⟩ := Option.bind_eq_some_iff.1 htable
    exact ⟨(hgrounded symbol hsymbol).declares howner, rfl⟩
  | @named info ident correlation table _ _ hcommon =>
    obtain rfl := List.mem_singleton.1 hrecord
    cases hsource : table.source <;> simp only [Bound.Node.used?, hsource, reduceCtorEq] at hkey
    obtain rfl := Option.some.inj hkey
    exact ⟨hcommon _ hsource, rfl⟩
  | passed | gathered => exact absurd hrecord List.not_mem_nil
  | _ =>
    obtain rfl := List.mem_singleton.1 hrecord
    cases hkey

/-- What a node passes on from its early parts are tables of the node. -/
theorem hasTable_of_mem_early {start : Piece} (hpiece : gathers piece = true ∨
    ∃ info left kind right condition, piece = .table (.joined info left kind right condition))
    (hstart : some start ∈ piece.early) (h : start.HasTable source) : piece.HasTable source := by
  rcases hpiece with hgathers | ⟨info, left, kind, right, condition, rfl⟩
  · cases piece with
    | fromClause it =>
      obtain ⟨info, tables⟩ := it
      obtain ⟨table, htable, heq⟩ := List.mem_map.1 hstart
      obtain rfl : Piece.table table = start := Option.some.inj heq
      exact .fromClause htable h
    | table it =>
      cases it with
      | parenthesized info inner =>
        obtain ⟨inner, rfl, rfl⟩ :=
          Option.map_eq_some_iff.1 (List.mem_singleton.1 hstart).symm
        exact .parenthesized h
      | _ => cases hgathers
    | _ => cases hgathers
  · simp only [Piece.early, List.mem_cons, List.not_mem_nil, or_false] at hstart
    rcases hstart with hstart | hstart
    · obtain ⟨table, rfl, rfl⟩ := Option.map_eq_some_iff.1 hstart.symm
      exact .left h
    · obtain ⟨table, rfl, rfl⟩ := Option.map_eq_some_iff.1 hstart.symm
      exact .right h

/-- **What a node leaves to those behind it** is its own, or was left by its early parts. -/
theorem Concludes.declared (h : Concludes scope inner early first last piece outcome own)
    (hearly : early.map Step.piece = piece.early) (hkey : key ∈ outcome.declared) :
    (first ≤ key.id ∧ key.id < last ∧ ∃ record ∈ own, record.node.introduced? = some key) ∨
      ∃ step ∈ early, key ∈ step.outcome.declared ∧
        ∀ start, step.piece = some start → ∀ source, start.Introduces source key →
          piece.Introduces source key := by
  -- instances that are passed on come from an early part
  have hpassed : (gathers piece = true ∨
      ∃ info left kind right condition, piece = .table (.joined info left kind right condition)) →
      key ∈ (Outcome.mk (early.flatMap (·.outcome.instances)) [] scope).declared →
        ∃ step ∈ early, key ∈ step.outcome.declared ∧
          ∀ start, step.piece = some start → ∀ source, start.Introduces source key →
            piece.Introduces source key := by
    intro hpiece hkey
    simp only [Outcome.declared, List.map_nil, List.append_nil, List.mem_map,
      List.mem_flatMap] at hkey
    obtain ⟨table, ⟨step, hstep, htable⟩, rfl⟩ := hkey
    refine ⟨step, hstep, List.mem_append_left _ (List.mem_map_of_mem htable), ?_⟩
    intro start hstart source hsource
    exact hasTable_of_mem_early hpiece (some_mem_of_map hearly hstep hstart) hsource
  cases h with
  | gathered hgathers => exact .inr (hpassed (.inl hgathers) hkey)
  | joined => exact .inr (hpassed (.inr ⟨_, _, _, _, _, rfl⟩) hkey)
  | named hle hlt | derived hle hlt | commonTable hle hlt =>
    obtain rfl := List.mem_singleton.1 hkey
    exact .inl ⟨hle, hlt, _, List.mem_singleton.2 rfl, rfl⟩
  | _ => exact absurd hkey List.not_mem_nil

/-- What the log of a node introduces is introduced behind it, by it, by its late or by its early
parts. -/
theorem introduces_node_iff {log₁ log₂ log₃ : Log} {entered : List (NodeInfo × Scope)} :
    (log₃ ++ (⟨own, []⟩ ++ (log₂ ++ (⟨[], entered⟩ ++ log₁)))).Introduces source key ↔
      log₃.Introduces source key ∨
        (∃ record ∈ own, record.info = source ∧ record.node.introduced? = some key) ∨
          log₂.Introduces source key ∨ log₁.Introduces source key := by
  simp [Log.Introduces, or_and_right, exists_or]

/-! ## Links over steps -/

/-- A link with the tables of steps declares what a step leaves. -/
theorem declares_tables {id : SymbolId}
    (h : key ∈ (scope.push id (.tables (steps.flatMap (·.outcome.instances)))).declares) :
    key ∈ scope.declares ∨ (∃ own, key = .tableInstance own) ∧
      ∃ step ∈ steps, key ∈ step.outcome.declared := by
  rw [Scope.declares_push, List.mem_append] at h
  rcases h with h | h
  · right
    simp only [Frame.declared, List.mem_map, List.mem_flatMap] at h
    obtain ⟨table, ⟨step, hstep, htable⟩, rfl⟩ := h
    exact ⟨⟨_, rfl⟩, step, hstep, List.mem_append_left _ (List.mem_map_of_mem htable)⟩
  · exact .inl h

/-- A link with the common tables of steps declares what a step leaves. -/
theorem declares_commonTables {id : SymbolId}
    (h : key ∈ (scope.push id (.commonTables (steps.flatMap (·.outcome.defined)))).declares) :
    key ∈ scope.declares ∨ (∃ own, key = .commonTable own) ∧
      ∃ step ∈ steps, key ∈ step.outcome.declared := by
  rw [Scope.declares_push, List.mem_append] at h
  rcases h with h | h
  · right
    simp only [Frame.declared, List.mem_map, List.mem_flatMap] at h
    obtain ⟨table, ⟨step, hstep, htable⟩, rfl⟩ := h
    exact ⟨⟨_, rfl⟩, step, hstep, List.mem_append_right _ (List.mem_map_of_mem htable)⟩
  · exact .inl h

/-- Definitions are visited in the scope around them, or behind a link with the tables of the
definitions before them. -/
theorem Chained.exists_split {earlier : List CommonTable} {step : Step}
    (h : Chained scope earlier steps) (hstep : step ∈ steps) :
    ∃ before behind, steps = before ++ step :: behind ∧ (step.scope = scope ∨ ∃ id,
      step.scope = scope.push id (.commonTables (earlier ++ before.flatMap (·.outcome.defined)))) := by
  induction steps generalizing earlier with
  | nil => exact absurd hstep List.not_mem_nil
  | cons first rest ih =>
    rcases List.mem_cons.1 hstep with rfl | hstep
    · exact ⟨[], rest, rfl, by simpa using h.1⟩
    · obtain ⟨before, behind, rfl, hscope⟩ := ih h.2 hstep
      exact ⟨first :: before, behind, rfl, by simpa using hscope⟩

namespace Visit

/-- **Identities are taken while visiting.** -/
theorem bounds_of_introduces (h : Visit steps first last log) (hkey : log.Introduces source key) :
    first ≤ key.id ∧ key.id < last := by
  induction h with
  | nil =>
    obtain ⟨record, hrecord, -⟩ := hkey
    exact absurd hrecord List.not_mem_nil
  | missing hle _ _ ih =>
    have := ih hkey
    lia
  | node _ _ _ _ h₁ h₂ hle hown h₃ ih₁ ih₂ ih₃ =>
    have hle₁ := h₁.le
    have hle₂ := h₂.le
    have hle₃ := h₃.le
    rcases introduces_node_iff.1 hkey with hkey | ⟨record, hrecord, -, hkey⟩ | hkey | hkey
    · have := ih₃ hkey
      lia
    · have := hown.own_introduces hrecord hkey
      lia
    · have := ih₂ hkey
      lia
    · have := ih₁ hkey
      lia

/-- What the log of a node introduces, with the part of the interval that it was taken from. -/
theorem introduces_cases {stop next : SymbolId} {log₁ log₂ log₃ : Log}
    {entered : List (NodeInfo × Scope)} (h₁ : Visit early first middle log₁)
    (h₂ : Visit late middle stop log₂)
    (hown : Concludes scope inner early stop next piece outcome own)
    (h₃ : Visit steps next last log₃)
    (hkey : (log₃ ++ (⟨own, []⟩ ++ (log₂ ++ (⟨[], entered⟩ ++ log₁)))).Introduces source key) :
    (log₃.Introduces source key ∧ next ≤ key.id) ∨
      (piece.Introduces source key ∧ stop ≤ key.id ∧ key.id < next) ∨
        (log₂.Introduces source key ∧ middle ≤ key.id ∧ key.id < stop) ∨
          (log₁.Introduces source key ∧ key.id < middle) := by
  rcases introduces_node_iff.1 hkey with hkey | ⟨record, hrecord, rfl, hown'⟩ | hkey | hkey
  · exact .inl ⟨hkey, (h₃.bounds_of_introduces hkey).1⟩
  · obtain ⟨hle, hlt, -, hpiece⟩ := hown.own_introduces hrecord hown'
    exact .inr (.inl ⟨hpiece, hle, hlt⟩)
  · exact .inr (.inr (.inl ⟨hkey, h₂.bounds_of_introduces hkey⟩))
  · exact .inr (.inr (.inr ⟨hkey, (h₁.bounds_of_introduces hkey).2⟩))

section Parts

variable {stop next : SymbolId} {log₁ log₂ log₃ : Log} {entered : List (NodeInfo × Scope)}

/-- What was taken from the interval of the early parts is introduced by them. -/
theorem introduces_iff_early (h₁ : Visit early first middle log₁) (h₂ : Visit late middle stop log₂)
    (hle : stop ≤ next) (hown : Concludes scope inner early stop next piece outcome own)
    (h₃ : Visit steps next last log₃) (hlt : key.id < middle) (source : NodeInfo) :
    (log₃ ++ (⟨own, []⟩ ++ (log₂ ++ (⟨[], entered⟩ ++ log₁)))).Introduces source key ↔
      log₁.Introduces source key := by
  have hle₂ := h₂.le
  refine ⟨fun h => ?_, fun h => introduces_node_iff.2 (.inr (.inr (.inr h)))⟩
  rcases introduces_cases h₁ h₂ hown h₃ h with ⟨-, _⟩ | ⟨-, _, _⟩ | ⟨-, _, _⟩ | ⟨hearly, -⟩
  case inr.inr.inr => exact hearly
  all_goals lia

/-- What was taken from the interval of the late parts is introduced by them. -/
theorem introduces_iff_late (h₁ : Visit early first middle log₁) (h₂ : Visit late middle stop log₂)
    (hle : stop ≤ next) (hown : Concludes scope inner early stop next piece outcome own)
    (h₃ : Visit steps next last log₃) (hge : middle ≤ key.id) (hlt : key.id < stop)
    (source : NodeInfo) :
    (log₃ ++ (⟨own, []⟩ ++ (log₂ ++ (⟨[], entered⟩ ++ log₁)))).Introduces source key ↔
      log₂.Introduces source key := by
  refine ⟨fun h => ?_, fun h => introduces_node_iff.2 (.inr (.inr (.inl h)))⟩
  rcases introduces_cases h₁ h₂ hown h₃ h with ⟨-, _⟩ | ⟨-, _, _⟩ | ⟨hlate, -⟩ | ⟨-, _⟩
  case inr.inr.inl => exact hlate
  all_goals lia

/-- What was taken behind the parts of a node is introduced by the node. -/
theorem introduces_of_own (h₁ : Visit early first middle log₁) (h₂ : Visit late middle stop log₂)
    (hown : Concludes scope inner early stop next piece outcome own)
    (h₃ : Visit steps next last log₃) (hge : stop ≤ key.id) (hlt : key.id < next)
    (h : (log₃ ++ (⟨own, []⟩ ++ (log₂ ++ (⟨[], entered⟩ ++ log₁)))).Introduces source key) :
    piece.Introduces source key := by
  have hle₂ := h₂.le
  rcases introduces_cases h₁ h₂ hown h₃ h with ⟨-, _⟩ | ⟨hpiece, -⟩ | ⟨-, _, _⟩ | ⟨-, _⟩
  case inr.inl => exact hpiece
  all_goals lia

/-- What was taken behind a node is introduced by the steps behind it. -/
theorem introduces_iff_rest (h₁ : Visit early first middle log₁) (h₂ : Visit late middle stop log₂)
    (hle : stop ≤ next) (hown : Concludes scope inner early stop next piece outcome own)
    (h₃ : Visit steps next last log₃) (hge : next ≤ key.id) (source : NodeInfo) :
    (log₃ ++ (⟨own, []⟩ ++ (log₂ ++ (⟨[], entered⟩ ++ log₁)))).Introduces source key ↔
      log₃.Introduces source key := by
  have hle₂ := h₂.le
  refine ⟨fun h => ?_, fun h => introduces_node_iff.2 (.inl h)⟩
  rcases introduces_cases h₁ h₂ hown h₃ h with ⟨hrest, -⟩ | ⟨-, _, _⟩ | ⟨-, _, _⟩ | ⟨-, _⟩
  case inl => exact hrest
  all_goals lia

end Parts

/-- What a step leaves to those behind it is taken while visiting. -/
theorem bounds_of_declared (h : Visit steps first last log) {step : Step} (hstep : step ∈ steps)
    (hkey : key ∈ step.outcome.declared) : first ≤ key.id ∧ key.id < last := by
  induction h generalizing step with
  | nil => exact absurd hstep List.not_mem_nil
  | missing hle hinstances h ih =>
    have hle' := h.le
    rcases List.mem_cons.1 hstep with rfl | hstep
    · simp only [Outcome.declared, List.map_nil, List.append_nil, List.mem_map] at hkey
      obtain ⟨table, htable, rfl⟩ := hkey
      obtain ⟨hge, hlt⟩ := hinstances table htable
      exact ⟨hge, Nat.lt_of_lt_of_le hlt hle'⟩
    · have := ih hstep hkey
      lia
  | node hearly _ _ _ h₁ h₂ hle hown h₃ ih₁ _ ih₃ =>
    have hle₁ := h₁.le
    have hle₂ := h₂.le
    have hle₃ := h₃.le
    rcases List.mem_cons.1 hstep with rfl | hstep
    · rcases hown.declared hearly hkey with ⟨hge, hlt, -⟩ | ⟨step, hstep, hkey, -⟩
      · lia
      · have := ih₁ hstep hkey
        lia
    · have := ih₃ hstep hkey
      lia

/-- **What a step leaves is introduced by its piece** alone. A missing piece leaves what nothing
introduces. -/
theorem introduces_of_declared (h : Visit steps first last log) {step : Step} (hstep : step ∈ steps)
    (hkey : key ∈ step.outcome.declared) (hsource : log.Introduces source key) :
    ∃ start, step.piece = some start ∧ start.Introduces source key := by
  induction h generalizing step with
  | nil => exact absurd hstep List.not_mem_nil
  | missing hle hinstances h ih =>
    rcases List.mem_cons.1 hstep with rfl | hstep
    · simp only [Outcome.declared, List.map_nil, List.append_nil, List.mem_map] at hkey
      obtain ⟨table, htable, rfl⟩ := hkey
      have hge := (h.bounds_of_introduces hsource).1
      exact absurd (hinstances table htable).2 (Nat.not_lt.2 hge)
    · exact ih hstep hkey hsource
  | node hearly _ _ _ h₁ h₂ hle hown h₃ ih₁ _ ih₃ =>
    rcases List.mem_cons.1 hstep with rfl | hstep
    · rcases hown.declared hearly hkey with ⟨hge, hlt, -⟩ | ⟨step, hstep, hkey, hpassed⟩
      · exact ⟨_, rfl, introduces_of_own h₁ h₂ hown h₃ hge hlt hsource⟩
      · have hlt := (h₁.bounds_of_declared hstep hkey).2
        obtain ⟨start, hstart, hsource⟩ :=
          ih₁ hstep hkey ((introduces_iff_early h₁ h₂ hle hown h₃ hlt source).1 hsource)
        exact ⟨_, rfl, hpassed start hstart source hsource⟩
    · have hge := (h₃.bounds_of_declared hstep hkey).1
      exact ih₃ hstep hkey ((introduces_iff_rest h₁ h₂ hle hown h₃ hge source).1 hsource)

/-- A common table that a step leaves is introduced. -/
theorem exists_introduces (h : Visit steps first last log) {step : Step} (hstep : step ∈ steps)
    {id : SymbolId} (hkey : .commonTable id ∈ step.outcome.declared) :
    ∃ source, log.Introduces source (.commonTable id) := by
  induction h generalizing step with
  | nil => exact absurd hstep List.not_mem_nil
  | missing _ _ _ ih =>
    rcases List.mem_cons.1 hstep with rfl | hstep
    · simp [Outcome.declared, Declared.ofInstance] at hkey
    · exact ih hstep hkey
  | node hearly _ _ _ h₁ h₂ hle hown h₃ ih₁ _ ih₃ =>
    rcases List.mem_cons.1 hstep with rfl | hstep
    · rcases hown.declared hearly hkey with ⟨-, -, record, hrecord, hkey⟩ | ⟨step, hstep, hkey, -⟩
      · exact ⟨_, introduces_node_iff.2 (.inr (.inl ⟨record, hrecord, rfl, hkey⟩))⟩
      · obtain ⟨source, hsource⟩ := ih₁ hstep hkey
        exact ⟨source, introduces_node_iff.2 (.inr (.inr (.inr hsource)))⟩
    · obtain ⟨source, hsource⟩ := ih₃ hstep hkey
      exact ⟨source, introduces_node_iff.2 (.inl hsource)⟩

/-! ## What a scope declares -/

/-- A select whose `FROM` has a table. -/
def SelectsFrom (piece : Piece) (source : NodeInfo) : Prop :=
  ∃ info head clause filter grouping having,
    piece = .query (.select info head (some clause) filter grouping having) ∧
      Piece.HasTable (.fromClause clause) source

/-- The one early part of a select is its `FROM`. -/
theorem eq_fromClause_of_select {start : Piece} {own : NodeInfo} {head : Option SelectClause}
    {from? : Option FromClause} {filter having : Option Condition}
    {grouping : Option GroupByClause} {step : Step}
    (hearly : early.map Step.piece =
      (Piece.query (.select own head from? filter grouping having)).early)
    (hstep : step ∈ early) (hstart : step.piece = some start) :
    ∃ clause, from? = some clause ∧ start = .fromClause clause := by
  have hmem := List.mem_singleton.1 (some_mem_of_map hearly hstep hstart)
  obtain ⟨clause, rfl, rfl⟩ := Option.map_eq_some_iff.1 hmem.symm
  exact ⟨clause, rfl, rfl⟩

/-- **The scope that an `ORDER BY` looks into** declares nothing but what the scope around it does,
unless it stands directly behind a select: then also the tables of its `FROM`. -/
theorem declares_inner (h : Visit steps first last log) {step : Step} (hstep : step ∈ steps)
    (hkey : key ∈ step.outcome.inner.declares) : key ∈ step.scope.declares ∨
      first ≤ key.id ∧ key.id < last ∧ (∃ id, key = .tableInstance id) ∧
        ∀ source, log.Introduces source key →
          ∃ start, step.piece = some start ∧ SelectsFrom start source := by
  induction h generalizing step with
  | nil => exact absurd hstep List.not_mem_nil
  | missing hle _ _ ih =>
    rcases List.mem_cons.1 hstep with rfl | hstep
    · exact .inl hkey
    · refine (ih hstep hkey).imp_right fun ⟨hge, hlt, hid, hsource⟩ => ⟨by lia, hlt, hid, hsource⟩
  | @node scope inner piece outcome early late rest _ middle stop next _ log₁ log₂ log₃ own hearly _
      henters _ h₁ h₂ hle hown h₃ _ _ ih₃ =>
    have hle₁ := h₁.le
    have hle₂ := h₂.le
    have hle₃ := h₃.le
    rcases List.mem_cons.1 hstep with rfl | hstep
    · cases id hown with
      | select =>
        cases henters with
        | stays henters => cases henters
        | select =>
          refine (declares_tables hkey).imp_right ?_
          rintro ⟨⟨id, hid⟩, step, hstep, hkey⟩
          have hbounds := h₁.bounds_of_declared hstep hkey
          refine ⟨hbounds.1, by lia, ⟨id, hid⟩, fun source hsource => ⟨_, rfl, ?_⟩⟩
          obtain ⟨start, hstart, htable⟩ := h₁.introduces_of_declared hstep hkey
            ((introduces_iff_early h₁ h₂ hle hown h₃ hbounds.2 source).1 hsource)
          obtain ⟨clause, rfl, rfl⟩ := eq_fromClause_of_select hearly hstep hstart
          subst hid
          exact ⟨_, _, _, _, _, _, rfl, htable⟩
      | _ => exact .inl hkey
    · refine (ih₃ hstep hkey).imp_right fun ⟨hge, hlt, hid, hselects⟩ => ?_
      refine ⟨by lia, hlt, hid, fun source hsource => hselects source ?_⟩
      exact (introduces_iff_rest h₁ h₂ hle hown h₃ hge source).1 hsource

/-! ## Governing from within -/

/-- **Declared by a part**: the early parts of a node took the identity, and whatever introduces it
there governs a part of the node. A common table is introduced there in any case. -/
structure Fresh (first last : SymbolId) (log : Log) (piece part : Piece) (key : Declared) :
    Prop where
  ge : first ≤ key.id
  lt : key.id < last
  governs : ∀ source, log.Introduces source key → piece.Governs source key part
  introduced : ∀ id, key = .commonTable id → ∃ source, log.Introduces source key

/-- What an early part leaves is declared by it. -/
theorem Fresh.of_declared (h : Visit early first last log) {step : Step} (hstep : step ∈ early)
    (hkey : key ∈ step.outcome.declared)
    (hgoverns : ∀ start source, step.piece = some start → start.Introduces source key →
      piece.Governs source key part) : Fresh first last log piece part key := by
  obtain ⟨hge, hlt⟩ := h.bounds_of_declared hstep hkey
  refine ⟨hge, hlt, fun source hsource => ?_, fun id hid => ?_⟩
  · obtain ⟨start, hstart, hintroduces⟩ := h.introduces_of_declared hstep hkey hsource
    exact hgoverns start source hstart hintroduces
  · subst hid
    exact h.exists_introduces hstep hkey

/-- **The late parts of a node** see what is declared around the node, and what its early parts
declare. -/
theorem declares_late (h : Visit early first last log)
    (hearly : early.map Step.piece = piece.early) (henters : Enters scope early piece inner)
    (hpart : some part ∈ piece.late) (hkey : key ∈ inner.declares) :
    key ∈ scope.declares ∨ Fresh first last log piece part key := by
  cases henters with
  | stays => exact .inl hkey
  | commonTable => exact .inl hkey
  | select =>
    refine (declares_tables hkey).imp_right ?_
    rintro ⟨⟨id, hid⟩, step, hstep, hkey⟩
    refine .of_declared h hstep hkey fun start source hstart hsource => ?_
    obtain ⟨clause, rfl, rfl⟩ := eq_fromClause_of_select hearly hstep hstart
    subst hid
    exact .select hsource hpart
  | @joined own left right kind condition one two id htwo =>
    have hboth : one.outcome.instances ++ two.outcome.instances =
        early.flatMap (·.outcome.instances) := by simp [htwo]
    rw [hboth] at hkey
    refine (declares_tables hkey).imp_right ?_
    rintro ⟨⟨id, hid⟩, step, hstep, hkey⟩
    obtain ⟨clause, rfl, rfl⟩ := Option.map_eq_some_iff.1 (List.mem_singleton.1 hpart).symm
    refine .of_declared h hstep hkey fun start source hstart hsource => ?_
    have hmem := some_mem_of_map hearly hstep hstart
    simp only [Piece.early, List.mem_cons, List.not_mem_nil, or_false] at hmem
    subst hid
    rcases hmem with hmem | hmem
    · obtain ⟨table, rfl, rfl⟩ := Option.map_eq_some_iff.1 hmem.symm
      exact .condition (.inl rfl) hsource
    · obtain ⟨table, rfl, rfl⟩ := Option.map_eq_some_iff.1 hmem.symm
      exact .condition (.inr rfl) hsource
  | @ordered own input items one id columns hone hscope =>
    obtain ⟨item, hitem, heq⟩ := List.mem_map.1 hpart
    obtain rfl : Piece.orderItem item = part := Option.some.inj heq
    subst hone
    rw [Scope.declares_push] at hkey
    rcases h.declares_inner List.mem_cons_self hkey with hkey | ⟨hge, hlt, ⟨id, hid⟩, hselects⟩
    · exact .inl (hscope ▸ hkey)
    · refine .inr ⟨hge, hlt, fun source hsource => ?_, fun id' hid' => ?_⟩
      · obtain ⟨start, hstart, _, _, _, _, _, _, rfl, htable⟩ := hselects source hsource
        have hmem := List.mem_singleton.1 (some_mem_of_map hearly List.mem_cons_self hstart)
        obtain ⟨query, rfl, heq⟩ := Option.map_eq_some_iff.1 hmem.symm
        cases heq
        subst hid
        exact .ordered htable hitem
      · rw [hid] at hid'
        cases hid'
  | withTables =>
    refine (declares_commonTables hkey).imp_right ?_
    rintro ⟨⟨id, hid⟩, step, hstep, hkey⟩
    obtain ⟨body, rfl, rfl⟩ := Option.map_eq_some_iff.1 (List.mem_singleton.1 hpart).symm
    refine .of_declared h hstep hkey fun start source hstart hsource => ?_
    subst hid
    obtain ⟨it, rfl, rfl⟩ := hsource
    obtain ⟨table, htable, heq⟩ := List.mem_map.1 (some_mem_of_map hearly hstep hstart)
    cases heq
    exact .body htable

/-- **The early parts of a node** see what is declared around the node, and what the early parts
before them declare. -/
theorem declares_early (h : Visit early first last log)
    (hearly : early.map Step.piece = piece.early) (henters : Enters scope early piece inner)
    {step : Step} (hstep : step ∈ early) (hpart : step.piece = some part)
    (hkey : key ∈ step.scope.declares) :
    key ∈ scope.declares ∨ Fresh first last log piece part key := by
  cases henters with
  | stays _ hscope => exact .inl (hscope step hstep ▸ hkey)
  | select hscope => exact .inl (hscope step hstep ▸ hkey)
  | commonTable hnil => exact absurd hstep (hnil ▸ List.not_mem_nil)
  | ordered hone hscope =>
    subst hone
    obtain rfl := List.mem_singleton.1 hstep
    exact .inl (hscope ▸ hkey)
  | @joined own left right kind condition one two id htwo hfirst hsecond =>
    subst htwo
    rcases List.mem_cons.1 hstep with rfl | hstep
    · exact .inl (hfirst ▸ hkey)
    · obtain rfl := List.mem_singleton.1 hstep
      simp only [List.map_cons, List.map_nil, Piece.early, List.cons.injEq, and_true] at hearly
      obtain ⟨table, rfl, rfl⟩ := Option.map_eq_some_iff.1 (hearly.2.symm.trans hpart)
      rcases hsecond with hscope | ⟨hlateral, id, hscope⟩
      · exact .inl (hscope ▸ hkey)
      · rw [hscope, ← List.flatMap_singleton (fun step : Step => step.outcome.instances)] at hkey
        refine (declares_tables hkey).imp_right ?_
        rintro ⟨⟨id, hid⟩, left', hleft, hkey'⟩
        obtain rfl := List.mem_singleton.1 hleft
        refine .of_declared h List.mem_cons_self hkey' fun start source hstart hsource => ?_
        obtain ⟨table', rfl, rfl⟩ := Option.map_eq_some_iff.1 (hearly.1.symm.trans hstart)
        subst hid
        exact .lateral hlateral hsource
  | @withTables own tables body id hchained =>
    obtain ⟨before, behind, rfl, hscope⟩ := hchained.exists_split hstep
    rcases hscope with hscope | ⟨id, hscope⟩
    · exact .inl (hscope ▸ hkey)
    · rw [hscope, List.nil_append] at hkey
      refine (declares_commonTables hkey).imp_right ?_
      rintro ⟨⟨id, hid⟩, earlier, hmem, hkey⟩
      rw [List.map_append, List.map_cons, hpart] at hearly
      obtain ⟨tables₁, _, rfl, hbefore, hrest⟩ := List.map_eq_append_iff.1 hearly.symm
      obtain ⟨later, tables₂, rfl, heq, -⟩ := List.map_eq_cons_iff.1 hrest
      obtain rfl : Piece.commonTable later = part := Option.some.inj heq
      refine .of_declared h (List.mem_append_left _ hmem) hkey fun start source hstart hsource => ?_
      subst hid
      obtain ⟨it, rfl, rfl⟩ := hsource
      obtain ⟨table, htable, heq⟩ := List.mem_map.1 (some_mem_of_map hbefore.symm hmem hstart)
      cases heq
      exact .later htable

/-- **Governed**: on the way of the steps there is a node, whatever introduces the identity governs a
part of it, and the use stands in this part. -/
def Governed (steps : List Step) (source : NodeInfo) (key : Declared) (use : NodeInfo) : Prop :=
  ∃ outer part, Comes steps outer ∧ outer.Governs source key part ∧ part.ReachesNode use

/-- What is governed on the way of some steps is governed on the way of more. -/
theorem Governed.mono {steps' : List Step} {use : NodeInfo} (h : Governed steps source key use)
    (hcomes : ∀ outer, Comes steps outer → Comes steps' outer) : Governed steps' source key use := by
  obtain ⟨outer, part, houter, hgoverns, huse⟩ := h
  exact ⟨outer, part, hcomes outer houter, hgoverns, huse⟩

/-- **Declared on the way**: the visit took the identity, and whatever introduces it governs the use. A
common table is introduced in any case. -/
structure Within (steps : List Step) (first last : SymbolId) (log : Log) (use : NodeInfo)
    (key : Declared) : Prop where
  ge : first ≤ key.id
  lt : key.id < last
  governed : ∀ source, log.Introduces source key → Governed steps source key use
  introduced : ∀ id, key = .commonTable id → ∃ source, log.Introduces source key

/-- What is declared on the way of a part of a visit is declared on the way of the whole visit, if
nothing else introduces it. -/
theorem Within.lift {steps' : List Step} {first' last' : SymbolId} {log' : Log} {use : NodeInfo}
    (h : Within steps first last log use key) (hge : first' ≤ first) (hlt : last ≤ last')
    (hcomes : ∀ outer, Comes steps outer → Comes steps' outer)
    (hiff : ∀ source, log'.Introduces source key ↔ log.Introduces source key) :
    Within steps' first' last' log' use key where
  ge := Nat.le_trans hge h.ge
  lt := Nat.lt_of_lt_of_le h.lt hlt
  governed source hsource := (h.governed source ((hiff source).1 hsource)).mono hcomes
  introduced id hid := (h.introduced id hid).imp fun source => (hiff source).2

/-- What an early part of a node declares is declared on the way of a use that stands in a part which it
governs. -/
theorem Fresh.within {middle : SymbolId} {log' : Log} {use : NodeInfo}
    (h : Fresh first middle log piece part key) (hcomes : Comes steps piece)
    (huse : part.ReachesNode use) (hle : middle ≤ last)
    (hiff : ∀ source, log'.Introduces source key ↔ log.Introduces source key) :
    Within steps first last log' use key where
  ge := h.ge
  lt := Nat.lt_of_lt_of_le h.lt hle
  governed source hsource := ⟨piece, part, hcomes, h.governs source ((hiff source).1 hsource), huse⟩
  introduced id hid := (h.introduced id hid).imp fun source => (hiff source).2

/-- A use that belongs to a step, in the scope of which it is declared. -/
def DeclaredIn (steps : List Step) (use : NodeInfo) (key : Declared) : Prop :=
  ∃ step ∈ steps, key ∈ step.scope.declares ∧
    ∃ start, step.piece = some start ∧ start.ReachesNode use

/-- A use that belongs to a step belongs to one of more steps. -/
theorem DeclaredIn.cons {rest : List Step} {step : Step} {use : NodeInfo} (h : DeclaredIn rest use key) :
    DeclaredIn (step :: rest) use key := by
  obtain ⟨step', hstep, h⟩ := h
  exact ⟨step', List.mem_cons_of_mem _ hstep, h⟩

/-- **A use in a part of a node**, which sees what is declared in the scope of the node, or what the early
parts of the node declare. -/
theorem declaredIn_or_within {rest : List Step} {use : NodeInfo} {log' : Log}
    (hpart : some part ∈ piece.early ++ piece.late) (huse : part.ReachesNode use)
    (h : key ∈ scope.declares ∨ Fresh first middle log piece part key) (hle : middle ≤ last)
    (hiff : key.id < middle → ∀ source, log'.Introduces source key ↔ log.Introduces source key) :
    DeclaredIn (⟨scope, some piece, outcome⟩ :: rest) use key ∨
      Within (⟨scope, some piece, outcome⟩ :: rest) first last log' use key := by
  rcases h with hdeclares | hfresh
  · obtain ⟨node, hreached, hnode⟩ := huse
    refine .inl ⟨_, List.mem_cons_self, hdeclares, piece, rfl, node, ?_, hnode⟩
    exact .step (List.mem_filterMap.2 ⟨_, hpart, rfl⟩) hreached
  · exact .inr (hfresh.within (comes_cons.2 (.inl ⟨piece, rfl, .refl piece⟩)) huse hle
      (hiff hfresh.lt))

/-- **Every use is declared or governed.** What a record refers to is declared in the scope of the step
that the record belongs to; or it is taken on the way, and then all that introduces it governs the
node of the record.

**Proof sketch.** By induction on the visit. What the parts of a node cannot account for is declared in
their scope. This is what the scope of the node declares, or else it is declared by an early part of the
node, which governs the part in question. -/
theorem governed (h : Visit steps first last log) {use : Record} (huse : use ∈ log.records)
    (hkey : use.node.used? = some key) :
    DeclaredIn steps use.info key ∨ Within steps first last log use.info key := by
  induction h with
  | nil => exact absurd huse List.not_mem_nil
  | missing hle _ _ ih =>
    exact (ih huse).imp .cons fun hwithin =>
      hwithin.lift hle (Nat.le_refl _) (fun _ h => comes_cons.2 (.inr h)) fun _ => Iff.rfl
  | @node scope inner piece outcome early late rest _ middle stop next _ log₁ log₂ log₃ own
      hearly hlate henters hscope h₁ h₂ hle hown h₃ ih₁ ih₂ ih₃ =>
    have hle₁ := h₁.le
    have hle₂ := h₂.le
    have hle₃ := h₃.le
    have hbelow : ∀ outer, Comes early outer ∨ Comes late outer →
        Comes (⟨scope, some piece, outcome⟩ :: rest) outer := by
      intro outer houter
      obtain ⟨start, hstart, hreached⟩ := (comes_parts hearly hlate).1 houter
      exact comes_cons.2 (.inl ⟨piece, rfl, .step hstart hreached⟩)
    have hrecords : use ∈ log₃.records ∨ use ∈ own ∨ use ∈ log₂.records ∨ use ∈ log₁.records := by
      simpa using huse
    rcases hrecords with huse | huse | huse | huse
    · exact (ih₃ huse).imp .cons fun hwithin =>
        hwithin.lift (by lia) (Nat.le_refl _) (fun _ h => comes_cons.2 (.inr h))
          (introduces_iff_rest h₁ h₂ hle hown h₃ hwithin.ge)
    · obtain ⟨hdeclares, hinfo⟩ := hown.own_used huse hkey
      exact .inl ⟨_, List.mem_cons_self, hdeclares, piece, rfl, piece, .refl piece, hinfo⟩
    · rcases ih₂ huse with ⟨step, hstep, hdeclares, start, hstart, hreaches⟩ | hwithin
      · have hmem := some_mem_of_map hlate hstep hstart
        have hsees := h₁.declares_late hearly henters hmem (hscope step hstep ▸ hdeclares)
        exact declaredIn_or_within (List.mem_append_right _ hmem) hreaches hsees (by lia)
          (introduces_iff_early h₁ h₂ hle hown h₃)
      · have hlt := hwithin.lt
        exact .inr (hwithin.lift hle₁ (by lia) (fun _ h => hbelow _ (.inr h))
          (introduces_iff_late h₁ h₂ hle hown h₃ hwithin.ge hlt))
    · rcases ih₁ huse with ⟨step, hstep, hdeclares, start, hstart, hreaches⟩ | hwithin
      · have hmem := some_mem_of_map hearly hstep hstart
        have hsees := h₁.declares_early hearly henters hstep hstart hdeclares
        exact declaredIn_or_within (List.mem_append_left _ hmem) hreaches hsees (by lia)
          (introduces_iff_early h₁ h₂ hle hown h₃)
      · exact .inr (hwithin.lift (Nat.le_refl _) (by lia) (fun _ h => hbelow _ (.inl h))
          (introduces_iff_early h₁ h₂ hle hown h₃ hwithin.lt))

end Visit

end Binding

end QuerySemantics
