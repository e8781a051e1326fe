import QuerySemantics.Proofs.Ast.Alike
import QuerySemantics.Proofs.Binding.Lockstep
import QuerySemantics.Proofs.Binding.Rules
import QuerySemantics.Proofs.Bound.Twin

/-!
# Passes in parallel

Two passes that do not take the same identities on their way make twins of corresponding nodes, as long
as they work in scopes that are twins and remember like answers of the providers. Which nodes correspond,
and how the logs of the two passes are alike, are parameters.

## Main definitions

* `Binding.PassComparison`: how two passes are compared.
* `Binding.Abreast`: the states of the two passes.
* `Binding.Parallel`: computations that lead from such states to such states, and give twins.

## Main results

* `Binding.Parallel.bind`: the rule for sequences.
* `Binding.Parallel.report`, `Binding.Parallel.supply`, `Binding.Parallel.methodsOf` and fellows: the
  rules for the steps of a pass.
-/

set_option autoImplicit false

namespace QuerySemantics

namespace Binding

/-! ## Comparing passes -/

section Values

variable (typed : TypedCatalog) (pairing : Pairing)

/-- Queries with the scopes that an `ORDER BY` behind them sees are twins if both are. -/
structure ScopedQuery.Twins (it other : ScopedQuery) : Prop where
  query : Twin typed pairing it.query other.query
  inner : Twin typed pairing it.inner other.inner

/-- Queries with scopes may be twins. -/
instance : Twinned ScopedQuery :=
  ⟨ScopedQuery.Twins, fun hle h => ⟨Twinned.mono hle h.query, Twinned.mono hle h.inner⟩⟩

/-- Records of one node that it is bound to twins. -/
structure Record.Twins (it other : Record) : Prop where
  info : other.info = it.info
  node : Twin typed pairing it.node other.node

/-- Records may be twins. -/
instance : Twinned Record :=
  ⟨Record.Twins, fun hle h => ⟨h.info, Twinned.mono hle h.node⟩⟩

end Values

/-- **Comparison** of two passes: which nodes and tokens of their trees correspond, the catalog of both, and
how what they remember, record and report is alike where identities go together. -/
structure PassComparison extends Likeness where
  typed : TypedCatalog
  options : Options
  span : Span → Span → Prop
  members : MemberCache → MemberCache → Prop
  records : Pairing → List Record → List Record → Prop
  diagnostics : List Diagnostic → List Diagnostic → Prop
  span_info {info₁ info₂ : NodeInfo} : info info₁ info₂ → span info₁.span info₂.span
  span_token {token₁ token₂ : Token} : token token₁ token₂ → span token₁.span token₂.span
  askMethods (pairing : Pairing) {cache₁ cache₂ : MemberCache} {type : SqlType}
    (next₁ next₂ : SymbolId) : members cache₁ cache₂ → typed.Settled type →
      let asked₁ := (cache₁.askMethods typed.catalog.methods type next₁).1
      let asked₂ := (cache₂.askMethods typed.catalog.methods type next₂).1
      Twin typed pairing asked₁.1 asked₂.1 ∧ members asked₁.2 asked₂.2
  askProperties (pairing : Pairing) {cache₁ cache₂ : MemberCache} {type : SqlType}
    (next₁ next₂ : SymbolId) : members cache₁ cache₂ → typed.Settled type →
      let asked₁ := (cache₁.askProperties typed.catalog.properties type next₁).1
      let asked₂ := (cache₂.askProperties typed.catalog.properties type next₂).1
      Twin typed pairing asked₁.1 asked₂.1 ∧ members asked₁.2 asked₂.2
  records_mono {pairing pairing' : Pairing} {records₁ records₂ : List Record} : pairing ≤ pairing' →
    records pairing records₁ records₂ → records pairing' records₁ records₂
  records_cons {pairing : Pairing} {info₁ info₂ : NodeInfo} {node₁ node₂ : Bound.Node}
    {records₁ records₂ : List Record} (scope₁ scope₂ : Scope) : info info₁ info₂ →
      Twin typed pairing node₁ node₂ → records pairing records₁ records₂ →
        records pairing (⟨info₁, node₁, scope₁⟩ :: records₁)
          (⟨info₂, node₂, scope₂⟩ :: records₂)
  diagnostics_keep {span₁ span₂ : Span} {earlier₁ earlier₂ : List Diagnostic} (problem : Problem) :
    span span₁ span₂ → diagnostics earlier₁ earlier₂ →
      diagnostics (options.keep earlier₁ ⟨span₁, problem⟩)
        (options.keep earlier₂ ⟨span₂, problem⟩)

section Parallel

variable (c : PassComparison) (pairing : Pairing)

/-- The surroundings of both passes in a scope. -/
def PassComparison.env (scope : Scope) : Env :=
  ⟨c.options, scope⟩

/-- **Abreast**: the two passes remember, record and report alike. -/
structure Abreast (pass pass' : Pass) : Prop where
  bounded : pairing.Bounded pass.next pass'.next
  members : c.members pass.members pass'.members
  records : c.records pairing pass.records pass'.records
  diagnostics : c.diagnostics pass.diagnostics pass'.diagnostics

/-- **Parallel**: in scopes that are twins, states that are abreast lead to such states, and to values
that are twins. -/
def Parallel {α : Type} [Twinned α] (body body' : BindM α) : Prop :=
  ∀ scope scope', Twin c.typed pairing scope scope' → ∀ pass pass', Abreast c pairing pass pass' →
    ∃ pairing', pairing ≤ pairing' ∧
      Twin c.typed pairing' (body (c.env scope) pass).1 (body' (c.env scope') pass').1 ∧
        Abreast c pairing' (body (c.env scope) pass).2 (body' (c.env scope') pass').2

end Parallel

variable {c : PassComparison} {pairing : Pairing} {α β γ : Type} [Twinned α] [Twinned β]

namespace Parallel

/-! ## Sequences -/

/-- Twins go on in parallel. -/
theorem pure {it other : α} (h : Twin c.typed pairing it other) :
    Parallel c pairing (Pure.pure it) (Pure.pure other) :=
  fun _ _ _ _ _ habreast => ⟨pairing, le_rfl, h, habreast⟩

/-- **Sequence**, where only a view of what is handed over is known to give twins. -/
theorem bindView (view : γ → α) {first first' : BindM γ} {rest rest' : γ → BindM β}
    (hfirst : Parallel c pairing (first >>= fun it => Pure.pure (view it))
      (first' >>= fun it => Pure.pure (view it)))
    (hrest : ∀ pairing', pairing ≤ pairing' → ∀ it other,
      Twin c.typed pairing' (view it) (view other) → Parallel c pairing' (rest it) (rest' other)) :
    Parallel c pairing (first >>= rest) (first' >>= rest') := by
  intro scope scope' hscope pass pass' habreast
  obtain ⟨middle, hle, htwin, habreast⟩ := hfirst scope scope' hscope pass pass' habreast
  obtain ⟨last, hle', htwin, habreast⟩ :=
    hrest middle hle _ _ htwin scope scope' (Twinned.mono hle hscope) _ _ habreast
  exact ⟨last, hle.trans hle', htwin, habreast⟩

/-- **Sequence.** -/
theorem bind {first first' : BindM α} {rest rest' : α → BindM β}
    (hfirst : Parallel c pairing first first')
    (hrest : ∀ pairing', pairing ≤ pairing' → ∀ it other, Twin c.typed pairing' it other →
      Parallel c pairing' (rest it) (rest' other)) :
    Parallel c pairing (first >>= rest) (first' >>= rest') :=
  bindView id hfirst hrest

/-- **Sequence** with nothing to hand over. -/
theorem next {first first' : BindM Unit} {rest rest' : BindM β}
    (hfirst : Parallel c pairing first first')
    (hrest : ∀ pairing', pairing ≤ pairing' → Parallel c pairing' rest rest') :
    Parallel c pairing (first >>= fun _ => rest) (first' >>= fun _ => rest') :=
  hfirst.bind fun pairing' hle _ _ _ => hrest pairing' hle

/-! ## Surroundings -/

/-- Looking at the scope: the scopes at hand are twins. -/
theorem currentScope {rest rest' : Scope → BindM β}
    (h : ∀ scope scope', Twin c.typed pairing scope scope' →
      Parallel c pairing (rest scope) (rest' scope')) :
    Parallel c pairing (Binding.currentScope >>= rest) (Binding.currentScope >>= rest') :=
  fun scope scope' hscope pass pass' habreast =>
    h scope scope' hscope scope scope' hscope pass pass' habreast

/-- Looking at the mode in which names are compared: it is the same. -/
theorem caseSensitive {rest rest' : Bool → BindM β}
    (h : Parallel c pairing (rest c.options.caseSensitive) (rest' c.options.caseSensitive)) :
    Parallel c pairing (Binding.caseSensitive >>= rest) (Binding.caseSensitive >>= rest') :=
  h

/-- Working in scopes that are twins. -/
theorem within {inner inner' : Scope} {body body' : BindM β}
    (hinner : Twin c.typed pairing inner inner') (h : Parallel c pairing body body') :
    Parallel c pairing (Binding.within inner body) (Binding.within inner' body') :=
  fun _ _ _ pass pass' habreast => h inner inner' hinner pass pass' habreast

/-! ## Identities -/

/-- Taking identities for twins. -/
theorem supply {taken taken' : Supply α} (h : Supply.Alongside c.typed pairing taken taken') :
    Parallel c pairing (Binding.supply taken) (Binding.supply taken') := by
  intro scope scope' hscope pass pass' habreast
  obtain ⟨pairing', hle, htwin, hbounded⟩ := h pass.next pass'.next habreast.bounded
  exact ⟨pairing', hle, htwin, hbounded, habreast.members, c.records_mono hle habreast.records,
    habreast.diagnostics⟩

/-- A new link in front of the scope at hand. -/
theorem childScope {frame frame' : Frame} (h : Twin c.typed pairing frame frame') :
    Parallel c pairing (Binding.childScope frame) (Binding.childScope frame') :=
  currentScope fun _ _ hscope => supply (.child hscope h)

/-! ## The log -/

/-- Recording twins at corresponding nodes. -/
theorem record {info info' : NodeInfo} {node node' : Bound.Node} (hinfo : c.info info info')
    (h : Twin c.typed pairing node node') :
    Parallel c pairing (Binding.record info node) (Binding.record info' node') :=
  fun _ _ _ _ _ habreast => ⟨pairing, le_rfl, trivial, habreast.bounded, habreast.members,
    c.records_cons _ _ hinfo h habreast.records, habreast.diagnostics⟩

/-- Recording the scopes at hand. -/
theorem recordScope (info info' : NodeInfo) :
    Parallel c pairing (Binding.recordScope info) (Binding.recordScope info') :=
  fun _ _ _ _ _ habreast => ⟨pairing, le_rfl, trivial, habreast.bounded, habreast.members,
    habreast.records, habreast.diagnostics⟩

/-- **Reports** of one problem. -/
theorem report {span span' : Span} (problem : Problem) (h : c.span span span') :
    Parallel c pairing (Binding.report span problem) (Binding.report span' problem) := by
  intro scope scope' hscope pass pass' habreast
  rw [report_eq, report_eq]
  exact ⟨pairing, le_rfl, trivial, habreast.bounded, habreast.members, habreast.records,
    c.diagnostics_keep problem h habreast.diagnostics⟩

/-- Recording expressions that are twins. -/
theorem recordExpr {info info' : NodeInfo} {it other : Bound.Expr} (hinfo : c.info info info')
    (h : Twin c.typed pairing it other) :
    Parallel c pairing (Binding.recordExpr info it) (Binding.recordExpr info' other) :=
  (record hinfo (Bound.Node.twin_expr h)).next fun _ hle => .pure (Twinned.mono hle h)

/-- Recording table references that are twins. -/
theorem recordTable {info info' : NodeInfo} {it other : Bound.TableRef} (hinfo : c.info info info')
    (h : Twin c.typed pairing it other) :
    Parallel c pairing (Binding.recordTable info it) (Binding.recordTable info' other) :=
  (record hinfo (Bound.Node.twin_table h)).next fun _ hle => .pure (Twinned.mono hle h)

/-- Recording queries that are twins. -/
theorem recordQuery {info info' : NodeInfo} {it other : Bound.Query} {inner inner' : Scope}
    (hinfo : c.info info info') (h : Twin c.typed pairing it other)
    (hinner : Twin c.typed pairing inner inner') :
    Parallel c pairing (Binding.recordQuery info it inner) (Binding.recordQuery info' other inner') :=
  (record hinfo (Bound.Node.twin_query h)).next fun _ hle =>
    .pure ⟨Twinned.mono hle h, Twinned.mono hle hinner⟩

/-! ## Placeholders -/

/-- Symbols for what cannot be resolved are twins. -/
theorem badSymbol (name : String) :
    Parallel c pairing (Binding.badSymbol name) (Binding.badSymbol name) :=
  (supply .fresh).bind fun _ _ _ _ hid => .pure (.bad hid)

/-- Names that cannot be resolved are twins. -/
theorem badName (name : String) : Parallel c pairing (Binding.badName name) (Binding.badName name) :=
  (badSymbol name).bind fun _ _ _ _ hsymbol => .pure (.name hsymbol)

/-- Missing expressions are twins. -/
theorem missingExpr : Parallel c pairing Binding.missingExpr Binding.missingExpr :=
  badName ""

/-- Instances of tables that cannot be resolved are twins. -/
theorem badInstance (table : String) :
    Parallel c pairing (Binding.badInstance table) (Binding.badInstance table) :=
  (supply .fresh).bind fun _ _ _ _ hid => .pure (.bad ⟨hid, rfl⟩)

/-- Missing table references are twins. -/
theorem missingTable : Parallel c pairing Binding.missingTable Binding.missingTable :=
  (badInstance "").bind fun _ _ _ _ hsource => (supply (.tableInstance "" hsource)).bind
    fun _ _ _ _ htable => .pure (.named htable)

/-- What cannot be resolved is reported in parallel. -/
theorem unresolved {span span' : Span} (problem : Problem) (name : String) (h : c.span span span') :
    Parallel c pairing (Binding.unresolved span problem name)
      (Binding.unresolved span' problem name) :=
  (report problem h).next fun _ _ => badSymbol name

/-! ## Members -/

/-- **Members** are alike, whether they are remembered or made anew. -/
theorem methodsOf {type type' : SqlType} (h : Twin c.typed pairing type type') :
    Parallel c pairing (Binding.methodsOf type) (Binding.methodsOf type') := by
  rintro ⟨_, _, links⟩ ⟨_, _, links'⟩ ⟨rfl, rfl, -⟩ pass pass' habreast
  obtain ⟨rfl, htype⟩ := h
  obtain ⟨htwin, hmembers⟩ := c.askMethods pairing pass.next pass'.next habreast.members htype
  have hbounded := habreast.bounded.later
    (Supply.Advances.askMethods pass.members c.typed.catalog.methods type' pass.next)
    (Supply.Advances.askMethods pass'.members c.typed.catalog.methods type' pass'.next)
  exact ⟨pairing, le_rfl, htwin, hbounded, hmembers, habreast.records, habreast.diagnostics⟩

/-- Properties of one type are asked for in parallel. -/
theorem propertiesOf {type type' : SqlType} (h : Twin c.typed pairing type type') :
    Parallel c pairing (Binding.propertiesOf type) (Binding.propertiesOf type') := by
  rintro ⟨_, _, links⟩ ⟨_, _, links'⟩ ⟨rfl, rfl, -⟩ pass pass' habreast
  obtain ⟨rfl, htype⟩ := h
  obtain ⟨htwin, hmembers⟩ := c.askProperties pairing pass.next pass'.next habreast.members htype
  have hbounded := habreast.bounded.later
    (Supply.Advances.askProperties pass.members c.typed.catalog.properties type' pass.next)
    (Supply.Advances.askProperties pass'.members c.typed.catalog.properties type' pass'.next)
  exact ⟨pairing, le_rfl, htwin, hbounded, hmembers, habreast.records, habreast.diagnostics⟩

end Parallel

end Binding

end QuerySemantics
