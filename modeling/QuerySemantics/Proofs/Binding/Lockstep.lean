import QuerySemantics.Binding.Basic
import QuerySemantics.Proofs.Ast.Alike
import QuerySemantics.Proofs.Scope.Offered

/-!
# Passes in lockstep

Two passes over alike trees that take the same identities on the way make the same of them, as long as
the scopes in which they work answer alike. How the scopes of the two passes differ, where the trees
stand, and what becomes of a report are parameters.

The scopes need not answer alike where the first pass has nothing to find, provided that it is known
not to report anything: then it did not look there.

## Main definitions

* `Binding.Options.keep`: what is kept of a report.
* `Binding.Coupling`: how two passes are compared.
* `Binding.Coupling.still`: the coupling of passes in the same scopes.
* `Binding.Coupling.Holds`, `Binding.Coupling.Coupled`: what is assumed of the states of the first
  pass, and how those of the second are like them.
* `Binding.Lockstep`: a step of the first pass and one of the second lead from coupled states to coupled
  states.
* `Binding.Stuck`: a step of the first pass that does not lead to what is assumed.

## Main results

* `Binding.Lockstep.bind`: the rule for sequences.
* `Binding.Lockstep.report`, `Binding.Lockstep.supply`, `Binding.Lockstep.within` and fellows: the
  rules for the steps of a pass.
-/

set_option autoImplicit false

namespace QuerySemantics

namespace Binding

/-! ## Reports -/

/-- **What is kept** of a report behind earlier ones. -/
def Options.keep (options : Options) (earlier : List Diagnostic) (it : Diagnostic) :
    List Diagnostic :=
  if options.maxDiagnostics.all (earlier.length < ·) then earlier ++ [it] else earlier

/-- A report is kept or not. -/
theorem report_eq (span : Span) (problem : Problem) (env : Env) (pass : Pass) :
    report span problem env pass =
      ((), { pass with diagnostics := env.options.keep pass.diagnostics ⟨span, problem⟩ }) := by
  unfold report Options.keep
  split <;> rfl

/-- Without a limit all diagnostics are kept. -/
theorem Options.keep_unlimited {options : Options} (h : options.maxDiagnostics = none)
    (earlier : List Diagnostic) (it : Diagnostic) : options.keep earlier it = earlier ++ [it] := by
  rw [keep, h]
  rfl

/-- A report takes nothing away. -/
theorem Options.eq_nil_of_keep {options : Options} {earlier : List Diagnostic} {it : Diagnostic}
    (h : options.keep earlier it = []) : earlier = [] := by
  unfold keep at h
  split at h
  · simp at h
  · exact h

/-- The first report is kept if any is. -/
theorem Options.keep_ne_nil {options : Options} (h : options.maxDiagnostics ≠ some 0)
    (earlier : List Diagnostic) (it : Diagnostic) : options.keep earlier it ≠ [] := by
  intro hnil
  rw [eq_nil_of_keep hnil, keep, if_pos] at hnil
  · cases hnil
  · cases hlimit : options.maxDiagnostics with
    | none => rfl
    | some limit =>
      have : limit ≠ 0 := fun hzero => h (hzero ▸ hlimit)
      simpa [Nat.pos_iff_ne_zero] using this

/-- Passes with the same options compare names in the same way. -/
theorem Options.compare_eq (options : Options) : options.caseSensitive = options.caseSensitive :=
  rfl

/-! ## Couplings -/

/-- **Coupling** of two passes: which nodes and tokens of their trees correspond, what the second sees
of a scope of the first, and how their logs are alike. If the first is `silent`, it has to end without
diagnostics, and it has to record only what is admitted. -/
structure Coupling extends Likeness where
  options : Options
  options' : Options
  lift : Scope → Scope
  span : Span → Span → Prop
  records : List Record → List Record → Prop
  scopes : List (NodeInfo × Scope) → List (NodeInfo × Scope) → Prop
  diagnostics : List Diagnostic → List Diagnostic → Prop
  silent : Prop
  admits : NodeInfo → Bound.Node → Prop
  cased_eq : options'.caseSensitive = options.caseSensitive
  span_info {info₁ info₂ : NodeInfo} : info info₁ info₂ → span info₁.span info₂.span
  span_token {token₁ token₂ : Token} : token token₁ token₂ → span token₁.span token₂.span
  catalog_lift (scope : Scope) : (lift scope).catalog = scope.catalog
  lift_push (scope : Scope) (id : SymbolId) (frame : Frame) :
    lift (scope.push id frame) = (lift scope).push id frame
  commonTable?_lift (scope : Scope) (name : String) :
    (lift scope).commonTable? options.caseSensitive name =
      scope.commonTable? options.caseSensitive name
  resolveValue_lift (scope : Scope) (name : String) :
    (lift scope).resolveValue options.caseSensitive name =
        scope.resolveValue options.caseSensitive name ∨
      silent ∧ scope.resolveValue options.caseSensitive name = .notFound
  resolveInstance_lift (scope : Scope) {node : NodeInfo} {leaf : Token} : qualifies node leaf →
    (lift scope).resolveInstance options.caseSensitive leaf.ident =
        scope.resolveInstance options.caseSensitive leaf.ident ∨
      silent ∧ scope.resolveInstance options.caseSensitive leaf.ident = .notFound ∧
        ∀ target symbol, ¬admits node (.expr (.property target symbol))
  records_cons {info₁ info₂ : NodeInfo} {records₁ records₂ : List Record} (node : Bound.Node)
    (scope : Scope) : info info₁ info₂ → records records₁ records₂ →
      records (⟨info₁, node, scope⟩ :: records₁) (⟨info₂, node, lift scope⟩ :: records₂)
  scopes_cons {info₁ info₂ : NodeInfo} {scopes₁ scopes₂ : List (NodeInfo × Scope)} (scope : Scope) :
    info info₁ info₂ → scopes scopes₁ scopes₂ →
      scopes ((info₁, scope) :: scopes₁) ((info₂, lift scope) :: scopes₂)
  diagnostics_keep {span₁ span₂ : Span} {earlier₁ earlier₂ : List Diagnostic} (problem : Problem) :
    span span₁ span₂ → diagnostics earlier₁ earlier₂ →
      diagnostics (options.keep earlier₁ ⟨span₁, problem⟩) (options'.keep earlier₂ ⟨span₂, problem⟩)
  limit : silent → options.maxDiagnostics ≠ some 0

namespace Coupling

variable (c : Coupling)

/-- What is assumed of the states of the first pass. -/
structure Holds (pass : Pass) : Prop where
  records : ∀ record ∈ pass.records, c.admits record.info record.node
  diagnostics : c.silent → pass.diagnostics = []

/-- **Coupled states** of the two passes. -/
structure Coupled (pass pass' : Pass) : Prop where
  next : pass'.next = pass.next
  members : pass'.members = pass.members
  records : c.records pass.records pass'.records
  scopes : c.scopes pass.scopes pass'.scopes
  diagnostics : c.diagnostics pass.diagnostics pass'.diagnostics

/-- The surroundings of the first pass in a scope. -/
def env (scope : Scope) : Env :=
  ⟨c.options, scope⟩

/-- The surroundings of the second pass in a scope. -/
def env' (scope : Scope) : Env :=
  ⟨c.options', c.lift scope⟩

/-- What the second pass makes of a query that the first made something of: the same, behind its own
scope. -/
def liftQuery (it : ScopedQuery) : ScopedQuery :=
  ⟨it.query, c.lift it.inner⟩

/-- **The coupling of passes in the same scopes**, of which the first may report anything. -/
def still (like : Likeness) (options : Options) (span : Span → Span → Prop)
    (records : List Record → List Record → Prop)
    (scopes : List (NodeInfo × Scope) → List (NodeInfo × Scope) → Prop)
    (diagnostics : List Diagnostic → List Diagnostic → Prop)
    (span_info : ∀ {info₁ info₂}, like.info info₁ info₂ → span info₁.span info₂.span)
    (span_token : ∀ {token₁ token₂}, like.token token₁ token₂ → span token₁.span token₂.span)
    (records_cons : ∀ {info₁ info₂ records₁ records₂} node scope, like.info info₁ info₂ →
      records records₁ records₂ →
        records (⟨info₁, node, scope⟩ :: records₁) (⟨info₂, node, scope⟩ :: records₂))
    (scopes_cons : ∀ {info₁ info₂ scopes₁ scopes₂} scope, like.info info₁ info₂ →
      scopes scopes₁ scopes₂ → scopes ((info₁, scope) :: scopes₁) ((info₂, scope) :: scopes₂))
    (diagnostics_keep : ∀ {span₁ span₂ earlier₁ earlier₂} problem, span span₁ span₂ →
      diagnostics earlier₁ earlier₂ → diagnostics (options.keep earlier₁ ⟨span₁, problem⟩)
        (options.keep earlier₂ ⟨span₂, problem⟩)) : Coupling where
  toLikeness := like
  options := options
  options' := options
  lift := id
  span := span
  records := records
  scopes := scopes
  diagnostics := diagnostics
  silent := False
  admits _ _ := True
  cased_eq := options.compare_eq
  span_info := span_info
  span_token := span_token
  catalog_lift _ := rfl
  lift_push _ _ _ := rfl
  commonTable?_lift _ _ := rfl
  resolveValue_lift _ _ := .inl rfl
  resolveInstance_lift _ _ := fun _ => .inl rfl
  records_cons := records_cons
  scopes_cons := scopes_cons
  diagnostics_keep := diagnostics_keep
  limit := False.elim

/-! What the catalog decides is the same in both passes. -/

/-- Both passes find the same parameters. -/
theorem hostVariable?_lift (scope : Scope) (name : String) :
    (c.lift scope).hostVariable? c.options.caseSensitive name =
      scope.hostVariable? c.options.caseSensitive name := by
  rw [Scope.hostVariable?, c.catalog_lift, Scope.hostVariable?]

/-- Both passes find the same tables of the catalog. -/
theorem schemaTable?_lift (scope : Scope) (name : String) :
    (c.lift scope).schemaTable? c.options.caseSensitive name =
      scope.schemaTable? c.options.caseSensitive name := by
  rw [Scope.schemaTable?, c.catalog_lift, Scope.schemaTable?]

/-- Both passes find the same functions. -/
theorem functionsNamed_lift (scope : Scope) (name : String) :
    (c.lift scope).functionsNamed c.options.caseSensitive name =
      scope.functionsNamed c.options.caseSensitive name := by
  rw [Scope.functionsNamed, c.catalog_lift, Scope.functionsNamed]

/-- Both passes find the same aggregates. -/
theorem aggregate?_lift (scope : Scope) (name : String) :
    (c.lift scope).aggregate? c.options.caseSensitive name =
      scope.aggregate? c.options.caseSensitive name := by
  rw [Scope.aggregate?, c.catalog_lift, Scope.aggregate?]

end Coupling

variable {α β γ δ : Type} {c : Coupling} {scope : Scope}

/-- **Lockstep**: where the assumptions hold afterwards, they held before, and coupled states lead to
coupled states. The second value is what `view` makes of the first. -/
def Lockstep (c : Coupling) (scope : Scope) (body : BindM α) (body' : BindM β) (view : α → β) :
    Prop :=
  ∀ pass, c.Holds (body (c.env scope) pass).2 → c.Holds pass ∧ ∀ pass', c.Coupled pass pass' →
    (body' (c.env' scope) pass').1 = view (body (c.env scope) pass).1 ∧
      c.Coupled (body (c.env scope) pass).2 (body' (c.env' scope) pass').2

/-- **Stuck**: a computation of the first pass behind which the assumptions do not hold. -/
def Stuck (c : Coupling) (scope : Scope) (body : BindM α) : Prop :=
  ∀ pass, ¬c.Holds (body (c.env scope) pass).2

namespace Lockstep

/-! ## Sequences -/

/-- **Sequence**, where the second pass sees something else than the first. -/
theorem bindView {first : BindM α} {first' : BindM β} {rest : α → BindM γ} {rest' : β → BindM δ}
    {middle : α → β} {view : γ → δ} (hfirst : Lockstep c scope first first' middle)
    (hrest : ∀ value, Lockstep c scope (rest value) (rest' (middle value)) view) :
    Lockstep c scope (first >>= rest) (first' >>= rest') view := by
  intro pass hend
  obtain ⟨hmiddle, hrest⟩ := hrest _ _ hend
  obtain ⟨hstart, hfirst⟩ := hfirst pass hmiddle
  refine ⟨hstart, fun pass' hcoupled => ?_⟩
  obtain ⟨hvalue, hcoupled⟩ := hfirst pass' hcoupled
  have h := hrest _ hcoupled
  rw [← hvalue] at h
  exact h

/-- **Sequence**, where both passes see the same. -/
theorem bind {first first' : BindM α} {rest : α → BindM γ} {rest' : α → BindM δ} {view : γ → δ}
    (hfirst : Lockstep c scope first first' id)
    (hrest : ∀ value, Lockstep c scope (rest value) (rest' value) view) :
    Lockstep c scope (first >>= rest) (first' >>= rest') view :=
  hfirst.bindView hrest

/-- A value of which the second pass sees something else. -/
theorem pureView (value : α) (view : α → β) :
    Lockstep c scope (Pure.pure value) (Pure.pure (view value)) view :=
  fun _ hend => ⟨hend, fun _ hcoupled => ⟨rfl, hcoupled⟩⟩

/-- A value is the same in both passes. -/
theorem pure (value : α) : Lockstep c scope (Pure.pure value) (Pure.pure value) id :=
  pureView value id

/-- A computation that is stuck goes with anything. -/
theorem of_stuck {body : BindM α} {body' : BindM β} {view : α → β} (h : Stuck c scope body) :
    Lockstep c scope body body' view :=
  fun pass hend => absurd hend (h pass)

/-! ## Surroundings -/

/-- Looking at the scope. -/
theorem currentScope {rest : Scope → BindM α} {rest' : Scope → BindM β} {view : α → β}
    (h : Lockstep c scope (rest scope) (rest' (c.lift scope)) view) :
    Lockstep c scope (Binding.currentScope >>= rest) (Binding.currentScope >>= rest') view :=
  h

/-- Looking at the mode in which names are compared. -/
theorem caseSensitive {rest : Bool → BindM α} {rest' : Bool → BindM β} {view : α → β}
    (h : Lockstep c scope (rest c.options.caseSensitive) (rest' c.options.caseSensitive) view) :
    Lockstep c scope (Binding.caseSensitive >>= rest) (Binding.caseSensitive >>= rest') view := by
  intro pass hend
  obtain ⟨hstart, hrest⟩ := h pass hend
  refine ⟨hstart, fun pass' hcoupled => ?_⟩
  change (rest' c.options'.caseSensitive (c.env' scope) pass').1 = _ ∧
    c.Coupled _ (rest' c.options'.caseSensitive (c.env' scope) pass').2
  rw [c.cased_eq]
  exact hrest pass' hcoupled

/-- Working in another scope. -/
theorem within {inner : Scope} {body : BindM α} {body' : BindM β} {view : α → β}
    (h : Lockstep c inner body body' view) :
    Lockstep c scope (Binding.within inner body) (Binding.within (c.lift inner) body') view :=
  h

/-! ## Identities -/

/-- Taking identities for something that the second pass sees in its way. -/
theorem supplyView {taken : Supply α} {taken' : Supply β} {view : α → β}
    (h : ∀ next, taken' next = (view (taken next).1, (taken next).2)) :
    Lockstep c scope (supply taken) (supply taken') view := by
  intro pass hend
  refine ⟨⟨hend.records, hend.diagnostics⟩, fun pass' hcoupled => ?_⟩
  have htaken := h pass'.next
  rw [hcoupled.next] at htaken
  have hvalue : (supply taken' (c.env' scope) pass').1 = view (taken pass.next).1 := by
    simp only [supply, hcoupled.next, htaken]
  have hnext : (taken' pass'.next).2 = (taken pass.next).2 := by rw [hcoupled.next, htaken]
  exact ⟨hvalue, hnext, hcoupled.members, hcoupled.records, hcoupled.scopes, hcoupled.diagnostics⟩

/-- Taking identities. -/
theorem supply (taken : Supply α) :
    Lockstep c scope (Binding.supply taken) (Binding.supply taken) id :=
  supplyView fun _ => rfl

/-- A new link in front of a scope. -/
theorem child (inner : Scope) (frame : Frame) :
    Lockstep c scope (Binding.supply (inner.child frame))
      (Binding.supply ((c.lift inner).child frame)) c.lift :=
  supplyView fun next => Prod.ext (c.lift_push inner next frame).symm rfl

/-- A new link in front of the scope at hand. -/
theorem childScope (frame : Frame) :
    Lockstep c scope (Binding.childScope frame) (Binding.childScope frame) c.lift :=
  currentScope (child scope frame)

/-! ## The log -/

/-- Recording the same at corresponding nodes. -/
theorem record {info info' : NodeInfo} (node : Bound.Node) (h : c.info info info') :
    Lockstep c scope (Binding.record info node) (Binding.record info' node) id := by
  refine fun pass hend => ⟨⟨fun record hrecord => ?_, hend.diagnostics⟩, fun pass' hcoupled => ?_⟩
  · exact hend.records record (List.mem_cons_of_mem _ hrecord)
  · exact ⟨rfl, hcoupled.next, hcoupled.members, c.records_cons node scope h hcoupled.records,
      hcoupled.scopes, hcoupled.diagnostics⟩

/-- Recording the scope at corresponding nodes. -/
theorem recordScope {info info' : NodeInfo} (h : c.info info info') :
    Lockstep c scope (Binding.recordScope info) (Binding.recordScope info') id :=
  fun _ hend => ⟨⟨hend.records, hend.diagnostics⟩, fun _ hcoupled =>
    ⟨rfl, hcoupled.next, hcoupled.members, hcoupled.records,
      c.scopes_cons scope h hcoupled.scopes, hcoupled.diagnostics⟩⟩

/-- Reporting the same at corresponding places. -/
theorem report {span span' : Span} (problem : Problem) (h : c.span span span') :
    Lockstep c scope (Binding.report span problem) (Binding.report span' problem) id := by
  intro pass hend
  rw [report_eq] at hend ⊢
  refine ⟨⟨hend.records, fun hsilent => Options.eq_nil_of_keep (hend.diagnostics hsilent)⟩,
    fun pass' hcoupled => ?_⟩
  rw [report_eq]
  exact ⟨rfl, hcoupled.next, hcoupled.members, hcoupled.records, hcoupled.scopes,
    c.diagnostics_keep problem h hcoupled.diagnostics⟩

/-- Recording the same expression at corresponding nodes. -/
theorem recordExpr {info info' : NodeInfo} (it : Bound.Expr) (h : c.info info info') :
    Lockstep c scope (Binding.recordExpr info it) (Binding.recordExpr info' it) id :=
  (record _ h).bind fun _ => pure it

/-- Recording the same table reference at corresponding nodes. -/
theorem recordTable {info info' : NodeInfo} (it : Bound.TableRef) (h : c.info info info') :
    Lockstep c scope (Binding.recordTable info it) (Binding.recordTable info' it) id :=
  (record _ h).bind fun _ => pure it

/-- Recording the same query at corresponding nodes. -/
theorem recordQuery {info info' : NodeInfo} (it : Bound.Query) (inner : Scope)
    (h : c.info info info') :
    Lockstep c scope (Binding.recordQuery info it inner) (Binding.recordQuery info' it (c.lift inner))
      c.liftQuery :=
  (record _ h).bind fun _ => pureView ⟨it, inner⟩ c.liftQuery

/-! ## Placeholders -/

/-- A symbol for what cannot be resolved is the same in both passes. -/
theorem badSymbol (name : String) :
    Lockstep c scope (Binding.badSymbol name) (Binding.badSymbol name) id :=
  (supply _).bind fun _ => pure _

/-- A name that cannot be resolved is the same in both passes. -/
theorem badName (name : String) :
    Lockstep c scope (Binding.badName name) (Binding.badName name) id :=
  (badSymbol name).bind fun _ => pure _

/-- A missing expression is the same in both passes. -/
theorem missingExpr : Lockstep c scope missingExpr missingExpr id :=
  badName ""

/-- A table that cannot be resolved is the same in both passes. -/
theorem badInstance (table : String) :
    Lockstep c scope (Binding.badInstance table) (Binding.badInstance table) id :=
  (supply _).bind fun _ => pure _

/-- A missing table reference is the same in both passes. -/
theorem missingTable : Lockstep c scope missingTable missingTable id :=
  (badInstance "").bind fun _ => (supply _).bind fun _ => pure _

/-- What cannot be resolved is reported in both passes. -/
theorem unresolved {span span' : Span} (problem : Problem) (name : String) (h : c.span span span') :
    Lockstep c scope (Binding.unresolved span problem name) (Binding.unresolved span' problem name)
      id :=
  (report problem h).bind fun _ => badSymbol name

/-! ## Members -/

/-- Both passes get the same methods. -/
theorem methodsOf (type : SqlType) : Lockstep c scope (methodsOf type) (methodsOf type) id := by
  refine fun pass hend => ⟨⟨hend.records, hend.diagnostics⟩, fun pass' hcoupled => ?_⟩
  have hasked : pass'.members.askMethods (c.lift scope).catalog.methods type pass'.next =
      pass.members.askMethods scope.catalog.methods type pass.next := by
    rw [hcoupled.members, hcoupled.next, c.catalog_lift]
  exact ⟨congrArg (·.1.1) hasked, congrArg (·.2) hasked, congrArg (·.1.2) hasked, hcoupled.records,
    hcoupled.scopes, hcoupled.diagnostics⟩

/-- Both passes get the same properties. -/
theorem propertiesOf (type : SqlType) :
    Lockstep c scope (propertiesOf type) (propertiesOf type) id := by
  refine fun pass hend => ⟨⟨hend.records, hend.diagnostics⟩, fun pass' hcoupled => ?_⟩
  have hasked : pass'.members.askProperties (c.lift scope).catalog.properties type pass'.next =
      pass.members.askProperties scope.catalog.properties type pass.next := by
    rw [hcoupled.members, hcoupled.next, c.catalog_lift]
  exact ⟨congrArg (·.1.1) hasked, congrArg (·.2) hasked, congrArg (·.1.2) hasked, hcoupled.records,
    hcoupled.scopes, hcoupled.diagnostics⟩

end Lockstep

namespace Stuck

/-! ## Steps that do not lead to what is assumed -/

/-- What comes first is stuck, and the assumptions cannot hold again behind it. -/
theorem bind {first : BindM α} {rest : α → BindM β} {rest' : α → BindM γ} {view : β → γ}
    (hfirst : Stuck c scope first) (hrest : ∀ value, Lockstep c scope (rest value) (rest' value) view) :
    Stuck c scope (first >>= rest) :=
  fun pass hend => hfirst pass (hrest _ _ hend).1

/-- The rest is stuck, whatever comes first. -/
theorem rest {first : BindM α} {rest : α → BindM β} (h : ∀ value, Stuck c scope (rest value)) :
    Stuck c scope (first >>= rest) :=
  fun _ => h _ _

/-- Recording what is not admitted. -/
theorem record {info : NodeInfo} {node : Bound.Node} (h : ¬c.admits info node) :
    Stuck c scope (record info node) :=
  fun _ hend => h (hend.records _ List.mem_cons_self)

/-- Reporting in a silent pass. -/
theorem report (h : c.silent) (span : Span) (problem : Problem) :
    Stuck c scope (report span problem) := by
  intro pass hend
  rw [report_eq] at hend
  exact Options.keep_ne_nil (c.limit h) _ _ (hend.diagnostics h)

/-- A silent pass does not get behind what cannot be resolved. -/
theorem unresolved (h : c.silent) (span : Span) (problem : Problem) (name : String) :
    Stuck c scope (Binding.unresolved span problem name) :=
  (report h span problem).bind fun _ => Lockstep.badSymbol name

/-- A pass is stuck behind a record that is not admitted. -/
theorem recordExpr {info : NodeInfo} {it : Bound.Expr} (h : ¬c.admits info (.expr it)) :
    Stuck c scope (Binding.recordExpr info it) :=
  (record h).bind fun _ => Lockstep.pure it

end Stuck

end Binding

end QuerySemantics
