import QuerySemantics.Binding.Reference
import QuerySemantics.Proofs.Bound.Sound

/-!
# Clean passes

A pass only ever adds diagnostics. If it ends without any, then none of its rules had anything to
report, and what it made of a query is sound. Where a rule puts a placeholder without a report, it
was given a placeholder before.

## Main definitions

* `Binding.Pass.Sound`, `Binding.Env.Sound`: states and surroundings without placeholders.
* `Binding.Clean`: what a computation gives if it ends without diagnostics.

## Main results

* `Binding.Clean.bind`: the rule for sequences.
* `Binding.Clean.report`: a computation that reports does not end without diagnostics.
* `Binding.Clean.record`, `Binding.Clean.methodsOf` and fellows: the rules for the steps of a pass.
-/

set_option autoImplicit false

namespace QuerySemantics

namespace Binding

/-- **A sound state**: its records are of sound nodes, and the members that it remembers have known
types. -/
structure Pass.Sound (pass : Pass) : Prop where
  records : ∀ record ∈ pass.records, record.node.Sound
  members : pass.members.Known

/-- **Sound surroundings**: a sound scope, and options that let a diagnostic be kept. -/
structure Env.Sound (env : Env) : Prop where
  scope : env.scope.Sound
  limit : env.options.maxDiagnostics ≠ some 0

variable {α β : Type} {env : Env} {given : Prop}

/-- **Clean**: if the computation ends without diagnostics, then it began without any. In sound
surroundings and under the condition `given`, it then leads from sound states to sound states and
gives a value as described. -/
def Clean (env : Env) (given : Prop) (body : BindM α) (post : α → Prop) : Prop :=
  ∀ pass, (body env pass).2.diagnostics = [] → pass.diagnostics = [] ∧
    (env.Sound → given → pass.Sound → (body env pass).2.Sound ∧ post (body env pass).1)

namespace Clean

/-- **Sequence**: the rest may rely on what the first part gives. -/
theorem bind {body : BindM α} {rest : α → BindM β} {middle : α → Prop} {post : β → Prop}
    (hbody : Clean env given body middle)
    (hrest : ∀ value, Clean env (given ∧ middle value) (rest value) post) :
    Clean env given (body >>= rest) post := by
  intro pass hend
  obtain ⟨hmiddle, hrest⟩ := hrest _ _ hend
  obtain ⟨hstart, hbody⟩ := hbody pass hmiddle
  refine ⟨hstart, fun henv hgiven hpass => ?_⟩
  obtain ⟨hsound, hvalue⟩ := hbody henv hgiven hpass
  exact hrest henv ⟨hgiven, hvalue⟩ hsound

/-- A value reports nothing. -/
theorem pure {value : α} {post : α → Prop} (h : given → post value) :
    Clean env given (Pure.pure value) post :=
  fun _ hend => ⟨hend, fun _ hgiven hpass => ⟨hpass, h hgiven⟩⟩

/-- What is given and what comes out of it may be put in other words. -/
theorem mono {body : BindM α} {given' : Prop} {post post' : α → Prop} (h : Clean env given body post)
    (hgiven : given' → given) (hpost : ∀ value, given' → post value → post' value) :
    Clean env given' body post' := by
  intro pass hend
  obtain ⟨hstart, hbody⟩ := h pass hend
  refine ⟨hstart, fun henv hgiven' hpass => ?_⟩
  obtain ⟨hsound, hvalue⟩ := hbody henv (hgiven hgiven') hpass
  exact ⟨hsound, hpost _ hgiven' hvalue⟩

/-- The value may be described in other words. -/
theorem value {body : BindM α} {post post' : α → Prop} (h : Clean env given body post)
    (hpost : ∀ value, given → post value → post' value) : Clean env given body post' :=
  h.mono id hpost

/-! ## Steps -/

/-- The scope at hand is sound in sound surroundings. -/
theorem currentScope :
    Clean env given currentScope fun scope => scope = env.scope ∧ scope.Sound :=
  fun _ hend => ⟨hend, fun henv _ hpass => ⟨hpass, rfl, henv.scope⟩⟩

/-- Nothing is asked of the mode in which names are compared. -/
theorem caseSensitive : Clean env given caseSensitive fun _ => True :=
  fun _ hend => ⟨hend, fun _ _ hpass => ⟨hpass, trivial⟩⟩

/-- Working in another sound scope. -/
theorem within {scope : Scope} {body : BindM α} {post : α → Prop} (hscope : given → scope.Sound)
    (h : Clean { env with scope } given body post) : Clean env given (within scope body) post := by
  intro pass hend
  obtain ⟨hstart, hbody⟩ := h pass hend
  exact ⟨hstart, fun henv hgiven => hbody ⟨hscope hgiven, henv.limit⟩ hgiven⟩

/-- Taking identities. -/
theorem supply {taken : Supply α} {post : α → Prop} (h : given → taken.Gives post) :
    Clean env given (supply taken) post :=
  fun pass hend =>
    ⟨hend, fun _ hgiven hpass => ⟨⟨hpass.records, hpass.members⟩, h hgiven pass.next⟩⟩

/-- A sound link in front of a sound scope. -/
theorem child {scope : Scope} {frame : Frame} (hscope : given → scope.Sound)
    (hframe : given → frame.Sound) :
    Clean env given (Binding.supply (scope.child frame)) Scope.Sound :=
  supply fun hgiven _ => (hscope hgiven).push (hframe hgiven)

/-- A sound link in front of the scope at hand. -/
theorem childScope {frame : Frame} (hframe : given → frame.Sound) :
    Clean env given (childScope frame) Scope.Sound :=
  currentScope.bind fun _ => child (fun h => h.2.2) fun h => hframe h.1

/-- Recording a sound node. -/
theorem record {info : NodeInfo} {node : Bound.Node} (h : given → node.Sound) :
    Clean env given (record info node) fun _ => True :=
  fun _ hend => ⟨hend, fun _ hgiven hpass =>
    ⟨⟨List.forall_mem_cons.2 ⟨h hgiven, hpass.records⟩, hpass.members⟩, trivial⟩⟩

/-- Recording the scope at hand is clean. -/
theorem recordScope {info : NodeInfo} : Clean env given (recordScope info) fun _ => True :=
  fun _ hend => ⟨hend, fun _ _ hpass => ⟨⟨hpass.records, hpass.members⟩, trivial⟩⟩

/-- Recording a sound expression is clean. -/
theorem recordExpr {info : NodeInfo} {it : Bound.Expr} (h : given → it.Sound) :
    Clean env given (recordExpr info it) (·.Sound) :=
  (record h).bind fun _ => .pure fun hgiven => h hgiven.1

/-- Recording a sound table reference is clean. -/
theorem recordTable {info : NodeInfo} {it : Bound.TableRef} (h : given → it.Sound) :
    Clean env given (recordTable info it) (·.Sound) :=
  (record h).bind fun _ => .pure fun hgiven => h hgiven.1

/-- **A report** is kept, as the options let at least one diagnostic be kept. -/
theorem report (span : Span) (problem : Problem) :
    Clean env given (report span problem) fun _ => False := by
  intro pass hend
  unfold Binding.report at hend ⊢
  split at hend
  · simp at hend
  · rename_i hlimit
    refine ⟨hend, fun henv _ _ => absurd ?_ hlimit⟩
    change pass.diagnostics = [] at hend
    rw [hend]
    have hne := henv.limit
    cases hmax : env.options.maxDiagnostics with
    | none => rfl
    | some limit =>
      rw [hmax] at hne
      cases limit with
      | zero => exact absurd rfl hne
      | succ limit => simp

/-! ## Placeholders -/

/-- Making a symbol for what cannot be resolved reports nothing. -/
theorem badSymbol (name : String) : Clean env given (badSymbol name) fun _ => True :=
  (supply fun _ => .any).bind fun _ => .pure fun _ => trivial

/-- Making an expression for what cannot be resolved reports nothing. -/
theorem badName (name : String) : Clean env given (badName name) fun _ => True :=
  (badSymbol name).bind fun _ => .pure fun _ => trivial

/-- A placeholder is put only where something is missing. -/
theorem missingExpr {post : Bound.Expr → Prop} (h : ¬given) : Clean env given missingExpr post :=
  (badName "").value fun _ hgiven _ => absurd hgiven h

/-- Making an instance for what cannot be resolved reports nothing. -/
theorem badInstance (name : String) : Clean env given (badInstance name) fun _ => True :=
  (supply fun _ => .any).bind fun _ => .pure fun _ => trivial

/-- A table reference is never missing where one is given. -/
theorem missingTable {post : Bound.TableRef → Prop} (h : ¬given) :
    Clean env given missingTable post :=
  (badInstance "").bind fun _ => (supply fun _ => .any).bind fun _ =>
    .pure fun hgiven => absurd hgiven.1.1 h

/-- What cannot be resolved is never clean: the first report is kept. -/
theorem unresolved (span : Span) (problem : Problem) (name : String) :
    Clean env given (unresolved span problem name) fun _ => False :=
  (report span problem).bind fun _ => (badSymbol name).value fun _ hgiven _ => hgiven.2

/-! ## Members -/

/-- Methods that are asked for have known types. -/
theorem methodsOf (type : SqlType) :
    Clean env given (methodsOf type) fun found => ∀ it ∈ found, it.Known := by
  refine fun pass hend => ⟨hend, fun henv _ hpass => ?_⟩
  obtain ⟨hfound, hmembers⟩ :=
    hpass.members.askMethods henv.scope.catalog.methods type pass.next
  exact ⟨⟨hpass.records, hmembers⟩, hfound⟩

/-- Properties that are asked for have known types. -/
theorem propertiesOf (type : SqlType) :
    Clean env given (propertiesOf type) fun found => ∀ it ∈ found, it.Known := by
  refine fun pass hend => ⟨hend, fun henv _ hpass => ?_⟩
  obtain ⟨hfound, hmembers⟩ :=
    hpass.members.askProperties henv.scope.catalog.properties type pass.next
  exact ⟨⟨hpass.records, hmembers⟩, hfound⟩

end Clean

end Binding

end QuerySemantics
