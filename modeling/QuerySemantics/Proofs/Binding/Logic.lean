import QuerySemantics.Binding.Pass
import QuerySemantics.Proofs.Scope.Offered

/-!
# Reasoning about passes

What a computation of a pass ends with is shown part by part: a statement about a sequence follows
from statements about its members. Most rules of binding leave the log as it is, and for these the
value is all that matters.

## Main definitions

* `Binding.Ends`: a computation ends with a value and a state of a kind.
* `Supply.Advances`: a supply computation only takes identities.
* `Binding.Pass.Agrees`: two states with the same records and scopes.
* `Binding.Quiet`: a computation that leaves the log as it is and gives a value of a kind.

## Main results

* `Binding.Ends.bind`, `Binding.Quiet.bind`: the rules for sequences.
* `Binding.Quiet.report`, `Binding.Quiet.supply`, `Binding.Quiet.missingExpr` and fellows: the
  rules for the steps of a pass.
-/

set_option autoImplicit false

namespace QuerySemantics

/-! ## Supplies -/

/-- **Advancing**: a supply computation takes identities and gives none back. -/
def Supply.Advances {α : Type} (taken : Supply α) : Prop :=
  ∀ next, next ≤ (taken next).2

namespace Supply.Advances

variable {α β : Type}

/-- A value takes no identities. -/
theorem pure (value : α) : Advances (Pure.pure value : Supply α) :=
  fun _ => Nat.le_refl _

/-- A fresh identity is the next one. -/
theorem fresh : Advances Supply.fresh :=
  fun _ => Nat.le_succ _

/-- A sequence takes the identities of its parts. -/
theorem bind {first : Supply α} {rest : α → Supply β} (hfirst : Advances first)
    (hrest : ∀ value, Advances (rest value)) : Advances (first >>= rest) :=
  fun next => Nat.le_trans (hfirst next) (hrest _ _)

/-- What is taken for each member of a list is taken one after the other. -/
theorem mapM {step : α → Supply β} (hstep : ∀ it, Advances (step it)) (items : List α) :
    Advances (items.mapM step) := by
  induction items with
  | nil => exact .pure _
  | cons it rest ih =>
    rw [List.mapM_cons]
    exact (hstep it).bind fun _ => ih.bind fun _ => .pure _

/-! ### New symbols -/

/-- Listing columns takes identities. -/
theorem columns (ordinal : Nat) (shape : List (String × SqlType)) :
    Advances (Column.listFrom ordinal shape) := by
  induction shape generalizing ordinal with
  | nil => exact .pure _
  | cons entry rest ih => exact fresh.bind fun _ => (ih _).bind fun _ => .pure _

/-- Making a derived table takes identities. -/
theorem derivedTable (name : String) (shape : List (String × SqlType)) :
    Advances (DerivedTable.create name shape) :=
  fresh.bind fun _ => (columns 0 shape).bind fun _ => .pure _

/-- Making a common table takes identities. -/
theorem commonTable (name : String) (shape : List (String × SqlType)) (kind : Bound.NodeKind)
    (output : List QueryColumn) : Advances (CommonTable.create name shape kind output) :=
  fresh.bind fun _ => (columns 0 shape).bind fun _ => .pure _

/-- Making the columns of an instance takes identities. -/
theorem instanceColumns (name : String) (columns : List Column) :
    Advances (TableInstance.createColumns name columns) := by
  induction columns with
  | nil => exact .pure _
  | cons column rest ih =>
    exact fresh.bind fun _ => fresh.bind fun _ => ih.bind fun _ => .pure _

/-- Making an instance takes identities. -/
theorem tableInstance (name : String) (source : TableSource) :
    Advances (TableInstance.create name source) :=
  fresh.bind fun _ => (instanceColumns _ _).bind fun _ => .pure _

/-- Making an output column takes identities. -/
theorem queryColumn (name : String) (type : SqlType) : Advances (QueryColumn.create name type) :=
  fresh.bind fun _ => fresh.bind fun _ => .pure _

/-- Listing parameters takes identities. -/
theorem parameters (shape : List (String × SqlType)) : Advances (Parameter.list shape) := by
  induction shape with
  | nil => exact .pure _
  | cons entry rest ih => exact fresh.bind fun _ => ih.bind fun _ => .pure _

/-- A new link in front of a scope takes an identity. -/
theorem child (scope : Scope) (frame : Frame) : Advances (scope.child frame) :=
  fresh.bind fun _ => .pure _

/-! ### Members -/

/-- Providers of methods take identities for what they list. -/
theorem methods (registry : Registry MethodProvider) (type : SqlType) :
    Advances (registry.methods type) := by
  unfold Registry.methods MethodProvider.methods
  split
  · exact .pure _
  · exact mapM (fun _ => fresh.bind fun _ => (parameters _).bind fun _ => .pure _) _
  · exact fun _ => Nat.le_add_right _ _

/-- Providers of properties take identities for what they list. -/
theorem properties (registry : Registry PropertyProvider) (type : SqlType) :
    Advances (registry.properties type) := by
  unfold Registry.properties PropertyProvider.properties
  split
  · exact .pure _
  · exact mapM (fun _ => fresh.bind fun _ => .pure _) _
  · exact fun _ => Nat.le_add_right _ _

/-- Asking for methods takes identities, if it is the first time. -/
theorem askMethods (cache : MemberCache) (registry : Registry MethodProvider) (type : SqlType) :
    Advances (cache.askMethods registry type) := by
  unfold MemberCache.askMethods
  split
  · exact .pure _
  · exact (methods registry type).bind fun _ => .pure _

/-- Asking for properties takes identities, if it is the first time. -/
theorem askProperties (cache : MemberCache) (registry : Registry PropertyProvider)
    (type : SqlType) : Advances (cache.askProperties registry type) := by
  unfold MemberCache.askProperties
  split
  · exact .pure _
  · exact (properties registry type).bind fun _ => .pure _

end Supply.Advances

namespace Binding

variable {α β : Type} {env : Env}

/-! ## Ends of computations -/

/-- **Ends**: begun in the state `pass`, a computation ends with a value and a state as described. -/
def Ends (env : Env) (pass : Pass) (body : BindM α) (post : α → Pass → Prop) : Prop :=
  post (body env pass).1 (body env pass).2

namespace Ends

variable {pass : Pass}

/-- **Sequence**: what holds in the middle is what the rest begins with. -/
theorem bind {body : BindM α} {rest : α → BindM β} {middle : α → Pass → Prop}
    {post : β → Pass → Prop} (hbody : Ends env pass body middle)
    (hrest : ∀ value pass', middle value pass' → Ends env pass' (rest value) post) :
    Ends env pass (body >>= rest) post :=
  hrest _ _ hbody

/-- A value ends in the state at hand. -/
theorem pure {value : α} {post : α → Pass → Prop} (h : post value pass) :
    Ends env pass (Pure.pure value) post :=
  h

/-- What a computation ends in may be put in other words. -/
theorem mono {body : BindM α} {post post' : α → Pass → Prop} (h : Ends env pass body post)
    (himp : ∀ value pass', post value pass' → post' value pass') : Ends env pass body post' :=
  himp _ _ h

/-- Working in another scope. -/
theorem within {scope : Scope} {body : BindM α} {post : α → Pass → Prop}
    (h : Ends { env with scope } pass body post) : Ends env pass (within scope body) post :=
  h

end Ends

/-! ## Quiet computations -/

/-- **Agreement**: a state with the records and scopes of another, in which identities may have been
taken since. -/
structure Pass.Agrees (before after : Pass) : Prop where
  records : after.records = before.records
  scopes : after.scopes = before.scopes
  next : before.next ≤ after.next

/-- A state agrees with itself. -/
theorem Pass.Agrees.refl (pass : Pass) : pass.Agrees pass :=
  ⟨rfl, rfl, Nat.le_refl _⟩

/-- Agreement goes from state to state. -/
theorem Pass.Agrees.trans {first second third : Pass} (h₁ : first.Agrees second)
    (h₂ : second.Agrees third) : first.Agrees third :=
  ⟨h₂.records.trans h₁.records, h₂.scopes.trans h₁.scopes, Nat.le_trans h₁.next h₂.next⟩

/-- **Quiet**: a computation that leaves the log as it is, with a value as described. -/
def Quiet (env : Env) (body : BindM α) (post : α → Prop) : Prop :=
  ∀ pass, Ends env pass body fun value pass' => pass.Agrees pass' ∧ post value

namespace Quiet

/-- **Sequence** of quiet computations. -/
theorem bind {body : BindM α} {rest : α → BindM β} {middle : α → Prop} {post : β → Prop}
    (hbody : Quiet env body middle) (hrest : ∀ value, middle value → Quiet env (rest value) post) :
    Quiet env (body >>= rest) post := by
  intro pass
  refine (hbody pass).bind fun value pass' h => ?_
  exact (hrest value h.2 pass').mono fun _ _ h' => ⟨h.1.trans h'.1, h'.2⟩

/-- A value leaves the log as it is. -/
theorem pure {value : α} {post : α → Prop} (h : post value) : Quiet env (Pure.pure value) post :=
  fun pass => ⟨.refl pass, h⟩

/-- The value of a quiet computation may be put in other words. -/
theorem mono {body : BindM α} {post post' : α → Prop} (h : Quiet env body post)
    (himp : ∀ value, post value → post' value) : Quiet env body post' :=
  fun pass => (h pass).mono fun value _ hend => ⟨hend.1, himp value hend.2⟩

/-- Looking at the scope is quiet. -/
theorem currentScope : Quiet env currentScope (· = env.scope) :=
  fun pass => ⟨.refl pass, rfl⟩

/-- Looking at the mode in which names are compared is quiet. -/
theorem caseSensitive : Quiet env caseSensitive (· = env.options.caseSensitive) :=
  fun pass => ⟨.refl pass, rfl⟩

/-- Taking identities leaves the log as it is. -/
theorem supply {taken : Supply α} (h : taken.Advances) :
    Quiet env (Binding.supply taken) fun _ => True :=
  fun pass => ⟨⟨rfl, rfl, h pass.next⟩, trivial⟩

/-- A new link in front of a scope. -/
theorem child (scope : Scope) (frame : Frame) :
    Quiet env (Binding.supply (scope.child frame)) fun inner => ∃ id, inner = scope.push id frame :=
  fun pass => ⟨⟨rfl, rfl, Supply.Advances.child scope frame pass.next⟩, pass.next, rfl⟩

/-- A new link in front of the scope at hand is made quietly. -/
theorem childScope (frame : Frame) :
    Quiet env (childScope frame) fun scope => ∃ id, scope = env.scope.push id frame :=
  (child env.scope frame : Quiet env _ _)

/-- A report touches diagnostics only. -/
theorem report (span : Span) (problem : Problem) :
    Quiet env (report span problem) fun _ => True := by
  intro pass
  unfold Ends Binding.report
  split
  · exact ⟨⟨rfl, rfl, Nat.le_refl _⟩, trivial⟩
  · exact ⟨.refl pass, trivial⟩

/-- Asking for methods is quiet. -/
theorem methodsOf (type : SqlType) : Quiet env (methodsOf type) fun _ => True :=
  fun pass => ⟨⟨rfl, rfl, Supply.Advances.askMethods _ _ type pass.next⟩, trivial⟩

/-- Asking for properties is quiet. -/
theorem propertiesOf (type : SqlType) : Quiet env (propertiesOf type) fun _ => True :=
  fun pass => ⟨⟨rfl, rfl, Supply.Advances.askProperties _ _ type pass.next⟩, trivial⟩

/-- A placeholder is a bad symbol. -/
theorem badSymbol (name : String) :
    Quiet env (badSymbol name) fun symbol => ∃ id, symbol = .bad id name :=
  (supply .fresh).bind fun id _ => .pure ⟨id, rfl⟩

/-- A name that cannot be resolved refers to a symbol of its name. -/
theorem badName (name : String) :
    Quiet env (badName name) fun it => ∃ id, it = .name (.bad id name) :=
  (badSymbol name).bind fun _ ⟨id, h⟩ => .pure ⟨id, h ▸ rfl⟩

/-- A missing expression refers to a symbol without name. -/
theorem missingExpr : Quiet env missingExpr fun it => ∃ id, it = .name (.bad id "") :=
  badName ""

/-- A table that cannot be resolved has an instance of its name. -/
theorem badInstance (name : String) :
    Quiet env (badInstance name) fun source => ∃ id, source = .bad ⟨id, name⟩ :=
  (supply .fresh).bind fun id _ => .pure ⟨id, rfl⟩

end Quiet

end Binding

end QuerySemantics
