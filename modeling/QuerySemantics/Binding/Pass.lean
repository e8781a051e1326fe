import QuerySemantics.Bound.Basic
import QuerySemantics.Diagnostic.Basic
import QuerySemantics.Scope.Basic
import QuerySemantics.Tree.Located

/-!
# The state of a binding pass

Binding walks through a query once. Whatever it finds out it adds to a log: what each node was bound
to, the scopes that nodes enter, and diagnostics. It never stops at an error. The scope in which it
works, and its options, are given from outside and never change on the way.

## Main definitions

* `Binding.Options`: how names are compared, and how many diagnostics are kept.
* `Binding.Record`: one entry of the log, a node and what it was bound to.
* `Binding.Pass`, `Binding.BindM`: the log, and computations that add to it.
* `Binding.record`, `Binding.recordScope`, `Binding.report`: adding to the log.
-/

set_option autoImplicit false

namespace QuerySemantics

namespace Binding

/-! ## Options and state -/

/-- **Options** of a pass. Without a limit all diagnostics are kept. -/
structure Options where
  caseSensitive : Bool := false
  maxDiagnostics : Option Nat := none
deriving DecidableEq, Repr, Inhabited

/-- **Record**: what a node was bound to, and the scope in which that happened. -/
structure Record where
  info : NodeInfo
  node : Bound.Node
  scope : Scope

/-- **Pass**: the log of a pass, the latest records and scopes first and the earliest diagnostics
first, with the next free identity and the members that were asked for. -/
structure Pass where
  next : SymbolId
  records : List Record
  scopes : List (NodeInfo × Scope)
  diagnostics : List Diagnostic
  members : MemberCache
deriving Inhabited

/-- What a computation of a pass may look at but not change. -/
structure Env where
  options : Options
  scope : Scope

/-- **Binding computation**: works in a scope and adds to the log. -/
abbrev BindM := ReaderT Env (StateM Pass)

/-- The state at the start of a pass. -/
def Pass.start (next : SymbolId) : Pass :=
  ⟨next, [], [], [], .empty⟩

/-! ## Scopes and identities -/

/-- The scope at hand. -/
def currentScope : BindM Scope :=
  fun env pass => (env.scope, pass)

/-- Whether names have to agree in case. -/
def caseSensitive : BindM Bool :=
  fun env pass => (env.options.caseSensitive, pass)

/-- Works in another scope. -/
def within {α : Type} (scope : Scope) (body : BindM α) : BindM α :=
  fun env pass => body { env with scope } pass

/-- Takes identities from the supply of the pass. -/
def supply {α : Type} (taken : Supply α) : BindM α :=
  fun _ pass =>
    let (result, next) := taken pass.next
    (result, { pass with next })

/-- A new scope inside the one at hand. -/
def childScope (frame : Frame) : BindM Scope := do
  supply ((← currentScope).child frame)

/-! ## The log -/

/-- **Records** what a node was bound to. -/
def record (info : NodeInfo) (node : Bound.Node) : BindM Unit :=
  fun env pass => ((), { pass with records := ⟨info, node, env.scope⟩ :: pass.records })

/-- **Records the scope** at hand as the one that a node enters. -/
def recordScope (info : NodeInfo) : BindM Unit :=
  fun env pass => ((), { pass with scopes := (info, env.scope) :: pass.scopes })

/-- **Reports** a problem, unless as many diagnostics as the options allow are there already. -/
def report (span : Span) (problem : Problem) : BindM Unit :=
  fun env pass =>
    if env.options.maxDiagnostics.all (pass.diagnostics.length < ·) then
      ((), { pass with diagnostics := pass.diagnostics ++ [⟨span, problem⟩] })
    else ((), pass)

/-- Records what an expression was bound to. -/
def recordExpr (info : NodeInfo) (it : Bound.Expr) : BindM Bound.Expr := do
  record info (.expr it)
  return it

/-- Records what a table reference was bound to. -/
def recordTable (info : NodeInfo) (it : Bound.TableRef) : BindM Bound.TableRef := do
  record info (.table it)
  return it

/-! ## Members -/

/-- The methods of a type. -/
def methodsOf (type : SqlType) : BindM (List Method) := do
  let scope ← currentScope
  fun _ pass =>
    let ((found, members), next) :=
      pass.members.askMethods scope.catalog.methods type pass.next
    (found, { pass with next, members })

/-- The properties of a type. -/
def propertiesOf (type : SqlType) : BindM (List Property) := do
  let scope ← currentScope
  fun _ pass =>
    let ((found, members), next) :=
      pass.members.askProperties scope.catalog.properties type pass.next
    (found, { pass with next, members })

/-! ## Placeholders -/

/-- A symbol for a name that does not resolve. -/
def badSymbol (name : String) : BindM Symbol := do
  return .bad (← supply Supply.fresh) name

/-- A reference to a name that does not resolve. -/
def badName (name : String) : BindM Bound.Expr := do
  return .name (← badSymbol name)

/-- **Missing expression**: what stands for an expression that is not there. -/
def missingExpr : BindM Bound.Expr :=
  badName ""

/-- An instance of a table that is not there. -/
def badInstance (table : String) : BindM TableSource := do
  return .bad ⟨← supply Supply.fresh, table⟩

/-- **Missing table**: what stands for a table reference that is not there. -/
def missingTable : BindM Bound.TableRef := do
  let source ← badInstance ""
  return .named (← supply (TableInstance.create "" source))

end Binding

end QuerySemantics
