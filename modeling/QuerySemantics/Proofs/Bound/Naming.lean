import QuerySemantics.Proofs.Ast.Identifiers
import QuerySemantics.Proofs.Catalog.Cache
import QuerySemantics.Proofs.Scope.Naming

/-!
# What bound nodes are called

The symbol that a node refers to or declares is called as the identifiers of the node say, but for case.
Methods and properties are symbols of their own: they are found among the members that are remembered for
the type of the target.

## Main definitions

* `Token.Spells`: an identifier token stands for a name, but for case.
* `Piece.Calls`: what a piece is bound to is called as the piece says.
* `Bound.Expr.Plain`, `Bound.Expr.Called`: an expression that refers to no method and no property, and
  one that is called as an identifier says besides.
* `MemberCache.Backs`: the method or property that an expression refers to is remembered.

## Main results

* `MemberCache.Backs.mono`: what is remembered stays.
-/

set_option autoImplicit false

namespace QuerySemantics

open Ast

/-! ## Names -/

/-- **Spelling**: the token stands for the name, but for case. -/
def Token.Spells (token : Token) (name : String) : Prop :=
  Matching.equalIgnoringCase name token.ident = true

/-- A token spells the identifier that is read from it. -/
theorem Token.spells_ident (token : Token) : token.Spells token.ident :=
  Matching.equalIgnoringCase_refl _

/-- The identifier that says what an expression refers to. A property without target refers to nothing
that was named. -/
def Ast.Expr.ident? : Expr → Option Token
  | .name _ ident | .parameter _ ident | .property _ (some _) ident | .method _ _ ident _
  | .call _ ident _ | .countAll _ ident => ident
  | _ => none

/-- Whether a symbol is a member of a type. -/
def Symbol.isMember : Symbol → Bool
  | .method _ | .property _ => true
  | _ => false

namespace Bound.Expr

/-- **Spelled**: the symbol that the expression refers to is called as the identifier says. -/
def Spelled (bound : Expr) (ident : Option Token) : Prop :=
  ∀ symbol, bound.symbol? = some symbol → ∀ token, ident = some token → token.Spells symbol.name

/-- **Plain**: the expression refers to no member of a type. -/
def Plain (bound : Expr) : Prop :=
  ∀ symbol, bound.symbol? = some symbol → symbol.isMember = false

/-- An expression that refers to nothing is plain. -/
theorem plain_of_symbol? {bound : Expr} (h : bound.symbol? = none) : bound.Plain := by
  intro symbol hsymbol
  rw [h] at hsymbol
  cases hsymbol

/-- **Well called**: the expression refers to no member, and what it refers to is called as the
identifier says. -/
structure Called (bound : Expr) (ident : Option Token) : Prop where
  plain : bound.Plain
  spelled : bound.Spelled ident

namespace Called

variable {bound : Expr} {ident : Option Token}

/-- An expression that refers to nothing is well called. -/
theorem of_none (h : bound.symbol? = none) : bound.Called ident := by
  refine ⟨plain_of_symbol? h, fun symbol hsymbol => ?_⟩
  rw [h] at hsymbol
  cases hsymbol

/-- Without an identifier nothing is said about names. -/
theorem of_plain (h : bound.Plain) : bound.Called none :=
  ⟨h, fun _ _ _ htoken => nomatch htoken⟩

/-- An expression is well called if its symbol is. -/
theorem of_symbol {symbol : Symbol} {token : Token} (h : bound.symbol? = some symbol)
    (hmember : symbol.isMember = false) (hspells : token.Spells symbol.name) :
    bound.Called (some token) := by
  refine ⟨fun other hother => ?_, fun other hother leaf hleaf => ?_⟩
  · cases h.symm.trans hother
    exact hmember
  · cases h.symm.trans hother
    cases hleaf
    exact hspells

end Called

end Bound.Expr

/-- **Values are no members.** -/
theorem Scope.isMember_of_resolveValue {scope : Scope} {cased : Bool} {name : String} {symbol : Symbol}
    (h : scope.resolveValue cased name = .found symbol) : symbol.isMember = false := by
  obtain ⟨⟨id, frame⟩, -, hsymbol⟩ := exists_of_mem_nearest (mem_of_ofCandidates h)
  cases frame with
  | queryColumns columns =>
    obtain ⟨column, -, rfl⟩ := List.mem_map.1 hsymbol
    rfl
  | commonTables defined => cases hsymbol
  | tables instances =>
    simp only [Frame.valuesNamed] at hsymbol
    split at hsymbol
    · obtain ⟨table, -, rfl⟩ := List.mem_map.1 hsymbol
      rfl
    · obtain ⟨table, -, hsymbol⟩ := List.mem_flatMap.1 (Matching.mem_of_mem_select hsymbol)
      obtain ⟨column, -, rfl⟩ := List.mem_map.1 hsymbol
      rfl

/-- **Calling**: what a piece is bound to is called as the identifiers of the piece say, but for case. A
table goes by its alias, and a conversion refers to nothing. -/
def Piece.Calls : Piece → Bound.Node → Prop
  | .expr (.cast _ _ _), .expr bound => bound.symbol? = none
  | .expr it, .expr bound => bound.Spelled it.ident?
  | .table (.named _ ident correlation), .table (.named made) => ∀ leaf, ident = some leaf →
      made.name = (Binding.aliasName? correlation).getD leaf.ident ∧ leaf.Spells made.source.name
  | .table (.derived _ _ ident), .table (.derived made _) =>
    ∀ leaf, ident = some leaf → made.name = leaf.ident
  | .table (.joined _ _ _ _ _), .table (.joined _ _ _ _) => True
  | .selectItem (.column _ _ correlation), .selectItem (.column _ made) =>
    ∀ name, Binding.aliasName? correlation = some name → made.name = name
  | .selectItem (.wildcard _ ident), .selectItem (.wildcard qualifier _) =>
    ∀ leaf, ident = some leaf → ∀ it, qualifier = some it → leaf.Spells it.name
  | .commonTable (.mk _ ident _ _), .definition it =>
    ∀ leaf, ident = some leaf → it.symbol.name = leaf.ident
  | .query _, .query _ | .caseLabel _, .caseLabel _ => True
  | _, _ => False

/-! ## Members -/

/-- **Backing**: the property or method that an expression refers to is one of those that are remembered
for the type of its target. -/
structure MemberCache.Backs (cache : MemberCache) (bound : Bound.Expr) : Prop where
  property : ∀ it, bound.symbol? = some (.property it) → ∃ target found,
    bound = .property target (.property it) ∧ cache.properties? target.type = some found ∧ it ∈ found
  method : ∀ it, bound.symbol? = some (.method it) → ∃ target arguments found,
    bound = .method target (.method it) arguments ∧ cache.methods? target.type = some found ∧ it ∈ found

namespace MemberCache.Backs

variable {cache after : MemberCache} {bound : Bound.Expr}

/-- A plain expression needs no backing. -/
theorem of_plain (h : bound.Plain) : cache.Backs bound :=
  ⟨fun _ hsymbol => Bool.noConfusion (h _ hsymbol), fun _ hsymbol => Bool.noConfusion (h _ hsymbol)⟩

/-- **What is remembered stays.** -/
theorem mono (h : cache.Backs bound) (hle : cache.Extends after) : after.Backs bound where
  property it hsymbol := by
    obtain ⟨target, found, hbound, hfound, hit⟩ := h.property it hsymbol
    exact ⟨target, found, hbound, hle.properties? hfound, hit⟩
  method it hsymbol := by
    obtain ⟨target, arguments, found, hbound, hfound, hit⟩ := h.method it hsymbol
    exact ⟨target, arguments, found, hbound, hle.methods? hfound, hit⟩

end MemberCache.Backs

end QuerySemantics
