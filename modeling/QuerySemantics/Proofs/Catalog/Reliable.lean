import QuerySemantics.Proofs.Ast.AlikeReading
import QuerySemantics.Proofs.Catalog.Steady
import QuerySemantics.Proofs.Scope.Twin

/-!
# Reliable catalogs

A provider that is asked for the members of a type makes them anew, with identities of their own. It is
reliable if it gives them the same names and types whichever identities are free. Two passes that ask for
the same types one after the other then remember alike members, even where types of one name are taken for
each other.

## Main definitions

* `Catalog.Reliable`: a catalog whose providers always answer alike.
* `MemberCache.Alike`: caches that remember alike members of the same types.

## Main results

* `Catalog.Reliable.askMethods`, `Catalog.Reliable.askProperties`: alike caches give alike answers, and
  stay alike.
* `Catalog.Reliable.methods_twin`, `Catalog.Reliable.properties_twin`: the answers are twins.
-/

set_option autoImplicit false

namespace QuerySemantics

/-- **Reliable**: the providers answer with the same names and types at each call. -/
structure Catalog.Reliable (catalog : Catalog) : Prop where
  methods : ∀ type next next', List.Forall₂ Method.Alike (catalog.methods.methods type next).1
    (catalog.methods.methods type next').1
  properties : ∀ type next next', List.Forall₂ Property.Alike
    (catalog.properties.properties type next).1 (catalog.properties.properties type next').1

/-- Steady catalogs are reliable. -/
theorem Catalog.Steady.reliable {catalog : Catalog} {bases : String → List String}
    (h : catalog.Steady bases) : catalog.Reliable :=
  ⟨h.methods, h.properties⟩

/-! ## Alike caches -/

/-- **Alike caches** remember alike members of the same types, in the same order. -/
structure MemberCache.Alike (cache cache' : MemberCache) : Prop where
  methods : List.Forall₂ (fun entry entry' => entry'.1 = entry.1 ∧
    List.Forall₂ Method.Alike entry.2 entry'.2) cache.methods cache'.methods
  properties : List.Forall₂ (fun entry entry' => entry'.1 = entry.1 ∧
    List.Forall₂ Property.Alike entry.2 entry'.2) cache.properties cache'.properties

namespace MemberCache

/-- Caches that remember nothing. -/
theorem alike_empty : empty.Alike empty :=
  ⟨.nil, .nil⟩

/-- What is remembered for a type, in lists that remember related answers. -/
theorem find?_alike {α : Type} {related : α → α → Prop} {answers answers' : List (SqlType × α)}
    (h : List.Forall₂ (fun entry entry' => entry'.1 = entry.1 ∧ related entry.2 entry'.2) answers
      answers') (type : SqlType) :
    Option.Rel related ((answers.find? (·.1 == type)).map (·.2))
      ((answers'.find? (·.1 == type)).map (·.2)) := by
  have hfound : Option.Rel _ (answers.find? (·.1 == type)) (answers'.find? (·.1 == type)) :=
    h.find? fun entry entry' hentry => by rw [hentry.1]
  exact hfound.map fun _ _ hentry => hentry.2

end MemberCache

namespace Catalog.Reliable

variable {catalog : Catalog} {cache cache' : MemberCache}

/-- **Asking for methods** in alike caches. -/
theorem askMethods (h : catalog.Reliable) (hcache : cache.Alike cache') (type : SqlType)
    (next next' : SymbolId) :
    List.Forall₂ Method.Alike (cache.askMethods catalog.methods type next).1.1
        (cache'.askMethods catalog.methods type next').1.1 ∧
      (cache.askMethods catalog.methods type next).1.2.Alike
        (cache'.askMethods catalog.methods type next').1.2 := by
  have hfound : Option.Rel (List.Forall₂ Method.Alike) (cache.methods? type) (cache'.methods? type) :=
    MemberCache.find?_alike hcache.methods type
  unfold MemberCache.askMethods
  revert hfound
  generalize cache.methods? type = found
  generalize cache'.methods? type = found'
  intro hfound
  cases hfound with
  | some hfound => exact ⟨hfound, hcache⟩
  | none =>
    have hanswer := h.methods type next next'
    exact ⟨hanswer, List.rel_append hcache.methods (.cons ⟨rfl, hanswer⟩ .nil), hcache.properties⟩

/-- **Asking for properties** in alike caches. -/
theorem askProperties (h : catalog.Reliable) (hcache : cache.Alike cache') (type : SqlType)
    (next next' : SymbolId) :
    List.Forall₂ Property.Alike (cache.askProperties catalog.properties type next).1.1
        (cache'.askProperties catalog.properties type next').1.1 ∧
      (cache.askProperties catalog.properties type next).1.2.Alike
        (cache'.askProperties catalog.properties type next').1.2 := by
  have hfound : Option.Rel (List.Forall₂ Property.Alike) (cache.properties? type)
      (cache'.properties? type) := MemberCache.find?_alike hcache.properties type
  unfold MemberCache.askProperties
  revert hfound
  generalize cache.properties? type = found
  generalize cache'.properties? type = found'
  intro hfound
  cases hfound with
  | some hfound => exact ⟨hfound, hcache⟩
  | none =>
    have hanswer := h.properties type next next'
    exact ⟨hanswer, hcache.methods, List.rel_append hcache.properties (.cons ⟨rfl, hanswer⟩ .nil)⟩

/-- **The methods that alike caches answer with are twins**, and the caches stay alike. -/
theorem methods_twin (h : catalog.Reliable) (pairing : Pairing) (hcache : cache.Alike cache')
    (type : SqlType) (next next' : SymbolId) :
    Twin catalog.anyTyped pairing (cache.askMethods catalog.methods type next).1.1
        (cache'.askMethods catalog.methods type next').1.1 ∧
      (cache.askMethods catalog.methods type next).1.2.Alike
        (cache'.askMethods catalog.methods type next').1.2 :=
  have hasked := h.askMethods hcache type next next'
  ⟨hasked.1.imp fun _ _ halike => ⟨halike, trivial⟩, hasked.2⟩

/-- **The properties that alike caches answer with are twins**, and the caches stay alike. -/
theorem properties_twin (h : catalog.Reliable) (pairing : Pairing) (hcache : cache.Alike cache')
    (type : SqlType) (next next' : SymbolId) :
    Twin catalog.anyTyped pairing (cache.askProperties catalog.properties type next).1.1
        (cache'.askProperties catalog.properties type next').1.1 ∧
      (cache.askProperties catalog.properties type next).1.2.Alike
        (cache'.askProperties catalog.properties type next').1.2 :=
  have hasked := h.askProperties hcache type next next'
  ⟨hasked.1.imp fun _ _ halike => ⟨halike, trivial⟩, hasked.2⟩

end Catalog.Reliable

end QuerySemantics
