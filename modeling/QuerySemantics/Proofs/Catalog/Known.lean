import QuerySemantics.Catalog.Basic
import QuerySemantics.Proofs.Value.Known

/-!
# Catalogs with known types

A catalog that declares known types only answers every question with them: the types that names
denote, the results of aggregates, and the members of types, however their providers make them up.

## Main definitions

* `AggregateSignature.Known`, `Method.Known`, `Provider.Known`: declarations with known types only.
* `Catalog.Known`: every type that a catalog declares is known.
* `Supply.Gives`: what a supply computation gives, whatever identities it takes.
* `MemberCache.Known`: the members that a cache remembers have known types.

## Main results

* `Registry.methods_known`, `Registry.properties_known`: the members of a type have known types.
* `MemberCache.Known.askMethods`, `MemberCache.Known.askProperties`: asking a cache keeps it known.
-/

set_option autoImplicit false

namespace QuerySemantics

/-! ## Declarations -/

/-- An aggregate with a fixed result has one of a known type, for arguments of a known type. -/
def AggregateSignature.Known : AggregateSignature → Prop
  | .any returns => returns.Known
  | .fixed parameter returns => parameter.Known ∧ returns.Known
  | .numeric | .sameAsArgument => True

/-- It can be decided whether the type of an aggregate is known. -/
instance AggregateSignature.Known.decidable : DecidablePred AggregateSignature.Known
  | .any returns => inferInstanceAs (Decidable returns.Known)
  | .fixed parameter returns => inferInstanceAs (Decidable (parameter.Known ∧ returns.Known))
  | .numeric | .sameAsArgument => inferInstanceAs (Decidable True)

/-- The result of an aggregate for an argument of a known type has a known type. -/
theorem AggregateSignature.Known.returns {signature : AggregateSignature} {argument type : SqlType}
    (h : signature.Known) (hargument : argument.Known)
    (hreturns : signature.returns? argument = some type) : type.Known := by
  cases signature with
  | any returns =>
    cases hreturns
    exact h
  | numeric =>
    rw [returns?, if_neg (by simp [SqlType.isUnknown_eq_false_iff.2 hargument])] at hreturns
    split at hreturns <;> cases hreturns
    exact hargument
  | sameAsArgument =>
    cases hreturns
    exact hargument
  | fixed parameter returns =>
    rw [returns?] at hreturns
    split at hreturns <;> cases hreturns
    exact h.2

/-- A function with known types. -/
def Function.Known (it : Function) : Prop :=
  it.returns.Known ∧ ∀ parameter ∈ it.parameters, parameter.type.Known

/-- A method with known types. -/
def Method.Known (it : Method) : Prop :=
  it.returns.Known ∧ ∀ parameter ∈ it.parameters, parameter.type.Known

/-- A property with a known type. -/
def Property.Known (it : Property) : Prop :=
  it.type.Known

/-- A method to be made with known types. -/
def MethodShape.Known (shape : MethodShape) : Prop :=
  shape.returns.Known ∧ ∀ parameter ∈ shape.parameters, parameter.2.Known

/-- A property to be made with a known type. -/
def PropertyShape.Known (shape : PropertyShape) : Prop :=
  shape.type.Known

/-- **A provider with known types**: all members that it can come to give are as described, or are
made from such shapes. -/
def Provider.Known {member shape : Type} (memberKnown : member → Prop) (shapeKnown : shape → Prop) :
    Provider member shape → Prop
  | .fixed members => ∀ it ∈ members, memberKnown it
  | .fresh shapes => ∀ it ∈ shapes, shapeKnown it
  | .answering answer => ∀ type next, ∀ it ∈ (answer type next).1, memberKnown it

/-- **A catalog with known types**: none of its columns, parameters, results, variables, aggregates
and members is of an unknown type. -/
structure Catalog.Known (catalog : Catalog) : Prop where
  tables : ∀ table ∈ catalog.tables, ∀ column ∈ table.columns, column.type.Known
  functions : ∀ it ∈ catalog.functions, it.Known
  aggregates : ∀ it ∈ catalog.aggregates, it.signature.Known
  hostVariables : ∀ it ∈ catalog.hostVariables, it.type.Known
  methods : ∀ entry ∈ catalog.methods.entries, entry.2.Known Method.Known MethodShape.Known
  properties : ∀ entry ∈ catalog.properties.entries,
    entry.2.Known Property.Known PropertyShape.Known

/-- **A type name** denotes a known type. -/
theorem Catalog.known_of_resolveType? {catalog : Catalog} {name : String} {type : SqlType}
    (h : catalog.resolveType? name = some type) : type.Known := by
  unfold resolveType? at h
  split at h
  · rename_i found hfound
    cases h
    exact SqlType.known_of_ofName? hfound
  · obtain ⟨host, -, rfl⟩ := Option.map_eq_some_iff.1 h
    intro hunknown
    cases hunknown

/-! ## Supplies and members -/

/-- **Giving**: whatever identities it takes, a supply computation gives a value as described. -/
def Supply.Gives {α : Type} (taken : Supply α) (post : α → Prop) : Prop :=
  ∀ next, post (taken next).1

namespace Supply.Gives

variable {α β : Type}

/-- A value is given as it is. -/
theorem pure {value : α} {post : α → Prop} (h : post value) :
    Gives (Pure.pure value : Supply α) post :=
  fun _ => h

/-- What is given in a sequence is what the last part gives. -/
theorem bind {first : Supply α} {rest : α → Supply β} {middle : α → Prop} {post : β → Prop}
    (hfirst : Gives first middle) (hrest : ∀ value, middle value → Gives (rest value) post) :
    Gives (first >>= rest) post :=
  fun next => hrest _ (hfirst next) _

/-- A value of which nothing is asked. -/
theorem any {taken : Supply α} : Gives taken fun _ => True :=
  fun _ => trivial

/-- What is made of each item is described item by item. -/
theorem mapM {step : α → Supply β} {post : β → Prop} {items : List α}
    (hstep : ∀ it ∈ items, Gives (step it) post) :
    Gives (items.mapM step) fun made => ∀ it ∈ made, post it := by
  induction items with
  | nil => exact .pure (by simp)
  | cons it rest ih =>
    rw [List.mapM_cons]
    have hrest := ih fun other hother => hstep other (List.mem_cons_of_mem _ hother)
    refine (hstep it List.mem_cons_self).bind fun first hfirst => hrest.bind fun made hmade => ?_
    refine .pure fun other hother => ?_
    rcases List.mem_cons.1 hother with rfl | hother
    · exact hfirst
    · exact hmade other hother

/-- New parameters have the types that are given. -/
theorem parameters {shape : List (String × SqlType)} (h : ∀ entry ∈ shape, entry.2.Known) :
    Gives (Parameter.list shape) fun made => ∀ it ∈ made, it.type.Known := by
  induction shape with
  | nil => exact .pure (by simp)
  | cons entry rest ih =>
    have hrest := ih fun other hother => h other (List.mem_cons_of_mem _ hother)
    refine any.bind fun id _ => hrest.bind fun made hmade => .pure fun it hit => ?_
    rcases List.mem_cons.1 hit with rfl | hit
    · exact h entry List.mem_cons_self
    · exact hmade it hit

/-- A method is made with the types of its shape. -/
theorem method {host : SqlType} {shape : MethodShape} (h : shape.Known) :
    Gives (Method.create host shape.name shape.parameters shape.returns) Method.Known :=
  any.bind fun _ _ => (parameters h.2).bind fun _ hmade => .pure ⟨h.1, hmade⟩

/-- A property is made with the type of its shape. -/
theorem property {host : SqlType} {shape : PropertyShape} (h : shape.Known) :
    Gives (Property.create host shape.name shape.type) Property.Known :=
  any.bind fun _ _ => .pure h

end Supply.Gives

/-- The provider that a registry finds is one of its entries. -/
theorem Registry.exists_of_lookup? {provider : Type} {registry : Registry provider} {type : SqlType}
    {it : provider} (h : registry.lookup? type = some it) :
    ∃ entry ∈ registry.entries, entry.2 = it := by
  obtain ⟨candidate, -, hget⟩ := List.exists_of_findSome?_eq_some h
  obtain ⟨entry, hentry, rfl⟩ := Option.map_eq_some_iff.1 hget
  exact ⟨entry, List.mem_of_find?_eq_some hentry, rfl⟩

/-- **Methods of a type** are known where their providers are. -/
theorem Registry.methods_known {registry : Registry MethodProvider}
    (h : ∀ entry ∈ registry.entries, entry.2.Known Method.Known MethodShape.Known) (type : SqlType) :
    (registry.methods type).Gives fun found => ∀ it ∈ found, it.Known := by
  unfold Registry.methods
  cases hlookup : registry.lookup? type with
  | none => exact .pure (by simp)
  | some provider =>
    obtain ⟨entry, hentry, rfl⟩ := exists_of_lookup? hlookup
    have hknown := h entry hentry
    rw [Option.getD_some]
    unfold MethodProvider.methods
    split <;> rename_i hprovider <;> rw [hprovider] at hknown
    · exact .pure hknown
    · exact .mapM fun shape hshape => .method (hknown shape hshape)
    · exact fun next => hknown type next

/-- **Properties of a type** are known where their providers are. -/
theorem Registry.properties_known {registry : Registry PropertyProvider}
    (h : ∀ entry ∈ registry.entries, entry.2.Known Property.Known PropertyShape.Known)
    (type : SqlType) :
    (registry.properties type).Gives fun found => ∀ it ∈ found, it.Known := by
  unfold Registry.properties
  cases hlookup : registry.lookup? type with
  | none => exact .pure (by simp)
  | some provider =>
    obtain ⟨entry, hentry, rfl⟩ := exists_of_lookup? hlookup
    have hknown := h entry hentry
    rw [Option.getD_some]
    unfold PropertyProvider.properties
    split <;> rename_i hprovider <;> rw [hprovider] at hknown
    · exact .pure hknown
    · exact .mapM fun shape hshape => .property (hknown shape hshape)
    · exact fun next => hknown type next

namespace MemberCache

/-- **A cache with known types**: the members that it remembers are known. -/
structure Known (cache : MemberCache) : Prop where
  methods : ∀ entry ∈ cache.methods, ∀ it ∈ entry.2, it.Known
  properties : ∀ entry ∈ cache.properties, ∀ it ∈ entry.2, it.Known

/-- Nothing is remembered at first. -/
theorem Known.empty : MemberCache.empty.Known :=
  ⟨by simp [MemberCache.empty], by simp [MemberCache.empty]⟩

/-- **Asking for methods** gives known ones and remembers them. -/
theorem Known.askMethods {cache : MemberCache} {registry : Registry MethodProvider}
    (hcache : cache.Known)
    (h : ∀ entry ∈ registry.entries, entry.2.Known Method.Known MethodShape.Known) (type : SqlType) :
    (cache.askMethods registry type).Gives fun (found, cache) =>
      (∀ it ∈ found, it.Known) ∧ cache.Known := by
  unfold MemberCache.askMethods
  split
  · rename_i found hfound
    obtain ⟨entry, hentry, rfl⟩ := Option.map_eq_some_iff.1 hfound
    exact .pure ⟨hcache.methods entry (List.mem_of_find?_eq_some hentry), hcache⟩
  · refine (Registry.methods_known h type).bind fun found hfound => .pure ⟨hfound, ?_, ?_⟩
    · intro entry hentry
      rcases List.mem_append.1 hentry with hentry | hentry
      · exact hcache.methods entry hentry
      · rwa [List.mem_singleton.1 hentry]
    · exact hcache.properties

/-- **Asking for properties** gives known ones and remembers them. -/
theorem Known.askProperties {cache : MemberCache} {registry : Registry PropertyProvider}
    (hcache : cache.Known)
    (h : ∀ entry ∈ registry.entries, entry.2.Known Property.Known PropertyShape.Known)
    (type : SqlType) :
    (cache.askProperties registry type).Gives fun (found, cache) =>
      (∀ it ∈ found, it.Known) ∧ cache.Known := by
  unfold MemberCache.askProperties
  split
  · rename_i found hfound
    obtain ⟨entry, hentry, rfl⟩ := Option.map_eq_some_iff.1 hfound
    exact .pure ⟨hcache.properties entry (List.mem_of_find?_eq_some hentry), hcache⟩
  · refine (Registry.properties_known h type).bind fun found hfound => .pure ⟨hfound, ?_, ?_⟩
    · exact hcache.methods
    · intro entry hentry
      rcases List.mem_append.1 hentry with hentry | hentry
      · exact hcache.properties entry hentry
      · rwa [List.mem_singleton.1 hentry]

end MemberCache

end QuerySemantics
