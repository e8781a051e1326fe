import Mathlib.Data.List.Forall2
import QuerySemantics.Binding.Call
import QuerySemantics.Binding.Expression
import QuerySemantics.Binding.Literal
import QuerySemantics.Proofs.Value.Known

/-!
# Steady catalogs

Types of one name are taken for the same type, whatever bases they list, and members are made anew
whenever a provider is asked. A catalog is steady if neither can be told from outside: the bases of its
host types depend on their names only, and its providers answer with the same names and types at each
call.

## Main definitions

* `SqlType.Settled`: a type that lists the bases that go with its name.
* `Method.Alike`, `Property.Alike`: members of the same names and types.
* `Catalog.Steady`: a catalog with settled types, whose providers always answer alike.
* `Catalog.Answered`: a cache that remembers what the providers answer.

## Main results

* `SqlType.Settled.eq_of_beq`: settled types of one name are the same.
* `Catalog.Steady.askMethods`, `Catalog.Steady.askProperties`: whatever the cache, the members of a type
  are alike.
-/

set_option autoImplicit false

namespace QuerySemantics

variable {bases : String → List String}

/-! ## Settled types -/

namespace SqlType

/-- **Settled**: a host type lists the bases that go with its name. -/
def Settled (bases : String → List String) : SqlType → Prop
  | .host type => type.bases = bases type.name
  | _ => True

/-- It can be decided whether a type is settled. -/
instance (bases : String → List String) (type : SqlType) : Decidable (type.Settled bases) :=
  decidable_of_iff (∀ host ∈ type.host?, host.bases = bases host.name) <| by
    cases type <;> simp [host?, Settled]

/-- **Settled types of one name are the same.** -/
theorem Settled.eq_of_beq {type other : SqlType} (htype : type.Settled bases)
    (hother : other.Settled bases) (h : (type == other) = true) : type = other := by
  cases type <;> cases other <;> first | rfl | cases h | skip
  rename_i host host'
  obtain ⟨name, own⟩ := host
  obtain ⟨name', own'⟩ := host'
  obtain rfl : name = name' := LawfulBEq.eq_of_beq h
  obtain rfl : own = bases name := htype
  obtain rfl : own' = bases name := hother
  rfl

/-- What is not a host type is settled. -/
theorem settled_of_host? {type : SqlType} (h : type.host? = none) : type.Settled bases := by
  cases type with
  | host type => cases h
  | _ => trivial

/-- A type that is promoted from none of a host is none of a host. -/
theorem host?_promote {type : SqlType} (h : type.host? = none) : type.promote.host? = none := by
  cases type <;> first | rfl | cases h

/-- Numbers are of no type of a host. -/
theorem host?_of_isNumeric {type : SqlType} (h : type.isNumeric = true) : type.host? = none := by
  cases type <;> first | rfl | cases h

/-- Integers are of no type of a host. -/
theorem host?_of_isInteger {type : SqlType} (h : type.isInteger = true) : type.host? = none := by
  cases type <;> first | rfl | cases h

/-- The common type of two types has what both have. -/
theorem of_common? {holds : SqlType → Prop} {left right type : SqlType} (hleft : holds left)
    (hright : holds right) (h : left.common? right = some type) : holds type := by
  rcases common?_eq h with rfl | rfl
  · exact hleft
  · exact hright

/-- A primitive type that a query can write is no host type. -/
theorem host?_of_ofName? {name : String} {type : SqlType} (h : ofName? name = some type) :
    type.host? = none := by
  obtain ⟨entry, hentry, rfl⟩ := Option.map_eq_some_iff.1 h
  have hmem : entry ∈ spellings := List.mem_of_find?_eq_some hentry
  have hall : (spellings.all fun entry => entry.1.host?.isNone) = true := by decide
  exact Option.isNone_iff_eq_none.1 (List.all_eq_true.1 hall entry hmem)

end SqlType

/-! ## Results of rules -/

/-- Unary operators do not give host types. -/
theorem UnaryOperator.host?_of_result? {operator : UnaryOperator} {operand type : SqlType}
    (h : operator.result? operand = some type) : type.host? = none := by
  unfold UnaryOperator.result? at h
  split at h
  case h_3 | h_7 | h_8 =>
    split at h <;> cases h
    first
    | exact SqlType.host?_promote (SqlType.host?_of_isInteger ‹_›)
    | exact SqlType.host?_promote (SqlType.host?_of_isNumeric ‹_›)
    | rfl
  all_goals
    cases h
    rfl

namespace BinaryOperator

/-- Arithmetic gives no type of a host. -/
theorem host?_of_arithmetic? {operator : BinaryOperator} {left right type : SqlType}
    (h : operator.arithmetic? left right = some type) : type.host? = none := by
  unfold arithmetic? at h
  split at h
  case h_4 =>
    split at h <;> cases h
    exact SqlType.host?_promote (SqlType.host?_of_isNumeric ‹_›)
  all_goals
    cases h
    try rfl

/-- Operators on bits give no type of a host. -/
theorem host?_of_bitwise? {left right type : SqlType} (h : bitwise? left right = some type) :
    type.host? = none := by
  unfold bitwise? at h
  split at h
  case h_4 =>
    split at h <;> cases h
    exact SqlType.host?_promote (SqlType.host?_of_isInteger ‹_›)
  all_goals
    cases h
    try rfl

/-- Operators on two values of one type give no type of a host. -/
theorem host?_of_both? {expected left right type : SqlType}
    (h : both? expected left right = some type) : type.host? = none := by
  unfold both? at h
  split at h <;> cases h
  rfl

/-- Binary operators do not give host types. -/
theorem host?_of_result? {operator : BinaryOperator} {left right type : SqlType}
    (h : operator.result? left right = some type) : type.host? = none := by
  unfold result? at h
  split at h
  · cases h
    split <;> rfl
  split at h
  all_goals
    first
    | exact host?_of_arithmetic? h
    | exact host?_of_bitwise? h
    | exact host?_of_both? h
    | obtain ⟨common, -, rfl⟩ := Option.map_eq_some_iff.1 h
      rfl
    | cases h
      rfl

end BinaryOperator

/-- An aggregate gives its declared type, or that of its argument, or no host type. -/
theorem AggregateSignature.of_returns? {holds : SqlType → Prop} {signature : AggregateSignature}
    {argument type : SqlType} (hplain : ∀ {type : SqlType}, type.host? = none → holds type)
    (hdeclared : holds signature.declared) (hargument : holds argument)
    (h : signature.returns? argument = some type) : holds type := by
  unfold returns? at h
  split at h
  · cases h
    exact hdeclared
  · split at h
    · cases h
      exact hplain rfl
    split at h <;> cases h
    exact hargument
  · cases h
    exact hargument
  · split at h <;> cases h
    exact hdeclared

/-- Literals do not have host types. -/
theorem Literal.host?_of_value? {token : Token} {value : Value} (h : Literal.value? token = some value) :
    value.type.host? = none := by
  have hint : ∀ {n : Int} {value : Value}, ofInt? n = some value → value.type.host? = none := by
    intro n value h
    unfold ofInt? at h
    split at h
    · cases h
      rfl
    split at h
    · cases h
      rfl
    split at h <;> cases h
    rfl
  have hnumber : ∀ {text : String} {value : Value}, number? text = some value →
      value.type.host? = none := by
    intro text value h
    unfold number? at h
    split at h
    · obtain ⟨float, -, rfl⟩ := Option.map_eq_some_iff.1 h
      rfl
    · obtain ⟨n, -, hn⟩ := Option.bind_eq_some_iff.1 h
      exact hint hn
  unfold value? at h
  split at h
  · exact hnumber h
  all_goals
    cases h
    try rfl

namespace Binding

/-- The type of several branches has what the types of all of them have. -/
theorem of_mergeFrom {holds : SqlType → Prop} {type result : SqlType} {branches : List SqlType}
    (htype : holds type) (hbranches : ∀ branch ∈ branches, holds branch)
    (h : mergeFrom type branches = .ok result) : holds result := by
  induction branches generalizing type with
  | nil =>
    cases h
    exact htype
  | cons branch rest ih =>
    rw [mergeFrom] at h
    split at h
    · rename_i common hcommon
      exact ih (SqlType.of_common? htype (hbranches branch List.mem_cons_self) hcommon)
        (fun branch hbranch => hbranches branch (List.mem_cons_of_mem _ hbranch)) h
    · cases h

/-- The type of a case has what those of its branches have, or it is no host type. -/
theorem of_mergeBranches {holds : SqlType → Prop} {branches : List SqlType} {result : SqlType}
    (hplain : ∀ {type : SqlType}, type.host? = none → holds type)
    (hbranches : ∀ branch ∈ branches, holds branch) (h : mergeBranches branches = .ok result) :
    holds result := by
  unfold mergeBranches at h
  split at h
  · cases h
    exact hplain rfl
  · rename_i first rest hfilter
    have hmem : ∀ branch ∈ first :: rest, holds branch := fun branch hbranch =>
      hbranches branch (List.mem_filter.1 (hfilter ▸ hbranch)).1
    exact of_mergeFrom (hmem first List.mem_cons_self)
      (fun branch hbranch => hmem branch (List.mem_cons_of_mem _ hbranch)) h

end Binding

/-! ## Alike members -/

/-- **Alike methods**: of the same names and types. -/
structure Method.Alike (it other : Method) : Prop where
  name : other.name = it.name
  host : other.host = it.host
  parameters : other.parameters.map (fun it => (it.name, it.type)) =
    it.parameters.map fun it => (it.name, it.type)
  returns : other.returns = it.returns

/-- **Alike properties**: of the same names and types. -/
structure Property.Alike (it other : Property) : Prop where
  name : other.name = it.name
  host : other.host = it.host
  type : other.type = it.type

/-- A method is like itself. -/
theorem Method.Alike.refl (it : Method) : it.Alike it :=
  ⟨rfl, rfl, rfl, rfl⟩

/-- A property is like itself. -/
theorem Property.Alike.refl (it : Property) : it.Alike it :=
  ⟨rfl, rfl, rfl⟩

/-- Likeness of methods goes both ways. -/
theorem Method.Alike.symm {it other : Method} (h : it.Alike other) : other.Alike it :=
  ⟨h.name.symm, h.host.symm, h.parameters.symm, h.returns.symm⟩

/-- Likeness of properties goes both ways. -/
theorem Property.Alike.symm {it other : Property} (h : it.Alike other) : other.Alike it :=
  ⟨h.name.symm, h.host.symm, h.type.symm⟩

/-- Likeness of methods goes from one to the next. -/
theorem Method.Alike.trans {a b c : Method} (h : a.Alike b) (h' : b.Alike c) : a.Alike c :=
  ⟨h'.name.trans h.name, h'.host.trans h.host, h'.parameters.trans h.parameters,
    h'.returns.trans h.returns⟩

/-- Likeness of properties goes from one to the next. -/
theorem Property.Alike.trans {a b c : Property} (h : a.Alike b) (h' : b.Alike c) : a.Alike c :=
  ⟨h'.name.trans h.name, h'.host.trans h.host, h'.type.trans h.type⟩

/-- Alike methods have parameters of the same types. -/
theorem Method.Alike.parameterTypes {it other : Method} (h : it.Alike other) :
    Binding.parameterTypes other.parameters = Binding.parameterTypes it.parameters := by
  have htypes := congrArg (List.map Prod.snd) h.parameters
  rwa [List.map_map, List.map_map] at htypes

/-- **Steady catalog**: the host types that it shows list the bases that go with their names, and its
providers answer with the same names and types at each call. -/
structure Catalog.Steady (catalog : Catalog) (bases : String → List String) : Prop where
  tables : ∀ table ∈ catalog.tables, ∀ column ∈ table.columns, column.type.Settled bases
  functions : ∀ it ∈ catalog.functions, it.returns.Settled bases
  aggregates : ∀ it ∈ catalog.aggregates, it.signature.declared.Settled bases
  hostVariables : ∀ it ∈ catalog.hostVariables, it.type.Settled bases
  hostTypes : ∀ it ∈ catalog.hostTypes, it.bases = bases it.name
  methods : ∀ type next next', List.Forall₂ Method.Alike (catalog.methods.methods type next).1
    (catalog.methods.methods type next').1
  properties : ∀ type next next', List.Forall₂ Property.Alike
    (catalog.properties.properties type next).1 (catalog.properties.properties type next').1
  methodTypes : ∀ type next, type.Settled bases → ∀ it ∈ (catalog.methods.methods type next).1,
    it.returns.Settled bases
  propertyTypes : ∀ type next, type.Settled bases →
    ∀ it ∈ (catalog.properties.properties type next).1, it.type.Settled bases

/-- **Answered**: what a cache remembers for a settled type is what the providers answer. -/
structure Catalog.Answered (catalog : Catalog) (bases : String → List String) (cache : MemberCache) :
    Prop where
  methods : ∀ type, type.Settled bases → ∀ found, cache.methods? type = some found →
    List.Forall₂ Method.Alike (catalog.methods.methods type 0).1 found
  properties : ∀ type, type.Settled bases → ∀ found, cache.properties? type = some found →
    List.Forall₂ Property.Alike (catalog.properties.properties type 0).1 found

/-- A provider that serves a type is one of those that are registered. -/
theorem Registry.getD_lookup? {member shape : Type} (registry : Registry (Provider member shape))
    (type : SqlType) : (registry.lookup? type).getD .nothing = .nothing ∨
      (registry.lookup? type).getD .nothing ∈ registry.entries.map Prod.snd := by
  cases hfound : registry.lookup? type with
  | none => exact .inl rfl
  | some it =>
    obtain ⟨candidate, -, hget⟩ := List.exists_of_findSome?_eq_some hfound
    obtain ⟨entry, hentry, rfl⟩ := Option.map_eq_some_iff.1 hget
    exact .inr (List.mem_map_of_mem (List.mem_of_find?_eq_some hentry))

namespace Catalog

variable {catalog : Catalog}

/-- A cache without answers. -/
theorem answered_empty (catalog : Catalog) (bases : String → List String) :
    catalog.Answered bases .empty :=
  ⟨fun _ _ _ h => (Option.some_ne_none _ h.symm).elim,
    fun _ _ _ h => (Option.some_ne_none _ h.symm).elim⟩

/-- What is remembered behind other answers. -/
theorem find?_append_singleton {α : Type} {answers : List (SqlType × α)} {type asked : SqlType}
    {answer found : α}
    (h : ((answers ++ [(asked, answer)]).find? (·.1 == type)).map Prod.snd = some found) :
    (answers.find? (·.1 == type)).map Prod.snd = some found ∨ (asked == type) = true ∧ found = answer := by
  rw [List.find?_append] at h
  cases hfirst : answers.find? (·.1 == type) with
  | some entry =>
    rw [hfirst] at h
    exact .inl h
  | none =>
    rw [hfirst, Option.none_or] at h
    cases heq : asked == type
    · simp [heq] at h
    · simp only [List.find?_cons, heq, Option.map_some, Option.some.injEq] at h
      exact .inr ⟨rfl, h.symm⟩

/-- **Asking for methods**: whatever is remembered, the answer is alike, and it is remembered. -/
theorem Steady.askMethods (h : catalog.Steady bases) {cache : MemberCache}
    (hcache : catalog.Answered bases cache) {type : SqlType} (htype : type.Settled bases)
    (next : SymbolId) :
    List.Forall₂ Method.Alike (catalog.methods.methods type 0).1
        (cache.askMethods catalog.methods type next).1.1 ∧
      catalog.Answered bases (cache.askMethods catalog.methods type next).1.2 := by
  unfold MemberCache.askMethods
  cases hfound : cache.methods? type with
  | some found => exact ⟨hcache.methods type htype found hfound, hcache⟩
  | none =>
    refine ⟨h.methods type 0 next, fun other hother found hremembered => ?_, hcache.properties⟩
    rcases find?_append_singleton hremembered with hremembered | ⟨heq, rfl⟩
    · exact hcache.methods other hother found hremembered
    · obtain rfl := htype.eq_of_beq hother heq
      exact h.methods type 0 next

/-- **Asking for properties**: whatever is remembered, the answer is alike, and it is remembered. -/
theorem Steady.askProperties (h : catalog.Steady bases) {cache : MemberCache}
    (hcache : catalog.Answered bases cache) {type : SqlType} (htype : type.Settled bases)
    (next : SymbolId) :
    List.Forall₂ Property.Alike (catalog.properties.properties type 0).1
        (cache.askProperties catalog.properties type next).1.1 ∧
      catalog.Answered bases (cache.askProperties catalog.properties type next).1.2 := by
  unfold MemberCache.askProperties
  cases hfound : cache.properties? type with
  | some found => exact ⟨hcache.properties type htype found hfound, hcache⟩
  | none =>
    refine ⟨h.properties type 0 next, hcache.methods, fun other hother found hremembered => ?_⟩
    rcases find?_append_singleton hremembered with hremembered | ⟨heq, rfl⟩
    · exact hcache.properties other hother found hremembered
    · obtain rfl := htype.eq_of_beq hother heq
      exact h.properties type 0 next

end Catalog

end QuerySemantics
