import QuerySemantics.Catalog.Symbol

/-!
# Members of types

Methods and properties are not part of a catalog's lists. A provider is registered for a type and is
asked for the members of a type when a query needs them. A provider gives the same members each
time, makes new ones whenever it is asked, or answers as it likes.

## Main definitions

* `Provider`, `MethodProvider`, `PropertyProvider`: where members come from.
* `Registry`, `Registry.register`, `Registry.lookup?`: providers by type.
* `MemberCache`: the members that were found so far, by type.
-/

set_option autoImplicit false

namespace QuerySemantics

/-! ## Providers -/

/-- The name and types of a method that is still to be made. -/
structure MethodShape where
  name : String
  parameters : List (String × SqlType)
  returns : SqlType

/-- The name and type of a property that is still to be made. -/
structure PropertyShape where
  name : String
  type : SqlType

/-- **Provider** of members: a fixed list, shapes that are made into members of the type asked
about, anew at every call, or any answer. -/
inductive Provider (member shape : Type) where
  | fixed (members : List member)
  | fresh (shapes : List shape)
  /-- Members that depend on the type and on the next free identity, and so on the call; they come
  with the number of identities that they take. -/
  | answering (answer : SqlType → SymbolId → List member × Nat)

/-- A provider of methods. -/
abbrev MethodProvider := Provider Method MethodShape

/-- A provider of properties. -/
abbrev PropertyProvider := Provider Property PropertyShape

/-- The provider without members. -/
def Provider.nothing {member shape : Type} : Provider member shape :=
  .fixed []

/-- The members of an answer, with as many identities taken from the supply as it says. -/
def Provider.answer {member : Type} (answer : SqlType → SymbolId → List member × Nat)
    (type : SqlType) : Supply (List member) :=
  fun next =>
    let (members, taken) := answer type next
    (members, next + taken)

/-- The methods that a provider gives for a type. -/
def MethodProvider.methods (provider : MethodProvider) (type : SqlType) : Supply (List Method) :=
  match provider with
  | .fixed members => pure members
  | .fresh shapes => shapes.mapM fun shape =>
      Method.create type shape.name shape.parameters shape.returns
  | .answering answer => Provider.answer answer type

/-- The properties that a provider gives for a type. -/
def PropertyProvider.properties (provider : PropertyProvider) (type : SqlType) :
    Supply (List Property) :=
  match provider with
  | .fixed members => pure members
  | .fresh shapes => shapes.mapM fun shape => Property.create type shape.name shape.type
  | .answering answer => Provider.answer answer type

/-! ## Registries -/

/-- **Registry**: providers by the type they serve, in the order in which the types came. -/
structure Registry (provider : Type) where
  entries : List (SqlType × provider)
deriving Inhabited

namespace Registry

variable {provider : Type}

/-- The registry without entries. -/
def empty : Registry provider :=
  ⟨[]⟩

/-- **Registration** of a provider for a type. An earlier provider for the type is replaced, in its
place. -/
def register (registry : Registry provider) (type : SqlType) (it : provider) :
    Registry provider :=
  if registry.entries.any (·.1 == type) then
    ⟨registry.entries.map fun entry => if entry.1 == type then (entry.1, it) else entry⟩
  else ⟨registry.entries ++ [(type, it)]⟩

/-- The provider registered for exactly this type. -/
def get? (registry : Registry provider) (type : SqlType) : Option provider :=
  (registry.entries.find? (·.1 == type)).map (·.2)

/-- The types whose providers serve a type, most specific first: the type itself, the bases of a
host type from the nearest on, and the type of all objects. -/
def candidates (type : SqlType) : List SqlType :=
  match type with
  | .host host => .host host :: host.ancestors.map .host ++ [.object]
  | other => [other, .object]

/-- **Lookup**: the most specific provider for a type. -/
def lookup? (registry : Registry provider) (type : SqlType) : Option provider :=
  (candidates type).findSome? registry.get?

/-- The types that have a provider, in order. -/
def types (registry : Registry provider) : List SqlType :=
  registry.entries.map (·.1)

/-- The number of types that have a provider. -/
def size (registry : Registry provider) : Nat :=
  registry.entries.length

/-- The types that have a provider, as shown in listings. -/
def describe (registry : Registry provider) : String :=
  "\x7b" ++ ", ".intercalate (registry.types.map SqlType.describe) ++ "\x7d"

end Registry

/-- The methods that the most specific provider gives for a type. -/
def Registry.methods (registry : Registry MethodProvider) (type : SqlType) :
    Supply (List Method) :=
  ((registry.lookup? type).getD .nothing).methods type

/-- The properties that the most specific provider gives for a type. -/
def Registry.properties (registry : Registry PropertyProvider) (type : SqlType) :
    Supply (List Property) :=
  ((registry.lookup? type).getD .nothing).properties type

/-! ## Remembered members -/

/-- **Member cache**: the members of the types that were asked about. A second question about a type
gets the same symbols as the first. -/
structure MemberCache where
  methods : List (SqlType × List Method)
  properties : List (SqlType × List Property)
deriving Inhabited

namespace MemberCache

/-- The cache that remembers nothing. -/
def empty : MemberCache :=
  ⟨[], []⟩

/-- The methods remembered for a type. -/
def methods? (cache : MemberCache) (type : SqlType) : Option (List Method) :=
  (cache.methods.find? (·.1 == type)).map (·.2)

/-- The properties remembered for a type. -/
def properties? (cache : MemberCache) (type : SqlType) : Option (List Property) :=
  (cache.properties.find? (·.1 == type)).map (·.2)

/-- **Methods of a type**, asking its provider the first time only. -/
def askMethods (cache : MemberCache) (registry : Registry MethodProvider) (type : SqlType) :
    Supply (List Method × MemberCache) :=
  match cache.methods? type with
  | some found => pure (found, cache)
  | none => do
    let found ← registry.methods type
    return (found, { cache with methods := cache.methods ++ [(type, found)] })

/-- **Properties of a type**, asking its provider the first time only. -/
def askProperties (cache : MemberCache) (registry : Registry PropertyProvider) (type : SqlType) :
    Supply (List Property × MemberCache) :=
  match cache.properties? type with
  | some found => pure (found, cache)
  | none => do
    let found ← registry.properties type
    return (found, { cache with properties := cache.properties ++ [(type, found)] })

/-- The number of answers remembered. -/
def size (cache : MemberCache) : Nat :=
  cache.methods.length + cache.properties.length

/-- Whether nothing is remembered. -/
def isEmpty (cache : MemberCache) : Bool :=
  cache.methods.isEmpty && cache.properties.isEmpty

end MemberCache

end QuerySemantics
