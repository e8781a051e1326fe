import QuerySemantics.Value.SqlType

/-!
# Conversions between types

How a value of one type becomes a value of another. An implicit conversion happens on its own, an
explicit one needs a `CAST`. What could not be typed converts implicitly in both directions, so that
an expression that has failed once causes no further errors.

## Main definitions

* `Conversion`: the kinds of conversion, from best to worst.
* `Conversion.classify`: the conversion from one type to another.
* `SqlType.common?`: the type that both of two types convert to implicitly.
-/

set_option autoImplicit false

namespace QuerySemantics

/-- **Conversion**: how a value of one type becomes one of another. -/
inductive Conversion where
  | identity
  | implicit
  | explicit
  | none
deriving DecidableEq, Repr, Inhabited

namespace Conversion

/-- Every conversion, from best to worst. -/
def all : List Conversion :=
  [.identity, .implicit, .explicit, .none]

/-- The place of a conversion in the order from best to worst. -/
def rank : Conversion → Nat
  | .identity => 0
  | .implicit => 1
  | .explicit => 2
  | .none => 3

/-- The identifier of a conversion in listings. -/
def describe : Conversion → String
  | .identity => "Identity"
  | .implicit => "Implicit"
  | .explicit => "Explicit"
  | .none => "None"

/-- Whether there is a conversion at all. -/
def isPossible : Conversion → Bool
  | .none => false
  | _ => true

/-- Whether the conversion changes nothing. -/
def isIdentity : Conversion → Bool
  | .identity => true
  | _ => false

/-- Whether the conversion happens without a `CAST`. -/
def isImplicit : Conversion → Bool
  | .identity | .implicit => true
  | _ => false

/-- Whether the conversion needs a `CAST`. -/
def isExplicit : Conversion → Bool
  | .explicit => true
  | _ => false

/-- The width of an integral type; a character stands beside the two-byte integer. -/
def integralRank : SqlType → Nat
  | .int8 => 1
  | .int16 | .char => 2
  | .int32 => 3
  | .int64 => 4
  | _ => 0

/-- Conversions to and from the number types and characters. Integers widen implicitly to wider
integers and to every other number type; a character widens to the integers wider than itself.
Single precision widens to double precision. All else between these types is explicit. -/
def between (source target : SqlType) : Conversion :=
  match source, target with
  | .char, .float32 | .char, .float64 | .char, .decimal => .implicit
  | .float32, .float64 => .implicit
  | _, _ =>
    if source.isInteger || source matches .char then
      if target.isInteger then
        if integralRank source < integralRank target then .implicit else .explicit
      else if source.isInteger && target.isNumeric then .implicit
      else if source.isInteger && target matches .char then .explicit
      else .none
    else if source.isNumeric && (target.isNumeric || target matches .char) then .explicit
    else .none

/-- **Classification**: the conversion from `source` to `target`. -/
def classify (source target : SqlType) : Conversion :=
  if source == target then .identity
  else if source.isUnknown || target.isUnknown then .implicit
  else if source.isNull || target matches .object then .implicit
  else if target.isNull then .none
  else
    match source, target with
    | .object, _ => .explicit
    | .host a, .host b =>
      if a.derivesFrom b then .implicit
      else if b.derivesFrom a then .explicit
      else .none
    | _, _ => between source target

end Conversion

namespace SqlType

/-- Whether a value of the type may stand, as it is, where `target` is expected. -/
def convertsTo (source target : SqlType) : Bool :=
  (Conversion.classify source target).isImplicit

/-- **Common type**: the one of two types that the other converts to implicitly, the second one if
both do. -/
def common? (left right : SqlType) : Option SqlType :=
  if left.convertsTo right then some right
  else if right.convertsTo left then some left
  else none

end SqlType

end QuerySemantics
