import QuerySemantics.Number.Shortest
import QuerySemantics.Value.Moment
import QuerySemantics.Value.SqlType

/-!
# Values

The values that literals denote and that variables hold.

## Main definitions

* `Value`, `Value.type`: a value and its type.
* `Value.text`: the written form of a value.
* `Value.describe`: the written form with the type before it.
-/

set_option autoImplicit false

namespace QuerySemantics

/-- **Value.** A decimal is its mantissa divided by ten to its scale. A value of a host type is
opaque: only its owner knows what the payload means. -/
inductive Value where
  | null
  | boolean (value : Bool)
  | int8 (value : Int8)
  | int16 (value : Int16)
  | int32 (value : Int32)
  | int64 (value : Int64)
  | float32 (value : BinaryFloat)
  | float64 (value : BinaryFloat)
  | decimal (mantissa : Int) (scale : Nat)
  | string (value : String)
  | char (value : Char)
  | dateTime (value : Moment)
  | timeSpan (value : TimeSpan)
  | host (type : HostType) (payload : String)
deriving Inhabited

namespace Value

/-- **Type of a value.** -/
def type : Value → SqlType
  | .null => .null
  | .boolean _ => .boolean
  | .int8 _ => .int8
  | .int16 _ => .int16
  | .int32 _ => .int32
  | .int64 _ => .int64
  | .float32 _ => .float32
  | .float64 _ => .float64
  | .decimal _ _ => .decimal
  | .string _ => .string
  | .char _ => .char
  | .dateTime _ => .dateTime
  | .timeSpan _ => .timeSpan
  | .host type _ => .host type

/-- Whether the value is `NULL`. -/
def isNull : Value → Bool
  | .null => true
  | _ => false

/-- The payload of a host value. -/
def payload? : Value → Option String
  | .host _ payload => some payload
  | _ => none

/-- A mantissa with its last `scale` digits behind a point, and at least one digit before it. -/
def decimalText (mantissa : Int) (scale : Nat) : String :=
  if scale = 0 then toString mantissa
  else
    let digits := Nat.toDigits 10 mantissa.natAbs
    let padded := List.replicate (scale + 1 - digits.length) '0' ++ digits
    let whole := padded.take (padded.length - scale)
    let fraction := padded.drop (padded.length - scale)
    (if mantissa < 0 then "-" else "") ++ String.ofList (whole ++ '.' :: fraction)

/-- **Written form** of a value. -/
def text : Value → String
  | .null => "NULL"
  | .boolean value => if value then "true" else "false"
  | .int8 value => toString value.toInt
  | .int16 value => toString value.toInt
  | .int32 value => toString value.toInt
  | .int64 value => toString value.toInt
  | .float32 value => value.text .single
  | .float64 value => value.text .double
  | .decimal mantissa scale => decimalText mantissa scale
  | .string value => value
  | .char value => value.toString
  | .dateTime value => value.text
  | .timeSpan value => value.text
  | .host type _ => "<" ++ type.name ++ ">"

/-- The type of a value and its written form. -/
def describe (value : Value) : String :=
  value.type.name ++ "(" ++ value.text ++ ")"

end Value

end QuerySemantics
