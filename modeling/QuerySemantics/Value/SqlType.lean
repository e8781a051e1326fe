/-!
# Types of values

The type of a value that flows through a query: two sentinels, the primitive types, a top type, and
types that the host application registers. Host types inherit from at most one base each. A host
type is known by its name, so two of one name are the same type even if they list other bases.

## Main definitions

* `HostType`, `HostType.ancestors`, `HostType.derivesFrom`: host types and their inheritance.
* `SqlType`: the type of a value.
* `SqlType.name`: the spelling used in messages.
* `SqlType.ofName?`: the primitive type that a type name in a query denotes.
-/

set_option autoImplicit false

namespace QuerySemantics

/-! ## Host types -/

/-- **Host type**: its name and the names of its bases, from the direct base upwards. -/
structure HostType where
  name : String
  bases : List String
deriving Repr, Inhabited

namespace HostType

/-- Host types are compared by name. -/
instance : BEq HostType := ⟨fun a b => a.name == b.name⟩

/-- The host types behind a list of names, each with the rest of the list as its bases. -/
def chain : List String → List HostType
  | [] => []
  | name :: rest => ⟨name, rest⟩ :: chain rest

/-- **Ancestors** of a host type, from the direct base upwards. -/
def ancestors (host : HostType) : List HostType :=
  chain host.bases

/-- The direct base. -/
def base? (host : HostType) : Option HostType :=
  host.ancestors.head?

/-- **Inheritance**: whether `other` is an ancestor of the host type. -/
def derivesFrom (host other : HostType) : Bool :=
  host.ancestors.any (· == other)

/-- A host type with its direct base, as shown in listings of types. -/
def describe (host : HostType) : String :=
  match host.base? with
  | some base => "HostType(" ++ host.name ++ " : " ++ base.name ++ ")"
  | none => "HostType(" ++ host.name ++ ")"

end HostType

/-! ## Types -/

/-- **Type of a value.** `unknown` is the type of what could not be typed, `null` that of the `NULL`
literal, and every value is an `object`. -/
inductive SqlType where
  | unknown
  | null
  | boolean
  | int8
  | int16
  | int32
  | int64
  | float32
  | float64
  | decimal
  | string
  | char
  | dateTime
  | timeSpan
  | object
  | host (type : HostType)
deriving Repr, Inhabited

namespace SqlType

/-- Types are equal when they are the same type, host types being compared by name. -/
instance : BEq SqlType where
  beq
    | .unknown, .unknown => true
    | .null, .null => true
    | .boolean, .boolean => true
    | .int8, .int8 => true
    | .int16, .int16 => true
    | .int32, .int32 => true
    | .int64, .int64 => true
    | .float32, .float32 => true
    | .float64, .float64 => true
    | .decimal, .decimal => true
    | .string, .string => true
    | .char, .char => true
    | .dateTime, .dateTime => true
    | .timeSpan, .timeSpan => true
    | .object, .object => true
    | .host a, .host b => a == b
    | _, _ => false

/-- The primitive types, the top type included. -/
def primitives : List SqlType :=
  [.boolean, .int8, .int16, .int32, .int64, .float32, .float64, .decimal, .string, .char,
    .dateTime, .timeSpan, .object]

/-- Whether the type is that of something that could not be typed. -/
def isUnknown : SqlType → Bool
  | .unknown => true
  | _ => false

/-- Whether the type is that of the `NULL` literal. -/
def isNull : SqlType → Bool
  | .null => true
  | _ => false

/-- Whether the type is an integer type. A character is none. -/
def isInteger : SqlType → Bool
  | .int8 | .int16 | .int32 | .int64 => true
  | _ => false

/-- Whether the type is a binary floating point type. -/
def isFloat : SqlType → Bool
  | .float32 | .float64 => true
  | _ => false

/-- Whether the type is a number type. -/
def isNumeric : SqlType → Bool
  | .decimal => true
  | type => type.isInteger || type.isFloat

/-- The host type, for those that are one. -/
def host? : SqlType → Option HostType
  | .host type => some type
  | _ => none

/-- **Name** of the type in messages. -/
def name : SqlType → String
  | .unknown => "?"
  | .null => "NULL"
  | .boolean => "BOOLEAN"
  | .int8 => "TINYINT"
  | .int16 => "SMALLINT"
  | .int32 => "INT"
  | .int64 => "BIGINT"
  | .float32 => "REAL"
  | .float64 => "DOUBLE"
  | .decimal => "DECIMAL"
  | .string => "VARCHAR"
  | .char => "CHAR"
  | .dateTime => "DATETIME"
  | .timeSpan => "TIMESPAN"
  | .object => "OBJECT"
  | .host type => type.name

/-- The identifier of the type in listings of types. -/
def describe : SqlType → String
  | .unknown => "Unknown"
  | .null => "Null"
  | .boolean => "Boolean"
  | .int8 => "Int8"
  | .int16 => "Int16"
  | .int32 => "Int32"
  | .int64 => "Int64"
  | .float32 => "Float32"
  | .float64 => "Float64"
  | .decimal => "Decimal"
  | .string => "String"
  | .char => "Char"
  | .dateTime => "DateTime"
  | .timeSpan => "TimeSpan"
  | .object => "Object"
  | .host type => "Host(" ++ type.describe ++ ")"

/-- The names, in upper case, under which a query may write a primitive type. -/
def spellings : List (SqlType × List String) :=
  [(.boolean, ["BOOL", "BOOLEAN", "BIT"]),
   (.int8, ["TINYINT", "INT8", "BYTE"]),
   (.int16, ["SMALLINT", "INT16"]),
   (.int32, ["INT", "INTEGER", "INT32"]),
   (.int64, ["BIGINT", "INT64"]),
   (.float32, ["REAL", "SINGLE", "FLOAT32"]),
   (.float64, ["FLOAT", "DOUBLE", "FLOAT64"]),
   (.decimal, ["DECIMAL", "NUMERIC", "MONEY"]),
   (.string, ["VARCHAR", "NVARCHAR", "TEXT", "STRING"]),
   (.char, ["CHAR", "NCHAR"]),
   (.dateTime, ["DATETIME", "DATE", "TIMESTAMP"]),
   (.timeSpan, ["TIMESPAN", "INTERVAL", "TIME"]),
   (.object, ["OBJECT"])]

/-- **Primitive type of a name**, ignoring the case of ASCII letters. -/
def ofName? (name : String) : Option SqlType :=
  let upper := name.map Char.toUpper
  (spellings.find? (·.2.contains upper)).map (·.1)

end SqlType

end QuerySemantics
