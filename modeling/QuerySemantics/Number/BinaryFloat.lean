import QuerySemantics.Number.Integer

/-!
# Binary floating point numbers

Numbers of a binary format, held exactly: a finite one is a natural number times a power of two.
A rational number is rounded to the nearest number of the format, and half way to the one with an
even significand.

## Main definitions

* `FloatFormat`: the width of the significand and the range of the exponent.
* `BinaryFloat`: a number of such a format.
* `BinaryFloat.ofRatio`: the nearest number to a quotient.
* `BinaryFloat.read?`: the number that a decimal text denotes.
-/

set_option autoImplicit false

namespace QuerySemantics

/-- **Format**: significands have `precision` bits and exponents run from `least` to `greatest`. -/
structure FloatFormat where
  precision : Nat
  least : Int
  greatest : Int

namespace FloatFormat

/-- Single precision. -/
def single : FloatFormat := ⟨24, -149, 104⟩

/-- Double precision. -/
def double : FloatFormat := ⟨53, -1074, 971⟩

end FloatFormat

/-- **Floating point number**: `finite negative significand exponent` is the significand times two
to the exponent, with a sign that zero has too. -/
inductive BinaryFloat where
  | nan
  | infinite (negative : Bool)
  | finite (negative : Bool) (significand : Nat) (exponent : Int)
deriving DecidableEq, Repr, Inhabited

namespace BinaryFloat

/-! ## Rounding -/

/-- Rounds a quotient to the nearest natural number, and half way to the even one. -/
def roundEven (num den : Nat) : Nat :=
  let floor := num / den
  let twice := 2 * (num % den)
  if twice < den then floor
  else if den < twice then floor + 1
  else if floor % 2 = 0 then floor else floor + 1

/-- Numerator and denominator of `num / den` divided by two to the `exponent`. -/
def scale (num den : Nat) (exponent : Int) : Nat × Nat :=
  if 0 ≤ exponent then (num, den * Nat.pow 2 exponent.toNat)
  else (num * Nat.pow 2 (-exponent).toNat, den)

/-- The exponent at which `num / den` fills the significand, kept above the least exponent. -/
def exponentFor (format : FloatFormat) (num den : Nat) : Int :=
  let guess : Int := (num.log2 : Int) - (den.log2 : Int) - format.precision
  let (n, d) := scale num den guess
  let filling := if n / d < Nat.pow 2 format.precision then guess else guess + 1
  if format.least ≤ filling then filling else format.least

/-- **Rounding**: the number of the format nearest to `num / den`, for a positive denominator. A
number that rounds beyond the greatest exponent is infinite. -/
def ofRatio (format : FloatFormat) (negative : Bool) (num den : Nat) : BinaryFloat :=
  if num = 0 then .finite negative 0 format.least
  else
    let exponent := exponentFor format num den
    let (n, d) := scale num den exponent
    let significand := roundEven n d
    let (significand, exponent) :=
      if significand < Nat.pow 2 format.precision then (significand, exponent)
      else (significand / 2, exponent + 1)
    if format.greatest < exponent then .infinite negative
    else .finite negative significand exponent

/-- The number nearest to `digits` times ten to the `power`. Magnitudes far outside every format
are decided without forming the power. -/
def ofDecimal (format : FloatFormat) (negative : Bool) (digits : Nat) (power : Int) :
    BinaryFloat :=
  let magnitude : Int := (Nat.toDigits 10 digits).length + power
  if digits = 0 || magnitude < -400 then .finite negative 0 format.least
  else if 400 < magnitude then .infinite negative
  else if 0 ≤ power then ofRatio format negative (digits * Nat.pow 10 power.toNat) 1
  else ofRatio format negative digits (Nat.pow 10 (-power).toNat)

/-! ## Reading -/

/-- The leading digits of a text and what follows them. -/
def spanDigits (text : List Char) : List Char × List Char :=
  text.span fun c => '0' ≤ c && c ≤ '9'

/-- An exponent behind the digits: nothing, or a letter `e` and a signed number. -/
def exponent? : List Char → Option Int
  | [] => some 0
  | 'e' :: rest => Integer.signedOf rest
  | 'E' :: rest => Integer.signedOf rest
  | _ :: _ => none

/-- The words for the numbers that are not finite, in lower case. -/
def special? (negative : Bool) (text : List Char) : Option BinaryFloat :=
  match String.ofList (text.map Char.toLower) with
  | "nan" => some .nan
  | "inf" => some (.infinite negative)
  | "infinity" => some (.infinite negative)
  | _ => none

/-- A number without its sign: digits with an optional point, at least one digit in all, and an
optional exponent; or one of the special words. -/
def readMagnitude? (format : FloatFormat) (negative : Bool) (text : List Char) :
    Option BinaryFloat :=
  match special? negative text with
  | some value => some value
  | none =>
    let (whole, rest) := spanDigits text
    let (fraction, rest) :=
      match rest with
      | '.' :: more => spanDigits more
      | _ => ([], rest)
    if whole.isEmpty && fraction.isEmpty then none
    else do
      let digits ← Integer.digits? (whole ++ fraction)
      let exponent ← exponent? rest
      return ofDecimal format negative digits (exponent - fraction.length)

/-- **Reading**: the number nearest to the decimal number that the text denotes. -/
def read? (format : FloatFormat) (text : String) : Option BinaryFloat :=
  match text.toList with
  | '+' :: rest => readMagnitude? format false rest
  | '-' :: rest => readMagnitude? format true rest
  | whole => readMagnitude? format false whole

end BinaryFloat

end QuerySemantics
