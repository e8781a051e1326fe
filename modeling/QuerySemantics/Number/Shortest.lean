import QuerySemantics.Number.BinaryFloat

/-!
# Shortest decimal text

A finite floating point number is written with the fewest digits that read back as the same number,
and of these with the digits nearest to it. The text is always positional: it has no exponent.

## Main definitions

* `Shortest.interval`: the real numbers that round to a given number.
* `Shortest.digits`: the chosen digits and the power of ten of the last one.
* `BinaryFloat.text`: the written form.
-/

set_option autoImplicit false

namespace QuerySemantics

namespace Shortest

/-- **Rounding interval**: the bounds of the numbers that round to a value, as multiples of a common
unit, with the value itself. The bounds count when the significand is even. -/
structure Interval where
  low : Nat
  value : Nat
  high : Nat
  closed : Bool

/-- The interval of `significand` times two to some exponent, in quarters of that power of two.
Below the least significand of full width the numbers lie twice as dense. -/
def interval (format : FloatFormat) (significand : Nat) (exponent : Int) : Interval :=
  let narrow := significand = Nat.pow 2 (format.precision - 1) ∧ format.least < exponent
  { low := 4 * significand - (if narrow then 1 else 2)
    value := 4 * significand
    high := 4 * significand + 2
    closed := significand % 2 = 0 }

/-- Whether `point / unit` lies in the interval. -/
def Interval.holds (bounds : Interval) (unit point : Nat) : Bool :=
  if bounds.closed then bounds.low * unit ≤ point && point ≤ bounds.high * unit
  else bounds.low * unit < point && point < bounds.high * unit

/-- The candidate on the grid of the powers of ten to `power`: of the two neighbours of the value
that lie in the interval, the nearer one, and the upper one half way. The interval counts units of
two to `exponent`. -/
def onGrid (bounds : Interval) (exponent power : Int) : Option Nat :=
  let unit := Nat.pow 2 exponent.toNat * Nat.pow 10 (-power).toNat
  let step := Nat.pow 10 power.toNat * Nat.pow 2 (-exponent).toNat
  let below := bounds.value * unit / step
  let above := below + 1
  let hasBelow := bounds.holds unit (below * step)
  let hasAbove := bounds.holds unit (above * step)
  if hasBelow && hasAbove then
    if above * step - bounds.value * unit ≤ bounds.value * unit - below * step then some above
    else some below
  else if hasBelow then some below
  else if hasAbove then some above
  else none

/-- A power of ten above the number with the given significand and exponent. -/
def powerAbove (significand : Nat) (exponent : Int) : Int :=
  ((significand.log2 : Int) + exponent) * 30103 / 100000 + 2

/-- The chosen digits of a number that is not zero, and the power of ten that they count. Grids are
tried from coarse to fine; twenty-five grids reach beyond the precision of both formats. -/
def digits (format : FloatFormat) (significand : Nat) (exponent : Int) : Nat × Int :=
  let bounds := interval format significand exponent
  let start := powerAbove significand exponent
  let grids := (List.range 25).map fun (i : Nat) => start - Int.ofNat i
  (grids.findSome? fun power =>
    (onGrid bounds (exponent - 2) power).map fun found => (found, power)).getD (0, 0)

/-- Digits that count a power of ten, written with a point where the power is negative. -/
def positional (found : Nat) (power : Int) : String :=
  if 0 ≤ power then toString (found * Nat.pow 10 power.toNat)
  else
    let places := (-power).toNat
    let written := Nat.toDigits 10 found
    let padded := List.replicate (places + 1 - written.length) '0' ++ written
    String.ofList (padded.take (padded.length - places) ++ '.' ::
      padded.drop (padded.length - places))

end Shortest

/-- **Written form** of a number of the format. -/
def BinaryFloat.text (format : FloatFormat) : BinaryFloat → String
  | .nan => "NaN"
  | .infinite negative => if negative then "-inf" else "inf"
  | .finite negative significand exponent =>
    let magnitude :=
      if significand = 0 then "0"
      else
        let (found, power) := Shortest.digits format significand exponent
        Shortest.positional found power
    if negative then "-" ++ magnitude else magnitude

end QuerySemantics
