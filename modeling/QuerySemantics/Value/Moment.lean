/-!
# Moments and spans of time

A moment is a date and a time of day without a time zone. A span of time counts nanoseconds.

## Main definitions

* `Moment`, `Moment.text`: a moment and its written form.
* `TimeSpan`, `TimeSpan.text`: a span of time and its written form.
-/

set_option autoImplicit false

namespace QuerySemantics

/-- The digits of `n`, with leading zeros up to the given width. -/
def paddedDigits (width n : Nat) : String :=
  let digits := Nat.toDigits 10 n
  String.ofList (List.replicate (width - digits.length) '0' ++ digits)

/-- **Moment**: a date and a time of day. In a leap second the nanoseconds count on beyond a
billion. -/
structure Moment where
  year : Int
  month : Nat
  day : Nat
  hour : Nat
  minute : Nat
  second : Nat
  nanosecond : Nat
deriving DecidableEq, Repr, Inhabited

namespace Moment

/-- A year in four digits, with a sign if it lies outside the years from 0 to 9999. -/
def yearText (year : Int) : String :=
  if year < 0 then "-" ++ paddedDigits 4 year.natAbs
  else if 9999 < year then "+" ++ paddedDigits 4 year.natAbs
  else paddedDigits 4 year.natAbs

/-- Nanoseconds behind a point, in three, six or nine digits, whichever first loses nothing; none
at all when they are zero. -/
def fractionText (nanoseconds : Nat) : String :=
  if nanoseconds = 0 then ""
  else if nanoseconds % 1000000 = 0 then "." ++ paddedDigits 3 (nanoseconds / 1000000)
  else if nanoseconds % 1000 = 0 then "." ++ paddedDigits 6 (nanoseconds / 1000)
  else "." ++ paddedDigits 9 nanoseconds

/-- **Written form** of a moment. A leap second is the sixtieth of its minute. -/
def text (moment : Moment) : String :=
  let leap := 1000000000 ≤ moment.nanosecond
  let second := if leap then moment.second + 1 else moment.second
  let nanosecond := if leap then moment.nanosecond - 1000000000 else moment.nanosecond
  yearText moment.year ++ "-" ++ paddedDigits 2 moment.month ++ "-" ++ paddedDigits 2 moment.day
    ++ " " ++ paddedDigits 2 moment.hour ++ ":" ++ paddedDigits 2 moment.minute
    ++ ":" ++ paddedDigits 2 second ++ fractionText nanosecond

end Moment

/-- **Span of time**, in nanoseconds. -/
structure TimeSpan where
  nanoseconds : Int
deriving DecidableEq, Repr, Inhabited

namespace TimeSpan

/-- The span of so many seconds and nanoseconds. -/
def ofParts (seconds : Int) (nanoseconds : Nat) : TimeSpan :=
  ⟨seconds * 1000000000 + nanoseconds⟩

/-- Nanoseconds behind a point, without trailing zeros. -/
def fractionText (nanoseconds : Nat) : String :=
  if nanoseconds = 0 then ""
  else
    let digits := (paddedDigits 9 nanoseconds).toList
    "." ++ String.ofList (digits.reverse.dropWhile (· == '0')).reverse

/-- **Written form** of a span: zero days, or seconds with a fraction. -/
def text (span : TimeSpan) : String :=
  if span.nanoseconds = 0 then "P0D"
  else
    let sign := if span.nanoseconds < 0 then "-" else ""
    let count := span.nanoseconds.natAbs
    sign ++ "PT" ++ toString (count / 1000000000) ++ fractionText (count % 1000000000) ++ "S"

end TimeSpan

end QuerySemantics
