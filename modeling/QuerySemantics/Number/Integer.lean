/-!
# Reading integers

The decimal form of an integer: one or more ASCII digits, behind an optional sign. Leading zeros
are allowed. What fits a width is decided after reading, so any number of digits may be given.

## Main definitions

* `Integer.digits?`: the number that a run of digits denotes.
* `Integer.signed?`, `Integer.unsigned?`: reading with either sign, or with a plus sign only.
* `Integer.fits`: whether a number fits a two's complement width.
-/

set_option autoImplicit false

namespace QuerySemantics

namespace Integer

/-- The value of a decimal digit. -/
def digit? (c : Char) : Option Nat :=
  if '0' ≤ c ∧ c ≤ '9' then some (c.toNat - '0'.toNat) else none

/-- Reads digits behind a number that is already read. -/
def digitsFrom (value : Nat) : List Char → Option Nat
  | [] => some value
  | c :: rest => do digitsFrom (10 * value + (← digit? c)) rest

/-- **Digits**: the number that one or more digits denote. -/
def digits? : List Char → Option Nat
  | [] => none
  | text => digitsFrom 0 text

/-- An integer with an optional plus or minus sign. -/
def signedOf : List Char → Option Int
  | '+' :: rest => (digits? rest).map Int.ofNat
  | '-' :: rest => (digits? rest).map fun n => -Int.ofNat n
  | text => (digits? text).map Int.ofNat

/-- **Signed reading**: the integer that the text denotes. -/
def signed? (text : String) : Option Int :=
  signedOf text.toList

/-- A number with an optional plus sign. -/
def unsignedOf : List Char → Option Nat
  | '+' :: rest => digits? rest
  | text => digits? text

/-- **Unsigned reading**: the natural number that the text denotes. A minus sign is refused, even
before a zero. -/
def unsigned? (text : String) : Option Nat :=
  unsignedOf text.toList

/-- Whether `n` fits `bits` bits in two's complement. -/
def fits (bits : Nat) (n : Int) : Bool :=
  -Int.ofNat (Nat.pow 2 (bits - 1)) ≤ n && n < Int.ofNat (Nat.pow 2 (bits - 1))

/-- The integer of the given width that the text denotes. -/
def signedFitting? (bits : Nat) (text : String) : Option Int :=
  (signed? text).filter (fits bits)

end Integer

end QuerySemantics
