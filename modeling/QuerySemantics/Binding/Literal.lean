import QuerySemantics.Binding.Pass
import QuerySemantics.Number.Integer
import QuerySemantics.Text.Quoted

/-!
# Literals

## Main definitions

* `Literal.integer?`: the value of a numeral without fraction and exponent, in the narrowest of the
  types `INT`, `BIGINT` and `DECIMAL` that holds it.
* `Literal.number?`: the value of any numeral.
* `Literal.value?`: the value that a token denotes.
* `Binding.literal`: binding a literal.
-/

set_option autoImplicit false

namespace QuerySemantics

namespace Literal

/-- The value of an integer in the narrowest type that holds it; a `DECIMAL` holds 128 bits. -/
def ofInt? (n : Int) : Option Value :=
  if Integer.fits 32 n then some (.int32 (Int32.ofInt n))
  else if Integer.fits 64 n then some (.int64 (Int64.ofInt n))
  else if Integer.fits 128 n then some (.decimal n 0)
  else none

/-- **Integer literal.** -/
def integer? (text : String) : Option Value := do
  ofInt? (← Integer.signed? text)

/-- **Number literal**: with a point or an exponent it is a `DOUBLE`, otherwise an integer. -/
def number? (text : String) : Option Value :=
  if text.toList.any (fun c => c = '.' ∨ c = 'e' ∨ c = 'E') then
    (BinaryFloat.read? .double text).map .float64
  else integer? text

/-- **Value of a token.** -/
def value? (token : Token) : Option Value :=
  match token.kind with
  | .numericLiteral => number? token.text
  | .stringLiteral => some (.string (Quoted.stringValue token.text))
  | .trueKeyword => some (.boolean true)
  | .falseKeyword => some (.boolean false)
  | .nullKeyword => some .null
  | _ => none

end Literal

namespace Binding

/-- **Binding a literal.** One that denotes no value is reported. -/
def literal (token : Option Token) : BindM Bound.Expr :=
  match token with
  | none => missingExpr
  | some token =>
    match Literal.value? token with
    | some value => return .literal value value.type
    | none => do
      report token.span (.invalidLiteral token.text)
      return .literal .null .unknown

end Binding

end QuerySemantics
