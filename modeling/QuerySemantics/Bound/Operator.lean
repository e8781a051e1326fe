import QuerySemantics.Tree.Kind
import QuerySemantics.Value.Conversion

/-!
# Operators

The unary and binary operators of expressions, the tokens that spell them, and the types of their
results.

## Main definitions

* `UnaryOperator`, `BinaryOperator`: the operators and their texts.
* `UnaryOperator.ofToken?`, `BinaryOperator.ofToken?`: the operator that a token spells.
* `UnaryOperator.result?`, `BinaryOperator.result?`: the type of the result, if the operator applies
  to operands of the given types.
-/

set_option autoImplicit false

namespace QuerySemantics

/-! ## Unary operators -/

/-- **Unary operator.** -/
inductive UnaryOperator where
  | identity
  | negate
  | complement
  | logicalNot
deriving DecidableEq, Repr, Inhabited

namespace UnaryOperator

/-- The text of an operator. -/
def text : UnaryOperator → String
  | .identity => "+"
  | .negate => "-"
  | .complement => "~"
  | .logicalNot => "NOT"

/-- The identifier of an operator in listings of bound nodes. -/
def describe : UnaryOperator → String
  | .identity => "Identity"
  | .negate => "Negate"
  | .complement => "Complement"
  | .logicalNot => "LogicalNot"

/-- The operator that a token spells. -/
def ofToken? : Kind → Option UnaryOperator
  | .plus => some .identity
  | .minus => some .negate
  | .tilde => some .complement
  | .notKeyword => some .logicalNot
  | _ => none

end UnaryOperator

/-! ## Binary operators -/

/-- **Binary operator.** -/
inductive BinaryOperator where
  | add
  | subtract
  | multiply
  | divide
  | modulus
  | bitAnd
  | bitOr
  | bitXor
  | equal
  | notEqual
  | less
  | lessOrEqual
  | greater
  | greaterOrEqual
  | logicalAnd
  | logicalOr
  | like
  | notLike
deriving DecidableEq, Repr, Inhabited

namespace BinaryOperator

/-- The text of an operator. -/
def text : BinaryOperator → String
  | .add => "+"
  | .subtract => "-"
  | .multiply => "*"
  | .divide => "/"
  | .modulus => "%"
  | .bitAnd => "&"
  | .bitOr => "|"
  | .bitXor => "^"
  | .equal => "="
  | .notEqual => "<>"
  | .less => "<"
  | .lessOrEqual => "<="
  | .greater => ">"
  | .greaterOrEqual => ">="
  | .logicalAnd => "AND"
  | .logicalOr => "OR"
  | .like => "LIKE"
  | .notLike => "NOT LIKE"

/-- The identifier of an operator in listings of bound nodes. -/
def describe : BinaryOperator → String
  | .add => "Add"
  | .subtract => "Subtract"
  | .multiply => "Multiply"
  | .divide => "Divide"
  | .modulus => "Modulus"
  | .bitAnd => "BitAnd"
  | .bitOr => "BitOr"
  | .bitXor => "BitXor"
  | .equal => "Equal"
  | .notEqual => "NotEqual"
  | .less => "Less"
  | .lessOrEqual => "LessOrEqual"
  | .greater => "Greater"
  | .greaterOrEqual => "GreaterOrEqual"
  | .logicalAnd => "LogicalAnd"
  | .logicalOr => "LogicalOr"
  | .like => "Like"
  | .notLike => "NotLike"

/-- Whether the operator compares its operands. -/
def isComparison : BinaryOperator → Bool
  | .equal | .notEqual | .less | .lessOrEqual | .greater | .greaterOrEqual => true
  | _ => false

/-- Whether the operator always yields a truth value. -/
def yieldsBoolean : BinaryOperator → Bool
  | .logicalAnd | .logicalOr | .like | .notLike => true
  | operator => operator.isComparison

/-- The operator that a token spells, `LIKE` possibly behind a `NOT`. -/
def ofToken? (negated : Bool) : Kind → Option BinaryOperator
  | .plus => some .add
  | .minus => some .subtract
  | .star => some .multiply
  | .slash => some .divide
  | .percent => some .modulus
  | .ampersand => some .bitAnd
  | .bar => some .bitOr
  | .caret => some .bitXor
  | .equals => some .equal
  | .notEquals => some .notEqual
  | .less => some .less
  | .lessOrEqual => some .lessOrEqual
  | .greater => some .greater
  | .greaterOrEqual => some .greaterOrEqual
  | .andKeyword => some .logicalAnd
  | .orKeyword => some .logicalOr
  | .likeKeyword => some (if negated then .notLike else .like)
  | _ => none

/-- The comparison that a token spells. -/
def comparison? (kind : Kind) : Option BinaryOperator :=
  (ofToken? false kind).filter isComparison

end BinaryOperator

/-! ## Types of results -/

/-- Arithmetic on integers narrower than four bytes, and on characters, happens in four bytes. -/
def SqlType.promote : SqlType → SqlType
  | .int8 | .int16 | .char => .int32
  | other => other

/-- **Result of a unary operator**, or `none` if it does not apply. An operand without a known type
is never refused. -/
def UnaryOperator.result? (operator : UnaryOperator) (operand : SqlType) : Option SqlType :=
  match operator, operand with
  | .logicalNot, .unknown => some .boolean
  | _, .unknown => some .unknown
  | .logicalNot, type => if type.convertsTo .boolean then some .boolean else none
  | _, .null => some .null
  | .negate, .timeSpan => some .timeSpan
  | .complement, .boolean => some .boolean
  | .complement, type => if type.isInteger then some type.promote else none
  | _, type => if type.isNumeric then some type.promote else none

namespace BinaryOperator

/-- The result of arithmetic on numbers, or of joining texts with a plus. -/
def arithmetic? (operator : BinaryOperator) (left right : SqlType) : Option SqlType :=
  match operator, left.common? right with
  | _, none => none
  | _, some .null => some .null
  | .add, some .string => some .string
  | _, some type => if type.isNumeric then some type.promote else none

/-- The result of an operation on bits. -/
def bitwise? (left right : SqlType) : Option SqlType :=
  match left.common? right with
  | none => none
  | some .null => some .null
  | some .boolean => some .boolean
  | some type => if type.isInteger then some type.promote else none

/-- A truth value, when both operands may stand where `expected` is expected. -/
def both? (expected left right : SqlType) : Option SqlType :=
  if left.convertsTo expected && right.convertsTo expected then some .boolean else none

/-- **Result of a binary operator**, or `none` if it does not apply. Operands without a known type
are never refused. Moments and spans of time have sums and differences of their own. -/
def result? (operator : BinaryOperator) (left right : SqlType) : Option SqlType :=
  if left.isUnknown || right.isUnknown then
    some (if operator.yieldsBoolean then .boolean else .unknown)
  else
    match operator, left, right with
    | .subtract, .dateTime, .dateTime => some .timeSpan
    | .add, .dateTime, .timeSpan | .subtract, .dateTime, .timeSpan => some .dateTime
    | .add, .timeSpan, .dateTime => some .dateTime
    | .add, .timeSpan, .timeSpan | .subtract, .timeSpan, .timeSpan => some .timeSpan
    | .add, _, _ | .subtract, _, _ | .multiply, _, _ | .divide, _, _ | .modulus, _, _ =>
      arithmetic? operator left right
    | .bitAnd, _, _ | .bitOr, _, _ | .bitXor, _, _ => bitwise? left right
    | .logicalAnd, _, _ | .logicalOr, _, _ => both? .boolean left right
    | .like, _, _ | .notLike, _, _ => both? .string left right
    | .equal, _, _ | .notEqual, _, _ | .less, _, _ | .lessOrEqual, _, _ | .greater, _, _
    | .greaterOrEqual, _, _ => (left.common? right).map fun _ => .boolean

end BinaryOperator

end QuerySemantics
