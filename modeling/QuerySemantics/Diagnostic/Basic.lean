import QuerySemantics.Text.Span
import QuerySemantics.Value.SqlType

/-!
# Diagnostics

What binding reports about a query. A diagnostic is a problem and the span of the text where it
arose; the wording of a problem is a function of it.

## Main definitions

* `Problem`: what can be wrong with a query.
* `Problem.category`, `Problem.message`, `Problem.label`, `Problem.notes`: how it is reported.
* `Diagnostic`: a problem at a place.
-/

set_option autoImplicit false

namespace QuerySemantics

/-! ## Categories -/

/-- **Category** of a diagnostic. -/
inductive Category where
  | unresolvedName
  | typeMismatch
  | ambiguousOverload
  | ambiguousReference
  | shapeMismatch
deriving DecidableEq, Repr, Inhabited

namespace Category

/-- Every category, in the order of the codes. -/
def all : List Category :=
  [.unresolvedName, .typeMismatch, .ambiguousOverload, .ambiguousReference, .shapeMismatch]

/-- The code of a category. -/
def code : Category → String
  | .unresolvedName => "Q0001"
  | .typeMismatch => "Q0002"
  | .ambiguousOverload => "Q0003"
  | .ambiguousReference => "Q0004"
  | .shapeMismatch => "Q0005"

/-- A category in words. -/
def words : Category → String
  | .unresolvedName => "unresolved name"
  | .typeMismatch => "type mismatch"
  | .ambiguousOverload => "ambiguous overload"
  | .ambiguousReference => "ambiguous reference"
  | .shapeMismatch => "shape mismatch"

/-- The identifier of a category in listings of diagnostics. -/
def describe : Category → String
  | .unresolvedName => "UnresolvedName"
  | .typeMismatch => "TypeMismatch"
  | .ambiguousOverload => "AmbiguousOverload"
  | .ambiguousReference => "AmbiguousReference"
  | .shapeMismatch => "StructuralShapeMismatch"

end Category

/-! ## Problems -/

/-- **Kind of name** that was looked for. -/
inductive NameKind where
  | column
  | table
  | tableOrColumn
  | hostVariable
  | function
  | aggregate
  | method
  | property
  | type
deriving DecidableEq, Repr, Inhabited

/-- A kind of name in words. -/
def NameKind.words : NameKind → String
  | .column => "column"
  | .table => "table"
  | .tableOrColumn => "table or column"
  | .hostVariable => "variable"
  | .function => "function"
  | .aggregate => "aggregate"
  | .method => "method"
  | .property => "property"
  | .type => "type"

/-- **Place of a condition**, which has to be a truth value. -/
inductive ConditionPlace where
  | filter
  | having
  | on
  | when
deriving DecidableEq, Repr, Inhabited

/-- The keyword of a place. -/
def ConditionPlace.keyword : ConditionPlace → String
  | .filter => "WHERE"
  | .having => "HAVING"
  | .on => "ON"
  | .when => "WHEN"

/-- **Problem**: what is wrong. -/
inductive Problem where
  /-- A name refers to nothing visible. -/
  | unresolvedName (kind : NameKind) (name : String)
  /-- A table has no such column. -/
  | unresolvedColumn (table column : String)
  /-- A type has no such member. -/
  | unresolvedMember (type : SqlType) (kind : NameKind) (name : String)
  /-- There is no conversion for a `CAST`. -/
  | invalidCast (source target : SqlType)
  /-- An operator does not apply to its operands. -/
  | operatorMismatch (operator : String) (operands : List SqlType)
  /-- A condition is not a truth value. -/
  | conditionNotBoolean (place : ConditionPlace) (found : SqlType)
  /-- The operand of a `CASE` cannot be compared with a label. -/
  | caseComparison (input label : SqlType)
  /-- The branches of a `CASE` have no common type. -/
  | caseBranches (left right : SqlType)
  /-- No overload accepts the arguments. -/
  | noOverload (kind : NameKind) (name : String) (arguments : List SqlType)
  /-- A literal denotes no value. -/
  | invalidLiteral (text : String)
  /-- A row limit is not a number. -/
  | invalidLimit (text : String)
  /-- Several overloads fit equally well. -/
  | ambiguousOverload (name : String) (candidates : List String)
  /-- A name refers to several symbols. -/
  | ambiguousReference (name : String) (candidates : List String)
  /-- A column name list does not fit its query. -/
  | columnNameCount (names columns : Nat)
  /-- The sides of a set operation have different numbers of columns. -/
  | setOperationCount (left right : Nat)
  /-- A subselect that stands for a value has not one column. -/
  | subselectCount (columns : Nat)
  /-- Two columns of a set operation have no common type; `ordinal` counts from zero. -/
  | setOperationTypes (ordinal : Nat) (left right : SqlType)
  /-- There is no output column at an `ORDER BY` position. -/
  | orderByPosition (position : Int) (columns : Nat)

namespace Problem

/-- **Category** of a problem. -/
def category : Problem → Category
  | .unresolvedName _ _ | .unresolvedColumn _ _ | .unresolvedMember _ _ _ => .unresolvedName
  | .invalidCast _ _ | .operatorMismatch _ _ | .conditionNotBoolean _ _ | .caseComparison _ _
  | .caseBranches _ _ | .noOverload _ _ _ | .invalidLiteral _ | .invalidLimit _ => .typeMismatch
  | .ambiguousOverload _ _ => .ambiguousOverload
  | .ambiguousReference _ _ => .ambiguousReference
  | .columnNameCount _ _ | .setOperationCount _ _ | .subselectCount _
  | .setOperationTypes _ _ _ | .orderByPosition _ _ => .shapeMismatch

/-- The names of types, separated by commas. -/
def typeNames (types : List SqlType) : String :=
  ", ".intercalate (types.map SqlType.name)

/-- **Message** of a problem. -/
def message : Problem → String
  | .unresolvedName kind name => kind.words ++ " '" ++ name ++ "' does not exist"
  | .unresolvedColumn table column => "table '" ++ table ++ "' has no column '" ++ column ++ "'"
  | .unresolvedMember type kind name =>
    "type " ++ type.name ++ " has no " ++ kind.words ++ " '" ++ name ++ "'"
  | .invalidCast source target => "cannot cast " ++ source.name ++ " to " ++ target.name
  | .operatorMismatch operator operands =>
    "operator '" ++ operator ++ "' cannot be applied to operands of type (" ++ typeNames operands
      ++ ")"
  | .conditionNotBoolean place found =>
    place.keyword ++ " condition must be BOOLEAN, found " ++ found.name
  | .caseComparison input label =>
    "CASE comparison has incompatible types " ++ input.name ++ " and " ++ label.name
  | .caseBranches left right =>
    "CASE has incompatible types " ++ left.name ++ " and " ++ right.name
  | .noOverload kind name arguments =>
    "no overload of " ++ kind.words ++ " '" ++ name ++ "' accepts arguments ("
      ++ typeNames arguments ++ ")"
  | .invalidLiteral text => "'" ++ text ++ "' is not a valid literal"
  | .invalidLimit text => "'" ++ text ++ "' is not a valid TOP row count"
  | .ambiguousOverload name _ => "call to '" ++ name ++ "' is ambiguous"
  | .ambiguousReference name _ => "'" ++ name ++ "' is ambiguous"
  | .columnNameCount names columns =>
    toString names ++ " column names were given but the query produces " ++ toString columns
      ++ " columns"
  | .setOperationCount left right =>
    "both sides of a set operation must have the same number of columns (" ++ toString left
      ++ " and " ++ toString right ++ ")"
  | .subselectCount columns =>
    "subquery must return exactly 1 column, found " ++ toString columns
  | .setOperationTypes ordinal left right =>
    "column " ++ toString (ordinal + 1) ++ " of the set operation has incompatible types "
      ++ left.name ++ " and " ++ right.name
  | .orderByPosition position columns =>
    "ORDER BY position " ++ toString position ++ " is out of range, the query has "
      ++ toString columns ++ " columns"

/-- **Label** of a problem: what is written beside the marked text. -/
def label : Problem → String
  | .unresolvedName kind _ | .unresolvedMember _ kind _ => "unknown " ++ kind.words
  | .unresolvedColumn _ _ => "unknown column"
  | .invalidCast _ _ => "no conversion exists"
  | .conditionNotBoolean _ _ => "expected BOOLEAN"
  | .noOverload _ _ _ => "no matching overload"
  | .ambiguousOverload _ _ => "ambiguous call"
  | .ambiguousReference _ _ => "ambiguous reference"
  | _ => ""

/-- **Notes** on a problem. -/
def notes : Problem → List String
  | .ambiguousOverload _ candidates => candidates.map ("candidate: " ++ ·)
  | .ambiguousReference _ candidates => ["could refer to " ++ ", ".intercalate candidates]
  | _ => []

end Problem

/-! ## Diagnostics -/

/-- **Diagnostic**: a problem and where it arose. -/
structure Diagnostic where
  span : Span
  problem : Problem

namespace Diagnostic

/-- The category of a diagnostic. -/
def category (diagnostic : Diagnostic) : Category :=
  diagnostic.problem.category

/-- The message of a diagnostic. -/
def message (diagnostic : Diagnostic) : String :=
  diagnostic.problem.message

/-- A line about something of a category at a span. -/
def line (span : Span) (category : Category) (message : String) : String :=
  toString span.start ++ ".." ++ toString span.stop ++ ": " ++ category.words ++ ": " ++ message

/-- **Display**: place, category and message in one line. -/
def display (diagnostic : Diagnostic) : String :=
  line diagnostic.span diagnostic.category diagnostic.message

end Diagnostic

end QuerySemantics
