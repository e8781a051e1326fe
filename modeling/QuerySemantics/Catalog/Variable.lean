import QuerySemantics.Catalog.Symbol
import QuerySemantics.Value.Basic

/-!
# Variables

A variable has a name, a declared type and a current value, which the host application replaces
between queries. Binding a query looks at the type only.

## Main definitions

* `Variable`, `Variable.create`: variables; a new one holds `NULL`.
* `Variable.assign`: replacing the current value, if the type allows it.
* `AssignmentError`: why it does not.
-/

set_option autoImplicit false

namespace QuerySemantics

/-- **Variable**: a named value of the host application. -/
structure Variable where
  id : SymbolId
  name : String
  type : SqlType
  value : Value
deriving Inhabited

/-- **Assignment error**: the value does not have the declared type. -/
inductive AssignmentError where
  | typeMismatch (value : Value) (declared : SqlType)

/-- The text of an assignment error. -/
def AssignmentError.message : AssignmentError → String
  | .typeMismatch value declared =>
    "the value '" ++ value.text ++ "' cannot be assigned to variable of type " ++ declared.name

namespace Variable

/-- A new variable, which holds `NULL`. -/
def create (name : String) (type : SqlType) : Supply Variable := do
  return ⟨← Supply.fresh, name, type, .null⟩

/-- Whether a variable of the declared type takes the value: `NULL`, a value of exactly that type, a
value of a host type derived from it, or any value if every value is allowed. Numbers do not
widen. -/
def accepts (declared : SqlType) (value : Value) : Bool :=
  if value.isNull || declared matches .object then true
  else
    match value.type, declared with
    | .host actual, .host expected => SqlType.convertsTo (.host actual) (.host expected)
    | actual, expected => actual == expected

/-- **Assignment**: the variable with its value replaced. A value that is not accepted leaves the
variable as it was. -/
def assign (self : Variable) (value : Value) : Except AssignmentError Variable :=
  if accepts self.type value then .ok { self with value }
  else .error (.typeMismatch value self.type)

end Variable

end QuerySemantics
