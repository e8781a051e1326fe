import QuerySemantics.Binding.Pass

/-!
# References

Names, qualified names, variables and properties.

A name with a qualifier, `a.b`, is a column `b` of the table instance `a` if there is such an
instance. If there is none but the name `a` refers to a value, `b` is a property of that value.

## Main definitions

* `Binding.name`, `Binding.hostVariable`: binding a name and a variable.
* `Binding.qualified`: binding a name with a qualifier that decides what it is.
* `Binding.property`: binding a property of a value.
-/

set_option autoImplicit false

namespace QuerySemantics

/-- The name that an identifier token stands for. -/
def Token.ident (token : Token) : String :=
  Quoted.identifier token.text

/-- The name that an identifier token stands for, with the span of the token. -/
def Token.name (token : Token) : Spanned String :=
  ⟨token.ident, token.span⟩

namespace Binding

/-- Reports a problem with a name and gives a bad symbol of that name. -/
def unresolved (span : Span) (problem : Problem) (name : String) : BindM Symbol := do
  report span problem
  badSymbol name

/-! ## Names and variables -/

/-- **Binding a name.** -/
def name (ident : Option Token) : BindM Bound.Expr := do
  match ident with
  | none => missingExpr
  | some token =>
    let name := token.ident
    match (← currentScope).resolveValue (← caseSensitive) name with
    | .found symbol => return .name symbol
    | .ambiguous candidates =>
      return .name (← unresolved token.span
        (.ambiguousReference name (candidates.map Symbol.candidate)) name)
    | .notFound => return .name (← unresolved token.span (.unresolvedName .column name) name)

/-- **Binding a variable.** The reported place is the whole expression, the at sign included. -/
def hostVariable (info : NodeInfo) (ident : Option Token) : BindM Bound.Expr := do
  match ident with
  | none => missingExpr
  | some token =>
    let name := token.ident
    match (← currentScope).hostVariable? (← caseSensitive) name with
    | some found => return .parameter (.hostVariable found)
    | none =>
      return .parameter
        (← unresolved info.span (.unresolvedName .hostVariable ("@" ++ name)) name)

/-! ## Qualified names -/

/-- The column of a table instance that a name refers to. A missing table has no columns, but that
was reported already. -/
def columnOf (table : TableInstance) (token : Token) : BindM Symbol := do
  let name := token.ident
  match Matching.select (← caseSensitive) InstanceColumn.name name table.columns with
  | [column] => return .instanceColumn table column
  | [] =>
    if table.source.isBad then badSymbol name
    else unresolved token.span (.unresolvedColumn table.name name) name
  | candidates =>
    unresolved token.span (.ambiguousReference name
      (candidates.map fun it => (Symbol.instanceColumn table it).candidate)) name

/-- A property of a qualifier that refers to nothing. -/
def propertyOfBad (info : NodeInfo) (qualifier : String) (span : Span) (problem : Problem)
    (name : String) : BindM Bound.Expr := do
  report span problem
  let target ← recordExpr info (← badName qualifier)
  return .property target (← badSymbol name)

/-- **Binding a qualified name**, where the qualifier `token` of the node `info` decides what it is:
a table instance, several of them, or nothing at all. Gives `none` where the qualifier is a value,
which has to be bound as an expression. -/
def qualified (info : NodeInfo) (token member : Token) : BindM (Option Bound.Expr) := do
  let scope ← currentScope
  let cased ← caseSensitive
  let qualifier := token.ident
  match scope.resolveInstance cased qualifier with
  | .found table =>
    let _ ← recordExpr info (.name (.tableInstance table))
    return some (.name (← columnOf table member))
  | .ambiguous candidates =>
    return some (← propertyOfBad info qualifier token.span
      (.ambiguousReference qualifier (candidates.map TableInstance.name)) member.ident)
  | .notFound =>
    if (scope.resolveValue cased qualifier).isNotFound then
      return some (← propertyOfBad info qualifier token.span
        (.unresolvedName .tableOrColumn qualifier) member.ident)
    else return none

/-- The qualifier of a name, where the target of a property is a bare name. -/
def qualifier? : Ast.Expr → Option (NodeInfo × Token)
  | .name info (some token) => some (info, token)
  | _ => none

/-! ## Properties -/

/-- How a property is named among the candidates of an ambiguous name. -/
def propertyCandidate (it : Property) : String :=
  it.host.name ++ "." ++ it.name

/-- The property of a type that a name refers to. A type that is not known has none, and nothing is
reported about it. -/
def propertyNamed (type : SqlType) (token : Token) : BindM Symbol := do
  let name := token.ident
  if type.isUnknown then badSymbol name
  else
    match Matching.select (← caseSensitive) Property.name name (← propertiesOf type) with
    | [it] => return .property it
    | [] => unresolved token.span (.unresolvedMember type .property name) name
    | candidates =>
      unresolved token.span (.ambiguousReference name (candidates.map propertyCandidate)) name

/-- **Binding a property** of a value. -/
def property (target : Bound.Expr) (token : Token) : BindM Bound.Expr := do
  return .property target (← propertyNamed target.type token)

end Binding

end QuerySemantics
