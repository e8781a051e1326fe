import QuerySemantics.Binding.Reference

/-!
# Table references

## Main definitions

* `Binding.tableNamed`: the table that a name refers to; tables of a `WITH` come before those of the
  catalog.
* `Binding.namedTable`, `Binding.derivedTable`: binding a table by name and a query in its place.
* `Binding.lateralScope`: what the right side of a join sees.
-/

set_option autoImplicit false

namespace QuerySemantics

namespace Binding

/-- **Table of a name.** -/
def tableNamed (token : Token) : BindM TableSource := do
  let name := token.ident
  let scope ← currentScope
  let cased ← caseSensitive
  match scope.commonTable? cased name with
  | some found => return .common found
  | none =>
    match scope.schemaTable? cased name with
    | some found => return .schema found
    | none =>
      report token.span (.unresolvedName .table name)
      badInstance name

/-- The name that an alias gives, if it has one. -/
def aliasName? (correlation : Option Ast.Alias) : Option String :=
  (correlation.bind Ast.Alias.ident).map Token.ident

/-- **Binding a table by name.** -/
def namedTable (ident : Option Token) (correlation : Option Ast.Alias) :
    BindM Bound.TableRef := do
  match ident with
  | none => missingTable
  | some token =>
    let source ← tableNamed token
    let name := (aliasName? correlation).getD token.ident
    return .named (← supply (TableInstance.create name source))

/-- **Binding a query in place of a table**, with the query bound. -/
def derivedTable (ident : Option Token) (query : Bound.Query) : BindM Bound.TableRef := do
  let name := (ident.map Token.ident).getD ""
  let table ← supply (DerivedTable.create name (QueryColumn.shape query.output))
  return .derived (← supply (TableInstance.create name (.derived table))) query

/-- Whether the right side of a join sees the tables of its left side. -/
def isLateral : JoinKind → Bool
  | .inner | .leftOuter => true
  | .rightOuter | .fullOuter | .cross => false

/-- **Scope of the right side** of a join. -/
def lateralScope (kind : JoinKind) (left : Bound.TableRef) : BindM Scope := do
  if isLateral kind then childScope (.tables left.instances) else currentScope

end Binding

end QuerySemantics
