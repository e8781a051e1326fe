import QuerySemantics.Binding.Overload
import QuerySemantics.Binding.Reference

/-!
# Calls

Functions, aggregates and methods. A name refers to a function before it refers to an aggregate.

## Main definitions

* `Binding.call`: binding a call of a function or an aggregate.
* `Binding.countAll`: binding an aggregate over whole rows.
* `Binding.method`: binding a method of a value.
-/

set_option autoImplicit false

namespace QuerySemantics

namespace Binding

/-- The types of parameters. -/
def parameterTypes (parameters : List Parameter) : List SqlType :=
  parameters.map Parameter.type

/-- How an overload is named among the candidates of an ambiguous call. -/
def signature (name : String) (parameters : List Parameter) : String :=
  name ++ "(" ++ Problem.typeNames (parameterTypes parameters) ++ ")"

/-- A symbol for a call whose overloads fit equally well. An argument whose type is not known may be
the reason, and then nothing is reported. -/
def ambiguousCall (span : Span) (name : String) (arguments : List SqlType)
    (candidates : List String) : BindM Symbol := do
  if arguments.any SqlType.isUnknown then badSymbol name
  else unresolved span (.ambiguousOverload name candidates) name

/-! ## Functions and aggregates -/

/-- **Overload of a function** for the arguments, and the type of its result. -/
def overload (span : Span) (name : String) (arguments : List SqlType)
    (functions : List Function) : BindM (Symbol × SqlType) := do
  match Overload.select (fun it => parameterTypes it.parameters) arguments functions with
  | .selected it => return (.function it, it.returns)
  | .ambiguous candidates =>
    let texts := candidates.map fun it => signature it.name it.parameters
    return (← ambiguousCall span name arguments texts, .unknown)
  | .noMatch =>
    return (← unresolved span (.noOverload .function name arguments) name, .unknown)

/-- The result type of an aggregate, which takes exactly one argument. -/
def aggregateResult? (signature : AggregateSignature) : List SqlType → Option SqlType
  | [argument] => signature.returns? argument
  | _ => none

/-- The type of a call of an aggregate. Arguments that it does not accept are reported. -/
def aggregateType (span : Span) (it : Aggregate) (arguments : List SqlType) :
    BindM SqlType := do
  match aggregateResult? it.signature arguments with
  | some type => return type
  | none =>
    report span (.noOverload .aggregate it.name arguments)
    return .unknown

/-- **Binding a call** of a function or an aggregate, with its arguments bound. -/
def call (info : NodeInfo) (ident : Option Token) (arguments : List Bound.Expr) :
    BindM Bound.Expr := do
  match ident with
  | none => missingExpr
  | some token =>
    let name := token.ident
    let types := arguments.map Bound.Expr.type
    let scope ← currentScope
    let cased ← caseSensitive
    match scope.functionsNamed cased name with
    | [] =>
      match scope.aggregate? cased name with
      | some it =>
        return .aggregate (.aggregate it) arguments.head? (← aggregateType info.span it types)
      | none =>
        let symbol ← unresolved token.span (.unresolvedName .function name) name
        return .call symbol arguments .unknown
    | functions =>
      let (symbol, type) ← overload info.span name types functions
      return .call symbol arguments type

/-- The result type of an aggregate over whole rows, if it accepts every argument. -/
def rowResult? : AggregateSignature → Option SqlType
  | .any returns => some returns
  | _ => none

/-- **Binding an aggregate over whole rows.** -/
def countAll (info : NodeInfo) (ident : Option Token) : BindM Bound.Expr := do
  match ident with
  | none => missingExpr
  | some token =>
    let name := token.ident
    match (← currentScope).aggregate? (← caseSensitive) name with
    | none =>
      let symbol ← unresolved token.span (.unresolvedName .aggregate name) name
      return .aggregate symbol none .unknown
    | some it =>
      match rowResult? it.signature with
      | some type => return .aggregate (.aggregate it) none type
      | none =>
        report info.span (.noOverload .aggregate it.name [.object])
        return .aggregate (.aggregate it) none .unknown

/-! ## Methods -/

/-- **Overload of a method** of a type for the arguments. A type that is not known has none, and
nothing is reported about it. -/
def methodNamed (span : Span) (type : SqlType) (token : Token) (arguments : List SqlType) :
    BindM Symbol := do
  let name := token.ident
  if type.isUnknown then badSymbol name
  else
    match Matching.select (← caseSensitive) Method.name name (← methodsOf type) with
    | [] => unresolved token.span (.unresolvedMember type .method name) name
    | candidates =>
      match Overload.select (fun it => parameterTypes it.parameters) arguments candidates with
      | .selected it => return .method it
      | .ambiguous several =>
        ambiguousCall span name arguments
          (several.map fun it => signature it.name it.parameters)
      | .noMatch => unresolved span (.noOverload .method name arguments) name

/-- **Binding a method**, with its target and arguments bound. -/
def method (info : NodeInfo) (ident : Option Token) (target : Bound.Expr)
    (arguments : List Bound.Expr) : BindM Bound.Expr := do
  match ident with
  | none => missingExpr
  | some token =>
    return .method target
      (← methodNamed info.span target.type token (arguments.map Bound.Expr.type)) arguments

end Binding

end QuerySemantics
