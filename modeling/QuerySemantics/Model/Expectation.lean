import QuerySemantics.Model.Position
import QuerySemantics.Text.Search

/-!
# Expectations

What a writer of queries expects of a semantic model. Places are named by the text that stands
there: an expression by its text and by how many of that text come before it.

## Main definitions

* `Expectation`: what is expected.
* `Failure`, `Failure.message`: how an expectation fails.
* `Expectation.check`: whether a model meets an expectation.
-/

set_option autoImplicit false

namespace QuerySemantics

/-- A symbol with its kind and identity, as failures show it. -/
def Symbol.identified (symbol : Symbol) : String :=
  symbol.kind.describe ++ "(#" ++ toString symbol.id ++ " " ++ symbol.name ++ ")"

/-! ## Expectations -/

/-- An expression, by its text and the number of expressions with that text before it. -/
structure Occurrence where
  text : String
  nth : Nat := 0
deriving DecidableEq, Repr, Inhabited

/-- What a symbol should be, as far as it matters. -/
structure SymbolShape where
  kind : Option SymbolKind := none
  name : Option String := none
deriving DecidableEq, Repr, Inhabited

/-- **Expectation** of a semantic model. -/
inductive Expectation where
  | noDiagnostics
  | diagnosticCount (count : Nat)
  /-- A diagnostic whose message holds a fragment. -/
  | error (fragment : String)
  /-- A diagnostic of a category, perhaps at a piece of text and with a fragment of its message. -/
  | reports (category : Category) (place fragment : Option String)
  /-- The symbol that an expression refers to, compared with those of other expressions. -/
  | symbolOf (place : Occurrence) (shape : SymbolShape) (type : Option SqlType)
      (sameAs differentFrom : List Occurrence)
  | typeOf (place : Occurrence) (type : Option SqlType)
  | conversionOf (text : String) (conversion : Conversion)
  /-- The symbol that a node declares, perhaps with the names of its columns. -/
  | declaredBy (text : String) (shape : SymbolShape) (columns : Option (List String))
  /-- The names that are visible where a text starts. -/
  | visibleAt (text : String) (included excluded : List String)
  /-- The symbol under the cursor where a text starts. -/
  | hoverAt (text : String) (shape : SymbolShape)
  /-- The output columns of the whole query. -/
  | output (names : List String) (types : Option (List SqlType))

/-! ## Failures -/

/-- **Failure** of an expectation. The displays of all diagnostics come with those that are about
diagnostics. -/
inductive Failure where
  | diagnosticsReported (reported : List String)
  | wrongCount (expected actual : Nat) (reported : List String)
  | errorMissing (fragment : String) (reported : List String)
  | reportMissing (category : Category) (place fragment : Option String) (reported : List String)
  | noExpression (place : Occurrence) (query : String)
  | noDeclaration (text query : String)
  | noOccurrence (text query : String)
  | noSymbol (text : String)
  | nothingToHover (text : String)
  | wrongKind (text : String) (symbol : Symbol) (expected : SymbolKind)
  | wrongName (text : String) (symbol : Symbol) (expected : String)
  | wrongSymbolType (text : String) (actual expected : SqlType)
  | otherSymbol (text : String) (symbol : Symbol) (other : String) (found : Symbol)
  | sameSymbol (text other : String) (symbol : Symbol)
  | unbound (text : String)
  | wrongType (text : String) (actual expected : SqlType)
  | wrongConversion (text : String) (actual : Option Conversion) (expected : Conversion)
  | noTable (text : String)
  | wrongColumns (text : String) (actual expected : List String)
  | notVisible (name text : String) (found : List String)
  | visible (name text : String)
  | emptyTree
  | noQuery (text : String)
  | wrongOutputNames (actual expected : List String)
  | wrongOutputTypes (actual expected : List SqlType)

namespace Failure

/-- A text between single quotes. -/
def quoted (text : String) : String :=
  "'" ++ text ++ "'"

/-- Types between square brackets. -/
def typeListing (types : List SqlType) : String :=
  Quoted.bracketed (types.map SqlType.describe)

/-- A part of a message that need not be there. -/
def part (before : String) (text : Option String) : String :=
  text.elim "" fun it => before ++ quoted it

/-- A conversion that need not be there. -/
def conversionText : Option Conversion → String
  | none => "None"
  | some conversion => "Some(" ++ conversion.describe ++ ")"

/-- **Message** of a failure. -/
def message : Failure → String
  | .diagnosticsReported reported =>
    "Expected no diagnostics, but got " ++ Quoted.listing reported
  | .wrongCount expected actual reported =>
    "Expected " ++ toString expected ++ " diagnostic(s), but got " ++ toString actual ++ ": " ++
      Quoted.listing reported
  | .errorMissing fragment reported =>
    "Expected an error containing " ++ quoted fragment ++ ", but got: " ++ Quoted.listing reported
  | .reportMissing category place fragment reported =>
    "Expected a " ++ category.describe ++ " diagnostic" ++ part " at " place ++
      part " containing " fragment ++ ", but got: " ++ Quoted.listing reported
  | .noExpression place query =>
    "No expression " ++ quoted place.text ++ " (occurrence " ++ toString place.nth ++ ") in " ++
      quoted query
  | .noDeclaration text query => "No declaration " ++ quoted text ++ " in " ++ quoted query
  | .noOccurrence text query => quoted text ++ " does not occur in " ++ quoted query
  | .noSymbol text => "Expression " ++ quoted text ++ " does not refer to a symbol"
  | .nothingToHover text => "Nothing to hover at " ++ quoted text
  | .wrongKind text symbol expected =>
    quoted text ++ " refers to " ++ symbol.identified ++ ", expected kind " ++ expected.describe
  | .wrongName text symbol expected =>
    quoted text ++ " refers to " ++ quoted symbol.name ++ ", expected " ++ quoted expected
  | .wrongSymbolType text actual expected =>
    quoted text ++ " refers to a symbol of type " ++ actual.name ++ ", expected " ++ expected.name
  | .otherSymbol text symbol other found =>
    quoted text ++ " refers to " ++ symbol.identified ++ ", but " ++ quoted other ++
      " refers to " ++ found.identified
  | .sameSymbol text other symbol =>
    quoted text ++ " and " ++ quoted other ++ " both refer to " ++ symbol.identified
  | .unbound text => "Expression " ++ quoted text ++ " is not bound"
  | .wrongType text actual expected =>
    quoted text ++ " has type " ++ actual.name ++ ", expected " ++ expected.name
  | .wrongConversion text actual expected =>
    quoted text ++ " performs " ++ conversionText actual ++ ", expected " ++ expected.describe
  | .noTable text => quoted text ++ " does not declare a table instance"
  | .wrongColumns text actual expected =>
    quoted text ++ " declares columns " ++ Quoted.listing actual ++ ", expected " ++
      Quoted.listing expected
  | .notVisible name text found =>
    "Expected " ++ quoted name ++ " to be visible at " ++ quoted text ++ ", but found " ++
      Quoted.listing found
  | .visible name text =>
    "Expected " ++ quoted name ++ " not to be visible at " ++ quoted text
  | .emptyTree => "The tree has no query"
  | .noQuery text => quoted text ++ " is not a bound query"
  | .wrongOutputNames actual expected =>
    "Query produces columns " ++ Quoted.listing actual ++ ", expected " ++ Quoted.listing expected
  | .wrongOutputTypes actual expected =>
    "Query produces types " ++ typeListing actual ++ ", expected " ++ typeListing expected

end Failure

/-! ## Finding places -/

namespace SemanticModel

/-- The query text of a model. -/
def text (model : SemanticModel) : String :=
  model.analysis.tree.text

/-- The displays of all diagnostics. -/
def displays (model : SemanticModel) : List String :=
  model.diagnostics.map Diagnostic.display

/-- The nodes with a text that pass a test, in preorder. -/
def nodesWith (model : SemanticModel) (text : String) (test : Located → NodeRef → Bool) :
    List NodeRef :=
  model.analysis.tree.root.nodes.filterMap fun part => do
    let node := model.analysis.tree.ref (← part.info?)
    if part.text = text && test part node then some node else none

/-- The expression at an occurrence. -/
def expressionAt (model : SemanticModel) (place : Occurrence) : Except Failure NodeRef :=
  match (model.nodesWith place.text fun part _ => part.piece.expr?.isSome)[place.nth]? with
  | some node => .ok node
  | none => .error (.noExpression place model.text)

/-- What the first node with a text that declares something declares. -/
def declarationAt (model : SemanticModel) (text : String) : Except Failure Symbol :=
  let nodes := model.nodesWith text fun _ node => (model.declared? node).isSome
  match nodes.head?.bind model.declared? with
  | some symbol => .ok symbol
  | none => .error (.noDeclaration text model.text)

/-- Where a text starts. -/
def offsetOf (model : SemanticModel) (text : String) : Except Failure Nat :=
  match Search.offset? text model.text with
  | some offset => .ok offset
  | none => .error (.noOccurrence text model.text)

/-- The symbol that the expression at an occurrence refers to. -/
def symbolOf (model : SemanticModel) (place : Occurrence) : Except Failure Symbol := do
  match model.symbol? (← model.expressionAt place) with
  | some symbol => .ok symbol
  | none => .error (.noSymbol place.text)

end SemanticModel

/-! ## Checking -/

/-- Fails unless a condition holds. -/
def expect (condition : Bool) (failure : Failure) : Except Failure Unit :=
  if condition then .ok () else .error failure

/-- Checks the kind and the name of a symbol, as far as they matter. -/
def SymbolShape.check (shape : SymbolShape) (text : String) (symbol : Symbol) :
    Except Failure Unit := do
  match shape.kind with
  | some kind => expect (symbol.kind == kind) (.wrongKind text symbol kind)
  | none => .ok ()
  match shape.name with
  | some name => expect (symbol.name == name) (.wrongName text symbol name)
  | none => .ok ()

/-- Whether a diagnostic is of a category, covers a piece of the query text, and has a fragment in
its message, as far as these matter. -/
def Diagnostic.fits (diagnostic : Diagnostic) (query : String) (category : Category)
    (place fragment : Option String) : Bool :=
  diagnostic.category == category &&
    place.all (fun text => diagnostic.span.slice query == some text) &&
    fragment.all (Search.contains diagnostic.message)

/-- The first child of the root that is a node, with its text. -/
def SemanticModel.topNode (model : SemanticModel) : Option (NodeRef × String) :=
  model.analysis.tree.root.children.findSome? fun part => do
    return (model.analysis.tree.ref (← part.info?), part.text)

/-- The output columns of the whole query. -/
def SemanticModel.outputColumns (model : SemanticModel) :
    Except Failure (List QueryColumn) := do
  match model.topNode with
  | none => .error .emptyTree
  | some (node, text) =>
    match (model.boundNode? node).bind Bound.Node.query? with
    | some query => .ok query.output
    | none => .error (.noQuery text)

namespace Expectation

/-- **Check** of an expectation. -/
def check (model : SemanticModel) : Expectation → Except Failure Unit
  | .noDiagnostics =>
    expect model.diagnostics.isEmpty (.diagnosticsReported model.displays)
  | .diagnosticCount count =>
    let actual := model.diagnostics.length
    expect (actual == count) (.wrongCount count actual model.displays)
  | .error fragment =>
    expect (model.diagnostics.any fun it => Search.contains it.message fragment)
      (.errorMissing fragment model.displays)
  | .reports category place fragment =>
    expect (model.diagnostics.any (·.fits model.text category place fragment))
      (.reportMissing category place fragment model.displays)
  | .symbolOf place shape type sameAs differentFrom => do
    let symbol ← model.symbolOf place
    shape.check place.text symbol
    match type with
    | some type => expect (symbol.type == type) (.wrongSymbolType place.text symbol.type type)
    | none => .ok ()
    for other in sameAs do
      let found ← model.symbolOf other
      expect (found == symbol) (.otherSymbol place.text symbol other.text found)
    for other in differentFrom do
      let found ← model.symbolOf other
      expect (found != symbol) (.sameSymbol place.text other.text symbol)
  | .typeOf place type => do
    match model.type? (← model.expressionAt place), type with
    | none, _ => .error (.unbound place.text)
    | some actual, some type => expect (actual == type) (.wrongType place.text actual type)
    | some _, none => .ok ()
  | .conversionOf text conversion => do
    let actual := model.conversion? (← model.expressionAt ⟨text, 0⟩)
    expect (actual == some conversion) (.wrongConversion text actual conversion)
  | .declaredBy text shape columns => do
    let symbol ← model.declarationAt text
    shape.check text symbol
    match columns, symbol.tableInstance? with
    | none, _ => .ok ()
    | some _, none => .error (.noTable text)
    | some expected, some table =>
      let actual := table.columns.map InstanceColumn.name
      expect (actual == expected) (.wrongColumns text actual expected)
  | .visibleAt text included excluded => do
    let names := (model.lookupSymbols (← model.offsetOf text)).map Symbol.name
    for name in included do
      expect (names.contains name) (.notVisible name text names)
    for name in excluded do
      expect (!names.contains name) (.visible name text)
  | .hoverAt text shape => do
    match model.symbolAt (← model.offsetOf text) with
    | some symbol => shape.check text symbol
    | none => .error (.nothingToHover text)
  | .output names types => do
    let columns ← model.outputColumns
    let actual := columns.map QueryColumn.name
    expect (actual == names) (.wrongOutputNames actual names)
    match types with
    | some types =>
      let found := columns.map QueryColumn.type
      expect (found == types) (.wrongOutputTypes found types)
    | none => .ok ()

end Expectation

/-- The announcement of a failure for a query. -/
def Failure.announcement (failure : Failure) (query : String) : String :=
  "Expectation failed for " ++ Failure.quoted query ++ ": " ++ failure.message

end QuerySemantics
