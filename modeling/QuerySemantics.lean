import QuerySemantics.Catalog.Sample
import QuerySemantics.Draft.Spacing
import QuerySemantics.Model.Emission
import QuerySemantics.Model.Expectation
import QuerySemantics.Outline.Bound
import QuerySemantics.Outline.Syntax
import QuerySemantics.Proofs.Ast.Parts
import QuerySemantics.Proofs.Binding.Rules
import QuerySemantics.Report.Snippet
import QuerySemantics.Proofs.Scope.Offered
import QuerySemantics.Proofs.Binding.Visit
import QuerySemantics.Proofs.Binding.Traversal
import QuerySemantics.Proofs.Model.Coverage
import QuerySemantics.Proofs.Binding.Lookup
import QuerySemantics.Proofs.Model.OfferedScope
import QuerySemantics.Proofs.Binding.Lexical
import QuerySemantics.Proofs.Model.LexicalScope
import QuerySemantics.Proofs.Catalog.Known
import QuerySemantics.Proofs.Scope.Sound
import QuerySemantics.Proofs.Bound.Sound
import QuerySemantics.Proofs.Ast.Complete
import QuerySemantics.Proofs.Draft.Reading
import QuerySemantics.Proofs.Draft.Whole
import QuerySemantics.Proofs.Binding.Clean
import QuerySemantics.Proofs.Model.Soundness
import QuerySemantics.Proofs.Ast.Alike
import QuerySemantics.Proofs.Ast.AlikeReading
import QuerySemantics.Proofs.Ast.Apart
import QuerySemantics.Proofs.Binding.Hygiene
import QuerySemantics.Proofs.Binding.RemarkRules
import QuerySemantics.Proofs.Binding.Once
import QuerySemantics.Proofs.Binding.Relocation
import QuerySemantics.Proofs.Binding.Wrapping
import QuerySemantics.Proofs.Draft.Enclosed
import QuerySemantics.Proofs.Draft.Wrapping
import QuerySemantics.Proofs.Model.Main
import QuerySemantics.Proofs.Model.RootKind
import QuerySemantics.Proofs.Model.Wrapping
import QuerySemantics.Proofs.Binding.RemarkWalk
import QuerySemantics.Proofs.Model.BoundOnce
import QuerySemantics.Proofs.Model.Shapes
import QuerySemantics.Proofs.Model.Sources
import QuerySemantics.Proofs.Model.SetOperation
import QuerySemantics.Proofs.Model.Limit
import QuerySemantics.Proofs.Model.Trivia
import QuerySemantics.Proofs.Model.Parentheses
import QuerySemantics.Proofs.Model.CrossJoin
import QuerySemantics.Proofs.Catalog.Cache
import QuerySemantics.Proofs.Scope.Naming
import QuerySemantics.Proofs.Ast.Identifiers
import QuerySemantics.Proofs.Bound.Naming
import QuerySemantics.Proofs.Binding.OtherCatalog
import QuerySemantics.Proofs.Binding.OtherCatalogRules
import QuerySemantics.Proofs.Binding.OtherCatalogWalk
import QuerySemantics.Proofs.Model.OtherCatalog
import QuerySemantics.Proofs.Model.CaseMode
import QuerySemantics.Proofs.Model.Members
import QuerySemantics.Proofs.Model.Unmentioned
import QuerySemantics.Proofs.Ast.Licensed
import QuerySemantics.Proofs.Draft.Children
import QuerySemantics.Proofs.Draft.Licensed
import QuerySemantics.Proofs.Model.Hover
import QuerySemantics.Proofs.Binding.Selection
import QuerySemantics.Proofs.Model.Emission
import QuerySemantics.Proofs.Draft.Lowered
import QuerySemantics.Proofs.Value.Order
import QuerySemantics.Proofs.Binding.Added
import QuerySemantics.Proofs.Binding.Branches
import QuerySemantics.Proofs.Bound.Nest
import QuerySemantics.Proofs.Binding.Nest
import QuerySemantics.Proofs.Binding.Filling
import QuerySemantics.Proofs.Binding.Suppression
import QuerySemantics.Proofs.Number.Numeral
import QuerySemantics.Proofs.Binding.Literal
import QuerySemantics.Proofs.Text.Quoted
import QuerySemantics.Proofs.Binding.Qualified
import QuerySemantics.Proofs.Binding.Positions
import QuerySemantics.Proofs.Catalog.Registration
import QuerySemantics.Proofs.Draft.Spacing
import QuerySemantics.Proofs.Value.Decimal
import QuerySemantics.Proofs.Model.FirstIdentity
