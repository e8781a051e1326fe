import QuerySemantics.Proofs.Draft.Component
import QuerySemantics.Proofs.Draft.Words

/-!
# What the nodes of drafts show

The typed accessors of a node of a draft show what was written: each finds the reading of the node that a
part was written as, or the token that was written for a name or a word, and finds nothing exactly where
nothing was written.

## Main definitions

* `Draft.Component.Shown`: what the accessors of the node of a component return, form by form.
* `Draft.Component.Shows`: a node that shows a component, whatever blanks are between its children.

## Main results

* `Draft.Component.shows`: the node of every component shows it, if every `CASE` has a label.
-/

set_option autoImplicit false

namespace QuerySemantics

open Element

namespace Draft

namespace Component

/-- **Showing a component.** For a node with the information `info` and the tokens `words`, the component
that it was written for, the readings of the nodes below it in order, and the piece that shows the values
of all its accessors. The readings are those of the parts of the component, so the accessors return just
these, each in its place, and `none` where the component has no such part. -/
inductive Shown (info : NodeInfo) (words : List Token) : Component → List Piece → Piece → Prop where
  | wholeQuery {it : Query} {body : Ast.Query} :
      Shown info words (.whole (.query it)) [.query body] (.unit ⟨info, some body, none⟩)
  | wholeExpr {it : Expr} {value : Ast.Expr} :
      Shown info words (.whole (.expr it)) [.expr value] (.unit ⟨info, none, some value⟩)
  | name {ident : String} {leaf : Token} (word : leaf.Stands words .identifier ident) :
      Shown info words (.expr (.name ident)) [] (.expr (.name info (some leaf)))
  | parameter {ident : String} {leaf : Token} (word : leaf.Stands words .identifier ident) :
      Shown info words (.expr (.parameter ident)) [] (.expr (.parameter info (some leaf)))
  | literal {it : Expr} {kind : Kind} {text : String} {leaf : Token}
      (written : it.element = Draft.literal (.token kind text)) (word : leaf.Stands words kind text) :
      Shown info words (.expr it) [] (.expr (.literal info (some leaf)))
  | parenthesized {grouped : Expr} {value : Ast.Expr} :
      Shown info words (.expr (.parenthesized grouped)) [.expr value]
        (.expr (.parenthesized info (some value)))
  | unary {operator : UnaryOperator} {operand : Expr} {leaf : Token} {value : Ast.Expr}
      (word : leaf.Stands words operator.kind operator.kind.fixedText) :
      Shown info words (.expr (.unary operator operand)) [.expr value]
        (.expr (.unary info (some leaf) (some value)))
  /-- The operator of `NOT LIKE` is its `LIKE`, and it is the only one that is negated. -/
  | binary {left right : Expr} {operator : BinaryOperator} {kind : Kind} {leaf : Token}
      {first second : Ast.Expr} (last : operator.kinds.getLast? = some kind)
      (word : leaf.Stands words kind kind.fixedText) :
      Shown info words (.expr (.binary left operator right)) [.expr first, .expr second]
        (.expr (.binary info (some first) (some leaf) (operator == .notLike) (some second)))
  | property {owner : Expr} {ident : String} {leaf : Token} {value : Ast.Expr}
      (word : leaf.Stands words .identifier ident) :
      Shown info words (.expr (.property owner ident)) [.expr value]
        (.expr (.property info (some value) (some leaf)))
  | method {owner : Expr} {ident : String} {items : List Expr} {leaf : Token} {value : Ast.Expr}
      {list : Ast.Arguments} (word : leaf.Stands words .identifier ident) :
      Shown info words (.expr (.method owner ident items)) [.expr value, .arguments list]
        (.expr (.method info (some value) (some leaf) (some list)))
  | call {ident : String} {items : List Expr} {leaf : Token} {list : Ast.Arguments}
      (word : leaf.Stands words .identifier ident) :
      Shown info words (.expr (.call ident items)) [.arguments list]
        (.expr (.call info (some leaf) (some list)))
  | countAll {leaf : Token} (word : leaf.Stands words .identifier "COUNT") :
      Shown info words (.expr .countAll) [] (.expr (.countAll info (some leaf)))
  | cast {operand : Expr} {ident : String} {value : Ast.Expr} {type : Ast.TypeName} :
      Shown info words (.expr (.cast operand ident)) [.expr value, .typeName type]
        (.expr (.cast info (some value) (some type)))
  | isNull {operand : Expr} {negated : Bool} {value : Ast.Expr} :
      Shown info words (.expr (.isNull operand negated)) [.expr value]
        (.expr (.isNull info (some value) negated))
  | cases {input otherwise : Option Expr} {labels : List CaseLabel} {first last : Option Ast.Expr}
      {tests : List Ast.CaseLabel} (operand : first.isSome = input.isSome)
      (ending : last.isSome = otherwise.isSome) :
      Shown info words (.expr (.cases input labels otherwise))
        (first.toList.map .expr ++ tests.map .caseLabel ++ last.toList.map .expr)
        (.expr (.cases info first tests last))
  | subselect {it : Query} {body : Ast.Query} :
      Shown info words (.expr (.subselect it)) [.query body] (.expr (.subselect info (some body)))
  | existence {it : Query} {body : Ast.Query} :
      Shown info words (.expr (.existence it)) [.query body] (.expr (.existence info (some body)))
  | quantified {left : Expr} {operator : Comparison} {quantifier : Quantifier} {it : Query} {kind : Kind}
      {leaf : Token} {value : Ast.Expr} {body : Ast.Query} (only : operator.1.kinds = [kind])
      (word : leaf.Stands words kind kind.fixedText) :
      Shown info words (.expr (.quantified left operator quantifier it)) [.expr value, .query body]
        (.expr (.quantified info (some value) (some leaf) quantifier (some body)))
  | arguments {items : List Expr} {values : List Ast.Expr} :
      Shown info words (.arguments items) (values.map .expr) (.arguments (.mk info values))
  | target {ident : String} {leaf : Token} (word : leaf.Stands words .identifier ident) :
      Shown info words (.target ident) [] (.typeName ⟨info, some leaf⟩)
  | label {test result : Expr} {first second : Ast.Expr} :
      Shown info words (.label (.mk test result)) [.expr first, .expr second]
        (.caseLabel (.mk info (some first) (some second)))
  | condition {place : Place} {it : Expr} {value : Ast.Expr} :
      Shown info words (.condition place it) [.expr value] (.condition (.mk info (some value)))
  | named {introduced : Bool} {ident : String} {leaf : Token}
      (word : leaf.Stands words .identifier ident) :
      Shown info words (.named introduced ident) [] (.aliasClause ⟨info, some leaf⟩)
  | value {it : Expr} {ident : Option String} {value : Ast.Expr} {correlation : Option Ast.Alias}
      (given : correlation.isSome = ident.isSome) :
      Shown info words (.column (.value it ident)) (.expr value :: correlation.toList.map .aliasClause)
        (.selectItem (.column info (some value) correlation))
  | star : Shown info words (.column .star) [] (.selectItem (.wildcard info none))
  | starOf {ident : String} {leaf : Token} (word : leaf.Stands words .identifier ident) :
      Shown info words (.column (.starOf ident)) [] (.selectItem (.wildcard info (some leaf)))
  | byName {ident : String} {label : Option String} {leaf : Token} {correlation : Option Ast.Alias}
      (given : correlation.isSome = label.isSome) (word : leaf.Stands words .identifier ident) :
      Shown info words (.table (.byName ident label)) (correlation.toList.map .aliasClause)
        (.table (.named info (some leaf) correlation))
  | derived {it : Query} {ident : String} {leaf : Token} {body : Ast.Query}
      (word : leaf.Stands words .identifier ident) :
      Shown info words (.table (.derived it ident)) [.query body]
        (.table (.derived info (some body) (some leaf)))
  | joined {left right : Table} {kind : JoinKind} {test : Option Expr} {first second : Ast.TableRef}
      {clause : Option Ast.Condition} (given : clause.isSome = test.isSome) :
      Shown info words (.table (.joined left kind right test))
        (.table first :: .table second :: clause.toList.map .condition)
        (.table (.joined info (some first) kind (some second) clause))
  | parenthesizedTable {grouped : Table} {value : Ast.TableRef} :
      Shown info words (.table (.parenthesized grouped)) [.table value]
        (.table (.parenthesized info (some value)))
  | head {distinct : Bool} {top : Option Limit} {columns : List Column} {most : Option Ast.Top}
      {items : List Ast.SelectItem} (given : most.isSome = top.isSome) :
      Shown info words (.head distinct top columns) (most.toList.map .top ++ items.map .selectItem)
        (.selectClause (.mk info distinct most items))
  | limit {it : Limit} {leaf : Token} (word : leaf.Stands words .numericLiteral it.text) :
      Shown info words (.limit it) [] (.top ⟨info, some leaf, it.withTies⟩)
  | source {tables : List Table} {items : List Ast.TableRef} :
      Shown info words (.source tables) (items.map .table) (.fromClause (.mk info items))
  | grouping {keys : List Expr} {values : List Ast.Expr} :
      Shown info words (.grouping keys) (values.map .expr) (.groupBy (.mk info values))
  | select {distinct : Bool} {top : Option Limit} {columns : List Column} {tables : List Table}
      {filter having : Option Expr} {grouping : List Expr} {head : Ast.SelectClause}
      {source : Option Ast.FromClause} {test check : Option Ast.Condition}
      {keys : Option Ast.GroupByClause} (sourced : source.isSome = !tables.isEmpty)
      (filtered : test.isSome = filter.isSome) (grouped : keys.isSome = !grouping.isEmpty)
      (checked : check.isSome = having.isSome) :
      Shown info words (.query (.select distinct top columns tables filter grouping having))
        (.selectClause head :: source.toList.map .fromClause ++ test.toList.map .condition ++
          keys.toList.map .groupBy ++ check.toList.map .condition)
        (.query (.select info (some head) source test keys check))
  | combined {left right : Query} {operator : SetOperator} {first second : Ast.Query} :
      Shown info words (.query (.combined left operator right)) [.query first, .query second]
        (.query (.combined info (some first) (some operator) (some second)))
  | ordered {input : Query} {keys : List OrderItem} {body : Ast.Query} {items : List Ast.OrderItem} :
      Shown info words (.query (.ordered input keys)) (.query body :: items.map .orderItem)
        (.query (.ordered info (some body) items))
  | withTables {definitions : List Definition} {it : Query} {body : Ast.Query}
      {tables : List Ast.CommonTable} :
      Shown info words (.query (.withTables definitions it)) (tables.map .commonTable ++ [.query body])
        (.query (.withTables info tables (some body)))
  | parenthesizedQuery {grouped : Query} {body : Ast.Query} :
      Shown info words (.query (.parenthesized grouped)) [.query body]
        (.query (.parenthesized info (some body)))
  | orderItem {key : Expr} {direction : Direction} {value : Ast.Expr} :
      Shown info words (.orderItem (.mk key direction)) [.expr value]
        (.orderItem (.mk info (some value) (direction == .descending)))
  | definition {ident : String} {idents : Option (List String)} {it : Query} {leaf : Token}
      {names : Option Ast.ColumnNames} {body : Ast.Query} (given : names.isSome = idents.isSome)
      (word : leaf.Stands words .identifier ident) :
      Shown info words (.definition (.mk ident idents it)) (names.toList.map .columnNames ++ [.query body])
        (.commonTable (.mk info (some leaf) names (some body)))
  | columnNames {idents : List String} {leaves : List Token}
      (all : List.Forall₂ (fun ident leaf => leaf.Stands words .identifier ident) idents leaves) :
      Shown info words (.columnNames idents) [] (.columnNames ⟨info, leaves⟩)

/-- **A node shows a component** that it is written for, whatever blanks are put between its children. -/
def Shows (it : Component) (kind : Kind) (children : List Element) : Prop :=
  ∀ info parts, info.kind = kind → ReadsAll children (Located.pieces parts) →
    parts.Pairwise Located.Precedes →
      it.Shown info (Piece.words (Located.pieces parts)) (Piece.inner (Located.pieces parts))
        (Piece.ofNode info (Located.pieces parts))

/-- A node shows a component if it does wherever its children stand. -/
theorem Shows.plain {it : Component} {kind : Kind} {children : List Element}
    (h : ∀ info pieces, info.kind = kind → ReadsAll children pieces →
      it.Shown info (Piece.words pieces) (Piece.inner pieces) (Piece.ofNode info pieces)) :
    it.Shows kind children :=
  fun info _ hinfo hreads _ => h info _ hinfo hreads

/-! ## Nodes with a word only -/

/-- A node of a name shows the name. -/
theorem shows_name (ident : String) : Shows (.expr (.name ident)) .nameExpression [.identifier ident] := by
  refine .plain fun info pieces hinfo hreads => ?_
  obtain ⟨leaf, hleaf, word⟩ := hreads.tokenOf?_stands .identifier ident (by decide) (by simp)
  have below : Piece.inner pieces = [] := hreads.inner_nil rfl
  simp only [Piece.ofNode, hinfo, below, hleaf]
  exact .name word

/-- A parameter. -/
theorem shows_parameter (ident : String) :
    Shows (.expr (.parameter ident)) .variableExpression [.fixed .atSign, .identifier ident] := by
  refine .plain fun info pieces hinfo hreads => ?_
  obtain ⟨leaf, hleaf, word⟩ := hreads.tokenOf?_stands .identifier ident (by decide) (by simp)
  have below : Piece.inner pieces = [] := hreads.inner_nil rfl
  simp only [Piece.ofNode, hinfo, below, hleaf]
  exact .parameter word

/-- A literal, of whatever kind. -/
theorem shows_literal {it : Expr} {kind : Kind} {text : String}
    (hit : it.element = literal (.token kind text)) (hkind : kind.isTrivia = false) :
    Shows (.expr it) .literalExpression [.token kind text] := by
  refine .plain fun info pieces hinfo hreads => ?_
  obtain ⟨leaf, hleaf, word⟩ := hreads.leadingToken?_stands kind text (by simp [hkind])
  have below : Piece.inner pieces = [] := hreads.inner_nil rfl
  simp only [Piece.ofNode, hinfo, below, hleaf]
  exact .literal hit word

/-- A unary operator and its operand. -/
theorem shows_unary (operator : UnaryOperator) (operand : Expr) :
    Shows (.expr (.unary operator operand)) .unaryExpression [.fixed operator.kind, operand.element] := by
  refine .plain fun info pieces hinfo hreads => ?_
  obtain ⟨leaf, hleaf, word⟩ := hreads.leadingToken?_stands operator.kind operator.kind.fixedText
    (by cases operator <;> simp [UnaryOperator.kind, Kind.isTrivia])
  obtain ⟨value, below, hvalue⟩ := expr_read operand (by simp) hreads
  simp only [Piece.ofNode, hinfo, below, hleaf, hvalue]
  exact .unary word

/-- A binary operator between its operands, of one word or of several. -/
theorem shows_binary (left : Expr) (operator : BinaryOperator) (right : Expr) :
    Shows (.expr (.binary left operator right)) .binaryExpression
      (left.element :: words operator.kinds ++ [right.element]) := by
  refine .plain fun info pieces hinfo hreads => ?_
  -- the last word of an operator is also the first that is no `NOT`: they differ in `NOT LIKE` only
  obtain ⟨kind, hlast, hfirst⟩ : ∃ kind, operator.kinds.getLast? = some kind ∧
      operator.kinds.find? (fun kind => !kind.isTrivia && kind != .notKeyword) = some kind := by
    cases operator <;> exact ⟨_, rfl, rfl⟩
  obtain ⟨leaf, hleaf, word⟩ := hreads.infixToken?_stands kind kind.fixedText
    (by simp [List.head?_filter, hfirst])
  have hnegated : Piece.hasToken .notKeyword pieces = (operator == .notLike) := by
    rw [hreads.hasToken_eq .notKeyword (by decide)]
    cases operator <;> simp [BinaryOperator.kinds]
  obtain ⟨first, second, below, hleft, hright⟩ := exprs_read left right (by simp) hreads
  simp only [Piece.ofNode, hinfo, below, hleaf, hleft, hright, hnegated]
  exact .binary hlast word

/-- An expression in parentheses. -/
theorem shows_parenthesized (grouped : Expr) :
    Shows (.expr (.parenthesized grouped)) .parenthesizedExpression (enclosed [grouped.element]) := by
  refine .plain fun info pieces hinfo hreads => ?_
  obtain ⟨value, below, hvalue⟩ := expr_read grouped (by simp) hreads
  simp only [Piece.ofNode, hinfo, below, hvalue]
  exact .parenthesized

/-- A property of an expression. -/
theorem shows_property (owner : Expr) (ident : String) :
    Shows (.expr (.property owner ident)) .propertyAccessExpression
      [owner.element, .fixed .dot, .identifier ident] := by
  refine .plain fun info pieces hinfo hreads => ?_
  obtain ⟨leaf, hleaf, word⟩ := hreads.tokenOf?_stands .identifier ident (by decide) (by simp)
  obtain ⟨value, below, hvalue⟩ := expr_read owner (by simp) hreads
  simp only [Piece.ofNode, hinfo, below, hleaf, hvalue]
  exact .property word

/-- A method of an expression, with arguments. -/
theorem shows_method (owner : Expr) (ident : String) (items : List Expr) (children : List Element) :
    Shows (.expr (.method owner ident items)) .methodInvocationExpression
      [owner.element, .fixed .dot, .identifier ident, .node .argumentList children] := by
  refine .plain fun info pieces hinfo hreads => ?_
  obtain ⟨leaf, hleaf, word⟩ := hreads.tokenOf?_stands .identifier ident (by decide) (by simp)
  obtain ⟨value, list, below⟩ := hreads.inner_pair (by simp) owner.isRead (isRead_arguments children)
  have hvalue : Piece.expression? pieces = some value := Piece.expression?_of_inner below
  have hlist : pieces.findSome? Piece.arguments? = some list :=
    Piece.findSome?_of_inner below fun _ => rfl
  simp only [Piece.ofNode, hinfo, below, hleaf, hvalue, hlist]
  exact .method word

/-- A call with arguments. -/
theorem shows_call (ident : String) (items : List Expr) (children : List Element) :
    Shows (.expr (.call ident items)) .functionInvocationExpression
      [.identifier ident, .node .argumentList children] := by
  refine .plain fun info pieces hinfo hreads => ?_
  obtain ⟨leaf, hleaf, word⟩ := hreads.tokenOf?_stands .identifier ident (by decide) (by simp)
  obtain ⟨list, below⟩ := hreads.inner_single (by simp) (isRead_arguments children)
  have hlist : pieces.findSome? Piece.arguments? = some list :=
    Piece.findSome?_of_inner below fun _ => rfl
  simp only [Piece.ofNode, hinfo, below, hleaf, hlist]
  exact .call word

/-- A count of rows. -/
theorem shows_countAll : Shows (.expr .countAll) .countAllExpression
    (.identifier "COUNT" :: enclosed [.fixed .star]) := by
  refine .plain fun info pieces hinfo hreads => ?_
  obtain ⟨leaf, hleaf, word⟩ := hreads.tokenOf?_stands .identifier "COUNT" (by decide) (by simp)
  have below : Piece.inner pieces = [] := hreads.inner_nil rfl
  simp only [Piece.ofNode, hinfo, below, hleaf]
  exact .countAll word

/-- A conversion. -/
theorem shows_cast (operand : Expr) (ident : String) (children : List Element) :
    Shows (.expr (.cast operand ident)) .castExpression (.fixed .castKeyword :: enclosed
      [operand.element, .fixed .asKeyword, .node .typeReference children]) := by
  refine .plain fun info pieces hinfo hreads => ?_
  obtain ⟨value, type, below⟩ := hreads.inner_pair (by simp) operand.isRead (isRead_typeName children)
  have hvalue : Piece.expression? pieces = some value := Piece.expression?_of_inner below
  have htype : pieces.findSome? Piece.typeName? = some type :=
    Piece.findSome?_of_inner below fun _ => rfl
  simp only [Piece.ofNode, hinfo, below, hvalue, htype]
  exact .cast

/-- A test for `NULL`, or for anything else. -/
theorem shows_isNull (operand : Expr) (negated : Bool) :
    Shows (.expr (.isNull operand negated)) .isNullExpression (operand.element :: words
      (if negated then [.isKeyword, .notKeyword, .nullKeyword] else [.isKeyword, .nullKeyword])) := by
  refine .plain fun info pieces hinfo hreads => ?_
  have hnegated : Piece.hasToken .notKeyword pieces = negated := by
    rw [hreads.hasToken_eq .notKeyword (by decide)]
    cases negated <;> simp
  obtain ⟨value, below, hvalue⟩ := expr_read operand (by simp) hreads
  simp only [Piece.ofNode, hinfo, below, hvalue, hnegated]
  exact .isNull

/-- A subselect that stands for a value. -/
theorem shows_subselect (it : Query) :
    Shows (.expr (.subselect it)) .singleRowSubselect (enclosed [it.element]) := by
  refine .plain fun info pieces hinfo hreads => ?_
  obtain ⟨body, below, hbody⟩ := query_read it (by simp) hreads
  simp only [Piece.ofNode, hinfo, below, hbody]
  exact .subselect

/-- A test for rows. -/
theorem shows_existence (it : Query) :
    Shows (.expr (.existence it)) .existsSubselect (.fixed .existsKeyword :: enclosed [it.element]) := by
  refine .plain fun info pieces hinfo hreads => ?_
  obtain ⟨body, below, hbody⟩ := query_read it (by simp) hreads
  simp only [Piece.ofNode, hinfo, below, hbody]
  exact .existence

/-- A quantified comparison. -/
theorem shows_quantified (left : Expr) (operator : Comparison) (quantifier : Quantifier) (it : Query) :
    Shows (.expr (.quantified left operator quantifier it)) .allAnySubselect
      (left.element :: words (operator.1.kinds ++ [quantifier.kind]) ++ enclosed [it.element]) := by
  refine .plain fun info pieces hinfo hreads => ?_
  obtain ⟨kind, only, htrivia, hall⟩ : ∃ kind, operator.1.kinds = [kind] ∧ kind.isTrivia = false ∧
      kind ≠ .allKeyword := by
    obtain ⟨operator, hcomparison⟩ := operator
    cases operator <;> first | exact ⟨_, rfl, rfl, by decide⟩ | cases hcomparison
  obtain ⟨leaf, hleaf, word⟩ := hreads.leadingToken?_stands kind kind.fixedText
    (by simp [only, htrivia])
  have hquantifier : (if Piece.hasToken .allKeyword pieces then Quantifier.all else .any) = quantifier := by
    rw [hreads.hasToken_eq .allKeyword (by decide)]
    cases quantifier <;> simp [only, hall, Quantifier.kind]
  obtain ⟨value, body, below⟩ := hreads.inner_pair (by simp) left.isRead it.isRead
  have hvalue : Piece.expression? pieces = some value := Piece.expression?_of_inner below
  have hbody : pieces.findSome? Piece.query? = some body := Piece.findSome?_of_inner below fun _ => rfl
  simp only [Piece.ofNode, hinfo, below, hleaf, hvalue, hbody, hquantifier]
  exact .quantified only word

/-- A list of arguments. -/
theorem shows_arguments (items : List Expr) :
    Shows (.arguments items) .argumentList (enclosed (separated (exprElements items))) := by
  refine .plain fun info pieces hinfo hreads => ?_
  obtain ⟨values, below, hvalues⟩ := (exprElements_read items).found Piece.expr? (fun _ => rfl) (fun _ => rfl)
    (by simp [(exprElements_read items).inner]) hreads
  simp only [Piece.ofNode, hinfo, below, hvalues]
  exact .arguments

/-- The type of a conversion. -/
theorem shows_target (ident : String) : Shows (.target ident) .typeReference [.identifier ident] := by
  refine .plain fun info pieces hinfo hreads => ?_
  obtain ⟨leaf, hleaf, word⟩ := hreads.tokenOf?_stands .identifier ident (by decide) (by simp)
  have below : Piece.inner pieces = [] := hreads.inner_nil rfl
  simp only [Piece.ofNode, hinfo, below, hleaf]
  exact .target word

/-- A label of a `CASE`. -/
theorem shows_label (test result : Expr) : Shows (.label (.mk test result)) .caseLabel
    [.fixed .whenKeyword, test.element, .fixed .thenKeyword, result.element] := by
  refine .plain fun info pieces hinfo hreads => ?_
  obtain ⟨first, second, below, hfirst, hsecond⟩ := exprs_read test result (by simp) hreads
  simp only [Piece.ofNode, hinfo, below, hfirst, hsecond]
  exact .label

/-- A condition in its clause. -/
theorem shows_condition (place : Place) (it : Expr) :
    Shows (.condition place it) place.kind [.fixed place.word, it.element] := by
  refine .plain fun info pieces hinfo hreads => ?_
  obtain ⟨value, below, hvalue⟩ := expr_read it (by simp) hreads
  have hnode : Piece.ofNode info pieces = .condition (.mk info (some value)) := by
    cases place <;> simp only [Place.kind] at hinfo <;> simp only [Piece.ofNode, hinfo, hvalue]
  rw [hnode, below]
  exact .condition

/-- A labelled `CASE` lists labels. -/
theorem labels_ne_nil {input otherwise : Option Expr} {labels : List CaseLabel}
    (h : (Expr.cases input labels otherwise).element.isLabelled = true) : labels ≠ [] := by
  rintro rfl
  have hexpr : ∀ it : Expr, isLabel it.element = false := by
    intro it
    cases it <;> rfl
  have hfixed : ∀ kind, isLabel (.fixed kind) = false := fun _ => rfl
  cases input <;> cases otherwise <;>
    simp [Expr.element, isLabelled, labelElements, clauseIfAny, words, hexpr, hfixed] at h

/-- A `CASE` with at least one label: without, its `ELSE` would be read as the operand. -/
theorem shows_cases (input : Option Expr) (labels : List CaseLabel) (otherwise : Option Expr)
    (hlabels : labels ≠ []) : Shows (.expr (.cases input labels otherwise)) .caseExpression
      (.fixed .caseKeyword :: clauseIfAny [] input ++ labelElements labels ++
        clauseIfAny [.elseKeyword] otherwise ++ words [.endKeyword]) := by
  intro info parts hinfo hreads hplaced
  obtain ⟨first, last, tests, below, operand, hlength, ending, htests, helse⟩ :=
    cases_read hreads hplaced
  -- without labels, an expression behind `ELSE` would be taken for the operand
  have htests' : tests ≠ [] := by
    rw [← List.length_pos_iff, hlength]
    exact List.length_pos_iff.2 hlabels
  have hinput : Piece.caseInput? (Located.pieces parts) = first := caseInput?_of_inner below (.inr htests')
  simp only [Piece.ofNode, hinfo, below, hinput, htests, helse]
  exact .cases operand ending

/-! ## Names of columns and tables -/

/-- A name that a table or a column is given. -/
theorem shows_named (introduced : Bool) (ident : String) : Shows (.named introduced ident) .aliasClause
    (words (if introduced then [.asKeyword] else []) ++ [.identifier ident]) := by
  refine .plain fun info pieces hinfo hreads => ?_
  obtain ⟨leaf, hleaf, word⟩ := hreads.tokenOf?_stands .identifier ident (by decide)
    (by cases introduced <;> simp)
  have below : Piece.inner pieces = [] :=
    hreads.inner_nil (by cases introduced <;> simp)
  simp only [Piece.ofNode, hinfo, below, hleaf]
  exact .named word

/-- A list of column names. -/
theorem shows_columnNames (idents : List String) : Shows (.columnNames idents) .columnNameList
    (enclosed (separated (idents.map .identifier))) := by
  refine .plain fun info pieces hinfo hreads => ?_
  have hstands := @ReadsAll.stands _ _ (· == .identifier) hreads rfl
  have hspelled : spelled (· == .identifier) (enclosed (separated (idents.map .identifier))) =
      idents.map (Kind.identifier, ·) := by
    rw [spelled_enclosed rfl rfl, spelled_separated rfl, spelled_identifiers rfl]
  rw [hspelled, List.forall₂_map_left_iff] at hstands
  have below : Piece.inner pieces = [] := hreads.inner_nil (by simp [inner_identifiers])
  simp only [Piece.ofNode, hinfo, below]
  exact .columnNames hstands

/-! ## Select lists -/

/-- An entry of a select list without a name. -/
theorem shows_value (it : Expr) :
    Shows (.column (.value it none)) .expressionSelectColumn [it.element] := by
  refine .plain fun info pieces hinfo hreads => ?_
  obtain ⟨value, below, hvalue⟩ := expr_read it (by simp) hreads
  have hnone : pieces.findSome? Piece.alias? = none := Piece.findSome?_of_inner below fun _ => rfl
  simp only [Piece.ofNode, hinfo, below, hvalue, hnone]
  exact @Shown.value info _ it none value none rfl

/-- An entry of a select list with a name. -/
theorem shows_aliased (it : Expr) (ident : String) (children : List Element) :
    Shows (.column (.value it (some ident))) .expressionSelectColumn
      [it.element, .node .aliasClause children] := by
  refine .plain fun info pieces hinfo hreads => ?_
  obtain ⟨value, correlation, below⟩ :=
    hreads.inner_pair (by simp) it.isRead (isRead_alias children)
  have hvalue : Piece.expression? pieces = some value := Piece.expression?_of_inner below
  have halias : pieces.findSome? Piece.alias? = some correlation :=
    Piece.findSome?_of_inner below fun _ => rfl
  simp only [Piece.ofNode, hinfo, below, hvalue, halias]
  exact @Shown.value info _ it (some ident) value (some correlation) rfl

/-- A wildcard for all tables. -/
theorem shows_star : Shows (.column .star) .wildcardSelectColumn [.fixed .star] := by
  refine .plain fun info pieces hinfo hreads => ?_
  have hnone : Piece.tokenOf? .identifier pieces = none := by
    have htoken := hreads.hasToken_eq .identifier (by decide)
    simpa [Piece.hasToken] using htoken
  have below : Piece.inner pieces = [] := hreads.inner_nil rfl
  simp only [Piece.ofNode, hinfo, below, hnone]
  exact .star

/-- A wildcard for one table. -/
theorem shows_starOf (ident : String) : Shows (.column (.starOf ident)) .wildcardSelectColumn
    [.identifier ident, .fixed .dot, .fixed .star] := by
  refine .plain fun info pieces hinfo hreads => ?_
  obtain ⟨leaf, hleaf, word⟩ := hreads.tokenOf?_stands .identifier ident (by decide) (by simp)
  have below : Piece.inner pieces = [] := hreads.inner_nil rfl
  simp only [Piece.ofNode, hinfo, below, hleaf]
  exact .starOf word

/-- A row limit. -/
theorem shows_limit (it : Limit) : Shows (.limit it) .topClause
    (.fixed .topKeyword :: .token .numericLiteral it.text ::
      (if it.withTies then words [.withKeyword, .tiesKeyword] else [])) := by
  refine .plain fun info pieces hinfo hreads => ?_
  obtain ⟨leaf, hleaf, word⟩ := hreads.tokenOf?_stands .numericLiteral it.text (by decide)
    (by cases it.withTies <;> simp)
  have hties : Piece.hasToken .tiesKeyword pieces = it.withTies := by
    rw [hreads.hasToken_eq .tiesKeyword (by decide)]
    cases it.withTies <;> simp
  have below : Piece.inner pieces = [] := hreads.inner_nil (by cases it.withTies <;> simp)
  simp only [Piece.ofNode, hinfo, below, hleaf, hties]
  exact .limit word

/-- A select list with what stands before it. -/
theorem shows_head (distinct : Bool) (top : Option Limit) (columns : List Column) :
    Shows (.head distinct top columns) .selectClause (words (if distinct then
      [.selectKeyword, .distinctKeyword] else [.selectKeyword]) ++ top.toList.map limitElement ++
        separated (columnElements columns)) := by
  refine .plain fun info pieces hinfo hreads => ?_
  have hlimit : spelled (· == .distinctKeyword) (top.toList.map limitElement) = [] := by
    cases top <;> rfl
  have hcolumns : spelled (· == .distinctKeyword) (columnElements columns) = [] :=
    spelled_nodes fun element helement => (columnElements_read columns element helement).1
  have hdistinct : Piece.hasToken .distinctKeyword pieces = distinct := by
    rw [hreads.hasToken_eq .distinctKeyword (by decide)]
    cases distinct <;> simp [hlimit, hcolumns]
  obtain ⟨most, items, below, given, hmost, hitems⟩ := selectClause_read hreads
  simp only [Piece.ofNode, hinfo, below, hdistinct, hmost, hitems]
  exact .head given

/-! ## Table references -/

/-- A table without a name of its own. -/
theorem shows_byName (ident : String) :
    Shows (.table (.byName ident none)) .namedTableReference [.identifier ident] := by
  refine .plain fun info pieces hinfo hreads => ?_
  obtain ⟨leaf, hleaf, word⟩ := hreads.tokenOf?_stands .identifier ident (by decide) (by simp)
  have below : Piece.inner pieces = [] := hreads.inner_nil rfl
  have hnone : pieces.findSome? Piece.alias? = none := Piece.findSome?_of_inner below fun _ => rfl
  simp only [Piece.ofNode, hinfo, below, hleaf, hnone]
  exact @Shown.byName info _ ident none leaf none rfl word

/-- A table with a name of its own. -/
theorem shows_labelled (ident label : String) (children : List Element) :
    Shows (.table (.byName ident (some label))) .namedTableReference
      [.identifier ident, .node .aliasClause children] := by
  refine .plain fun info pieces hinfo hreads => ?_
  obtain ⟨leaf, hleaf, word⟩ := hreads.tokenOf?_stands .identifier ident (by decide) (by simp)
  obtain ⟨correlation, below⟩ := hreads.inner_single (by simp) (isRead_alias children)
  have halias : pieces.findSome? Piece.alias? = some correlation :=
    Piece.findSome?_of_inner below fun _ => rfl
  simp only [Piece.ofNode, hinfo, below, hleaf, halias]
  exact @Shown.byName info _ ident (some label) leaf (some correlation) rfl word

/-- A derived table. -/
theorem shows_derived (it : Query) (ident : String) : Shows (.table (.derived it ident))
    .derivedTableReference
    (enclosed [it.element] ++ [Element.fixed .asKeyword, Element.identifier ident]) := by
  refine .plain fun info pieces hinfo hreads => ?_
  obtain ⟨leaf, hleaf, word⟩ := hreads.tokenOf?_stands .identifier ident (by decide) (by simp)
  obtain ⟨body, below, hbody⟩ := query_read it (by simp) hreads
  simp only [Piece.ofNode, hinfo, below, hleaf, hbody]
  exact .derived word

/-- A join, with or without a condition. -/
theorem shows_joined (left : Table) (kind : JoinKind) (right : Table) (test : Option Expr) :
    Shows (.table (.joined left kind right test)) .joinedTableReference
      (left.element :: words kind.kinds ++
        right.element :: conditionElements .joinCondition .onKeyword test) := by
  refine .plain fun info pieces hinfo hreads => ?_
  obtain ⟨first, second, clause, below, given, hfirst, hsecond, hclause⟩ := joined_read hreads
  -- the words of the condition are its own, so those of the join tell its kind
  have htest : ∀ pass, spelled pass (conditionElements .joinCondition .onKeyword test) = [] := by
    intro pass
    cases test <;> rfl
  have hkind : Piece.joinKind pieces = kind := by
    cases kind <;> simp [Piece.joinKind, hreads.hasToken_eq, htest, JoinKind.kinds]
  simp only [Piece.ofNode, hinfo, below, hfirst, hsecond, hclause, hkind]
  exact .joined given

/-- A table reference in parentheses. -/
theorem shows_parenthesizedTable (grouped : Table) : Shows (.table (.parenthesized grouped))
    .parenthesizedTableReference (enclosed [grouped.element]) := by
  refine .plain fun info pieces hinfo hreads => ?_
  obtain ⟨value, below⟩ := hreads.inner_single (by simp) grouped.isRead
  have hvalue : pieces.findSome? Piece.table? = some value := Piece.findSome?_of_inner below fun _ => rfl
  simp only [Piece.ofNode, hinfo, below, hvalue]
  exact .parenthesizedTable

/-! ## Queries -/

/-- A `FROM` clause. -/
theorem shows_source (tables : List Table) : Shows (.source tables) .fromClause
    (words [.fromKeyword] ++ separated (tableElements tables)) := by
  refine .plain fun info pieces hinfo hreads => ?_
  obtain ⟨items, below, hitems⟩ := (tableElements_read tables).found Piece.table? (fun _ => rfl) (fun _ => rfl)
    (by simp [(tableElements_read tables).inner]) hreads
  simp only [Piece.ofNode, hinfo, below, hitems]
  exact .source

/-- A `GROUP BY` clause. -/
theorem shows_grouping (keys : List Expr) : Shows (.grouping keys) .groupByClause
    (words [.groupKeyword, .byKeyword] ++ separated (exprElements keys)) := by
  refine .plain fun info pieces hinfo hreads => ?_
  obtain ⟨values, below, hvalues⟩ := (exprElements_read keys).found Piece.expr? (fun _ => rfl) (fun _ => rfl)
    (by simp [(exprElements_read keys).inner]) hreads
  simp only [Piece.ofNode, hinfo, below, hvalues]
  exact .grouping

/-- A `SELECT` with its clauses. -/
theorem shows_select (distinct : Bool) (top : Option Limit) (columns : List Column) (tables : List Table)
    (filter : Option Expr) (grouping : List Expr) (having : Option Expr) (children : List Element) :
    Shows (.query (.select distinct top columns tables filter grouping having)) .selectQuery
      (.node .selectClause children :: clauseElements .fromClause [.fromKeyword] (tableElements tables) ++
        conditionElements .whereClause .whereKeyword filter ++
        clauseElements .groupByClause [.groupKeyword, .byKeyword] (exprElements grouping) ++
        conditionElements .havingClause .havingKeyword having) := by
  refine .plain fun info pieces hinfo hreads => ?_
  obtain ⟨head, source, test, keys, check, below, sourced, filtered, grouped, checked, hread⟩ :=
    select_read hinfo hreads
  rw [hread, below]
  exact .select sourced filtered grouped checked

/-- A set operation. -/
theorem shows_combined (left right : Query) (operator : SetOperator) :
    Shows (.query (.combined left operator right)) .combinedQuery
      (left.element :: words operator.kinds ++ [right.element]) := by
  refine .plain fun info pieces hinfo hreads => ?_
  have hoperator : Piece.setOperator? pieces = some operator := by
    cases operator <;> simp [Piece.setOperator?, hreads.hasToken_eq, SetOperator.kinds]
  obtain ⟨first, second, below⟩ := hreads.inner_pair (by simp) left.isRead right.isRead
  have hfirst : pieces.findSome? Piece.query? = some first :=
    Piece.findSome?_of_inner below fun _ => rfl
  have hboth : pieces.filterMap Piece.query? = [first, second] :=
    Piece.filterMap_of_inner below fun _ => rfl
  simp only [Piece.ofNode, hinfo, below, hoperator, hfirst, hboth]
  exact .combined

/-- An `ORDER BY` behind a query. -/
theorem shows_ordered (input : Query) (keys : List OrderItem) : Shows (.query (.ordered input keys))
    .orderedQuery (input.element :: words [.orderKeyword, .byKeyword] ++
      separated (orderElements keys)) := by
  refine .plain fun info pieces hinfo hreads => ?_
  obtain ⟨body, items, below, hbody, hitems⟩ := ordered_read hreads
  simp only [Piece.ofNode, hinfo, below, hbody, hitems]
  exact .ordered

/-- Definitions in front of a query. -/
theorem shows_withTables (definitions : List Definition) (it : Query) :
    Shows (.query (.withTables definitions it)) .commonTableExpressionQuery
      (.fixed .withKeyword :: separated (definitionElements definitions) ++ [it.element]) := by
  refine .plain fun info pieces hinfo hreads => ?_
  obtain ⟨tables, body, below, hbody, htables⟩ := withTables_read hreads
  simp only [Piece.ofNode, hinfo, below, hbody, htables]
  exact .withTables

/-- A query in parentheses. -/
theorem shows_parenthesizedQuery (grouped : Query) : Shows (.query (.parenthesized grouped))
    .parenthesizedQuery (enclosed [grouped.element]) := by
  refine .plain fun info pieces hinfo hreads => ?_
  obtain ⟨body, below, hbody⟩ := query_read grouped (by simp) hreads
  simp only [Piece.ofNode, hinfo, below, hbody]
  exact .parenthesizedQuery

/-- An entry of an `ORDER BY`. -/
theorem shows_orderItem (key : Expr) (direction : Direction) :
    Shows (.orderItem (.mk key direction)) .orderByColumn (key.element :: direction.elements) := by
  refine .plain fun info pieces hinfo hreads => ?_
  have hdescending : Piece.hasToken .descKeyword pieces = (direction == .descending) := by
    rw [hreads.hasToken_eq .descKeyword (by decide)]
    cases direction <;> simp [Direction.elements]
  obtain ⟨value, below, hvalue⟩ :=
    expr_read key (by cases direction <;> simp [Direction.elements]) hreads
  simp only [Piece.ofNode, hinfo, below, hvalue, hdescending]
  exact .orderItem

/-- A definition, with or without a list of column names. -/
theorem shows_definition (ident : String) (idents : Option (List String)) (it : Query) :
    Shows (.definition (.mk ident idents it)) .commonTableExpression
      (.identifier ident :: Draft.columnNames idents ++ .fixed .asKeyword :: enclosed [it.element]) := by
  refine .plain fun info pieces hinfo hreads => ?_
  obtain ⟨leaf, hleaf, word⟩ := hreads.tokenOf?_stands .identifier ident (by decide) (by simp)
  obtain ⟨front, back, rfl, hfront, hback⟩ := hreads.split
  have hwritten : inner (.identifier ident :: Draft.columnNames idents) = idents.toList.map
      fun idents => .node .columnNameList (enclosed (separated (idents.map .identifier))) := by
    cases idents <;> rfl
  obtain ⟨names, hnames, given⟩ := hfront.inner_option hwritten fun _ => isRead_columnNames _
  obtain ⟨body, hbody⟩ := hback.inner_single (by simp) it.isRead
  have below : Piece.inner (front ++ back) = names.toList.map Piece.columnNames ++ [.query body] := by
    rw [Piece.inner_append, hnames, hbody]
  have hlist : (front ++ back).findSome? Piece.columnNames? = names := by
    rw [Piece.findSome?_of_inner below fun _ => rfl]
    cases names <;> rfl
  have hquery : (front ++ back).findSome? Piece.query? = some body := by
    rw [Piece.findSome?_of_inner below fun _ => rfl]
    cases names <;> rfl
  simp only [Piece.ofNode, hinfo, below, hleaf, hlist, hquery]
  exact .definition given word

/-- A whole draft. -/
theorem shows_whole (draft : Whole) : Shows (.whole draft) .compilationUnit [draft.element] := by
  cases draft with
  | query it =>
    refine .plain fun info pieces hinfo hreads => ?_
    obtain ⟨body, below, hbody⟩ := query_read it (by simp [Whole.element]) hreads
    have hnone : Piece.expression? pieces = none := Piece.expression?_of_inner below
    simp only [Piece.ofNode, hinfo, below, hbody, hnone]
    exact .wholeQuery
  | expr it =>
    refine .plain fun info pieces hinfo hreads => ?_
    obtain ⟨value, below, hvalue⟩ := expr_read it (by simp [Whole.element]) hreads
    have hnone : pieces.findSome? Piece.query? = none := Piece.findSome?_of_inner below fun _ => rfl
    simp only [Piece.ofNode, hinfo, below, hvalue, hnone]
    exact .wholeExpr

/-! ## All components -/

/-- **The node of every component shows it**, if every `CASE` has a label. -/
theorem shows (it : Component) (hlabelled : it.element.isLabelled = true) :
    ∃ kind children, it.element = .node kind children ∧ it.Shows kind children := by
  cases it with
  | whole it => exact ⟨_, _, rfl, shows_whole it⟩
  | expr it =>
    cases it with
    | name ident => exact ⟨_, _, rfl, shows_name ident⟩
    | parameter ident => exact ⟨_, _, rfl, shows_parameter ident⟩
    | number text => exact ⟨_, _, rfl, shows_literal rfl rfl⟩
    | string value => exact ⟨_, _, rfl, shows_literal rfl rfl⟩
    | boolean value => exact ⟨_, _, rfl, shows_literal rfl (by cases value <;> rfl)⟩
    | null => exact ⟨_, _, rfl, shows_literal rfl rfl⟩
    | parenthesized grouped => exact ⟨_, _, rfl, shows_parenthesized grouped⟩
    | unary operator operand => exact ⟨_, _, rfl, shows_unary operator operand⟩
    | binary left operator right => exact ⟨_, _, rfl, shows_binary left operator right⟩
    | property owner ident => exact ⟨_, _, rfl, shows_property owner ident⟩
    | method owner ident items => exact ⟨_, _, rfl, shows_method owner ident items _⟩
    | call ident items => exact ⟨_, _, rfl, shows_call ident items _⟩
    | countAll => exact ⟨_, _, rfl, shows_countAll⟩
    | cast operand ident => exact ⟨_, _, rfl, shows_cast operand ident _⟩
    | isNull operand negated => exact ⟨_, _, rfl, shows_isNull operand negated⟩
    | cases input labels otherwise =>
      exact ⟨_, _, rfl, shows_cases input labels otherwise (labels_ne_nil hlabelled)⟩
    | subselect it => exact ⟨_, _, rfl, shows_subselect it⟩
    | existence it => exact ⟨_, _, rfl, shows_existence it⟩
    | quantified left operator quantifier it =>
      exact ⟨_, _, rfl, shows_quantified left operator quantifier it⟩
  | query it =>
    cases it with
    | select distinct top columns tables filter keys having =>
      exact ⟨_, _, rfl, shows_select distinct top columns tables filter keys having _⟩
    | combined left operator right => exact ⟨_, _, rfl, shows_combined left right operator⟩
    | ordered input items => exact ⟨_, _, rfl, shows_ordered input items⟩
    | withTables definitions body => exact ⟨_, _, rfl, shows_withTables definitions body⟩
    | parenthesized grouped => exact ⟨_, _, rfl, shows_parenthesizedQuery grouped⟩
  | table it =>
    cases it with
    | byName ident label =>
      cases label with
      | none => exact ⟨_, _, rfl, shows_byName ident⟩
      | some label => exact ⟨_, _, rfl, shows_labelled ident label _⟩
    | derived it ident => exact ⟨_, _, rfl, shows_derived it ident⟩
    | joined left kind right test => exact ⟨_, _, rfl, shows_joined left kind right test⟩
    | parenthesized grouped => exact ⟨_, _, rfl, shows_parenthesizedTable grouped⟩
  | column it =>
    cases it with
    | value it ident =>
      cases ident with
      | none => exact ⟨_, _, rfl, shows_value it⟩
      | some ident => exact ⟨_, _, rfl, shows_aliased it ident _⟩
    | star => exact ⟨_, _, rfl, shows_star⟩
    | starOf ident => exact ⟨_, _, rfl, shows_starOf ident⟩
  | label it =>
    obtain ⟨test, result⟩ := it
    exact ⟨_, _, rfl, shows_label test result⟩
  | orderItem it =>
    obtain ⟨key, direction⟩ := it
    exact ⟨_, _, rfl, shows_orderItem key direction⟩
  | definition it =>
    obtain ⟨ident, idents, it⟩ := it
    exact ⟨_, _, rfl, shows_definition ident idents it⟩
  | arguments items => exact ⟨_, _, rfl, shows_arguments items⟩
  | target ident => exact ⟨_, _, rfl, shows_target ident⟩
  | named introduced ident => exact ⟨_, _, rfl, shows_named introduced ident⟩
  | condition place it => exact ⟨_, _, rfl, shows_condition place it⟩
  | head distinct top columns => exact ⟨_, _, rfl, shows_head distinct top columns⟩
  | limit it => exact ⟨_, _, rfl, shows_limit it⟩
  | source tables => exact ⟨_, _, rfl, shows_source tables⟩
  | grouping keys => exact ⟨_, _, rfl, shows_grouping keys⟩
  | columnNames idents => exact ⟨_, _, rfl, shows_columnNames idents⟩

end Component

end Draft

end QuerySemantics
