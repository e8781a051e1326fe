import QuerySemantics.Proofs.Draft.Fitting

/-!
# Components of drafts

A draft is written node by node: each node of its tree stands for one component of the draft, and the
nodes below it stand for the parts of this component, in the order in which they are written. Names,
operators and other words of a component are tokens of its node.

## Main definitions

* `Draft.Component`, `Draft.Component.element`: what one node stands for, and the tree written for it.
* `Draft.Component.parts`: what the nodes below it stand for.
* `Element.Lowers`: an element with blanks inside and in some place.

## Main results

* `Draft.Component.exists_children`: the nodes among the children of the tree of a component are the
  trees of its parts.
* `Element.forall₂_lowers_inner`: blanks between elements leave the nodes among them in order.
-/

set_option autoImplicit false

namespace QuerySemantics

open Element

namespace Draft

/-! ## Components -/

/-- **Place of a condition** in a query. -/
inductive Place where
  | filter
  | having
  | on
deriving DecidableEq, Repr

namespace Place

/-- The kind of the node of a condition. -/
def kind : Place → Kind
  | .filter => .whereClause
  | .having => .havingClause
  | .on => .joinCondition

/-- The word in front of a condition. -/
def word : Place → Kind
  | .filter => .whereKeyword
  | .having => .havingKeyword
  | .on => .onKeyword

end Place

/-- **Component** of a draft: what one node of its tree stands for. -/
inductive Component where
  | whole (draft : Whole)
  | expr (it : Expr)
  | query (it : Query)
  | table (it : Table)
  | column (it : Column)
  | label (it : CaseLabel)
  | orderItem (it : OrderItem)
  | definition (it : Definition)
  /-- The arguments of a call. -/
  | arguments (items : List Expr)
  /-- The type that a value is converted to. -/
  | target (ident : String)
  /-- The name that is given to a column, with an `AS`, or to a table, without one. -/
  | named (introduced : Bool) (ident : String)
  | condition (place : Place) (it : Expr)
  /-- A `SELECT` up to its `FROM`. -/
  | head (distinct : Bool) (top : Option Limit) (columns : List Column)
  | limit (it : Limit)
  | source (tables : List Table)
  | grouping (keys : List Expr)
  | columnNames (idents : List String)

namespace Component

/-- **Tree of a component.** Of a list entry, it is the one tree that is written for a list with this
entry only. -/
def element : Component → Element
  | .whole draft => .node .compilationUnit [draft.element]
  | .expr it => it.element
  | .query it => it.element
  | .table it => it.element
  | .column it => (columnElements [it]).headD default
  | .label it => (labelElements [it]).headD default
  | .orderItem it => (orderElements [it]).headD default
  | .definition it => (definitionElements [it]).headD default
  | .arguments items => .node .argumentList (enclosed (separated (exprElements items)))
  | .target ident => .node .typeReference [.identifier ident]
  | .named introduced ident =>
    .node .aliasClause (words (if introduced then [.asKeyword] else []) ++ [.identifier ident])
  | .condition place it => .node place.kind [.fixed place.word, it.element]
  | .head distinct top columns =>
    .node .selectClause (words (if distinct then [.selectKeyword, .distinctKeyword]
      else [.selectKeyword]) ++ top.toList.map limitElement ++ separated (columnElements columns))
  | .limit it => limitElement it
  | .source tables => .node .fromClause (words [.fromKeyword] ++ separated (tableElements tables))
  | .grouping keys =>
    .node .groupByClause (words [.groupKeyword, .byKeyword] ++ separated (exprElements keys))
  | .columnNames idents =>
    .node .columnNameList (enclosed (separated (idents.map .identifier)))

/-- **Parts** of a component: what the nodes below its node stand for, in order. -/
def parts : Component → List Component
  | .whole (.query it) => [.query it]
  | .whole (.expr it) => [.expr it]
  | .expr (.parenthesized grouped) => [.expr grouped]
  | .expr (.unary _ operand) => [.expr operand]
  | .expr (.binary left _ right) => [.expr left, .expr right]
  | .expr (.property owner _) => [.expr owner]
  | .expr (.method owner _ items) => [.expr owner, .arguments items]
  | .expr (.call _ items) => [.arguments items]
  | .expr (.cast operand ident) => [.expr operand, .target ident]
  | .expr (.isNull operand _) => [.expr operand]
  | .expr (.cases input labels otherwise) =>
    input.toList.map .expr ++ labels.map .label ++ otherwise.toList.map .expr
  | .expr (.subselect it) | .expr (.existence it) => [.query it]
  | .expr (.quantified left _ _ it) => [.expr left, .query it]
  | .query (.select distinct top columns tables filter keys having) =>
    .head distinct top columns :: (if tables.isEmpty then [] else [.source tables]) ++
      filter.toList.map (.condition .filter) ++ (if keys.isEmpty then [] else [.grouping keys]) ++
      having.toList.map (.condition .having)
  | .query (.combined left _ right) => [.query left, .query right]
  | .query (.ordered input items) => .query input :: items.map .orderItem
  | .query (.withTables definitions body) => definitions.map .definition ++ [.query body]
  | .query (.parenthesized grouped) => [.query grouped]
  | .table (.byName _ name) => name.toList.map (.named false)
  | .table (.derived it _) => [.query it]
  | .table (.joined left _ right test) =>
    .table left :: .table right :: test.toList.map (.condition .on)
  | .table (.parenthesized grouped) => [.table grouped]
  | .column (.value it name) => .expr it :: name.toList.map (.named true)
  | .label (.mk test result) => [.expr test, .expr result]
  | .orderItem (.mk key _) => [.expr key]
  | .definition (.mk _ idents it) => idents.toList.map .columnNames ++ [.query it]
  | .arguments items | .grouping items => items.map .expr
  | .condition _ it => [.expr it]
  | .head _ top columns => top.toList.map .limit ++ columns.map .column
  | .source tables => tables.map .table
  | _ => []

/-! ## Trees of lists -/

/-- Expressions are written one by one. -/
theorem exprElements_eq (items : List Expr) :
    exprElements items = (items.map Component.expr).map element := by
  induction items with
  | nil => rfl
  | cons it rest ih => exact congrArg (it.element :: ·) ih

/-- Table references are written one by one. -/
theorem tableElements_eq (items : List Table) :
    tableElements items = (items.map Component.table).map element := by
  induction items with
  | nil => rfl
  | cons it rest ih => exact congrArg (it.element :: ·) ih

/-- Entries of a select list are written one by one. -/
theorem columnElements_eq (columns : List Column) :
    columnElements columns = (columns.map Component.column).map element := by
  induction columns with
  | nil => rfl
  | cons it rest ih =>
    rcases it with ⟨it, _ | name⟩ | _ | name <;> exact congrArg (_ :: ·) ih

/-- Labels of a `CASE` are written one by one. -/
theorem labelElements_eq (labels : List CaseLabel) :
    labelElements labels = (labels.map Component.label).map element := by
  induction labels with
  | nil => rfl
  | cons it rest ih =>
    obtain ⟨test, result⟩ := it
    exact congrArg (_ :: ·) ih

/-- Entries of an `ORDER BY` are written one by one. -/
theorem orderElements_eq (items : List OrderItem) :
    orderElements items = (items.map Component.orderItem).map element := by
  induction items with
  | nil => rfl
  | cons it rest ih =>
    obtain ⟨key, direction⟩ := it
    exact congrArg (_ :: ·) ih

/-- Definitions are written one by one. -/
theorem definitionElements_eq (items : List Definition) :
    definitionElements items = (items.map Component.definition).map element := by
  induction items with
  | nil => rfl
  | cons it rest ih =>
    obtain ⟨name, idents, body⟩ := it
    exact congrArg (_ :: ·) ih

/-- The tree of a condition that need not be there. -/
theorem conditionElements_eq (place : Place) (it : Option Expr) :
    conditionElements place.kind place.word it =
      (it.toList.map (Component.condition place)).map element := by
  cases it <;> rfl

/-! ## Nodes among children -/

/-- The trees of components are nodes, so none of them is lost among other elements. -/
theorem tokenKind?_element (it : Component) : tokenKind? it.element = none := by
  cases it with
  | expr it => exact it.tokenKind?_element
  | query it => exact it.tokenKind?_element
  | table it => exact it.tokenKind?_element
  | column it => rcases it with ⟨it, _ | name⟩ | _ | name <;> rfl
  | label it => obtain ⟨test, result⟩ := it; rfl
  | orderItem it => obtain ⟨key, direction⟩ := it; rfl
  | definition it => obtain ⟨name, idents, body⟩ := it; rfl
  | _ => rfl

/-- Components are written as nodes. -/
@[simp] theorem inner_map_element (items : List Component) :
    inner (items.map element) = items.map element :=
  List.filter_eq_self.2 fun it hit => by
    obtain ⟨part, -, rfl⟩ := List.mem_map.1 hit
    simp [part.tokenKind?_element]

/-- The tree of a `FROM` that need not be there. -/
theorem clauseElements_source (tables : List Table) :
    clauseElements .fromClause [.fromKeyword] (tableElements tables) =
      (if tables.isEmpty then [] else [Component.source tables]).map element := by
  cases tables <;> rfl

/-- The tree of a `GROUP BY` that need not be there. -/
theorem clauseElements_grouping (keys : List Expr) :
    clauseElements .groupByClause [.groupKeyword, .byKeyword] (exprElements keys) =
      (if keys.isEmpty then [] else [Component.grouping keys]).map element := by
  cases keys <;> rfl

/-- The nodes in a `CASE`. -/
theorem inner_cases (input : Option Expr) (labels : List CaseLabel) (otherwise : Option Expr) :
    inner (.fixed .caseKeyword :: clauseIfAny [] input ++ labelElements labels ++
      clauseIfAny [.elseKeyword] otherwise ++ words [.endKeyword]) =
        (parts (.expr (.cases input labels otherwise))).map element := by
  have hclause : ∀ (leading : List Kind) (it : Option Expr),
      inner (clauseIfAny leading it) = (it.toList.map Component.expr).map element := by
    intro leading it
    rw [inner_clauseIfAny, List.map_map]
    rfl
  simp [-List.map_map, hclause, labelElements_eq, parts]

/-- The nodes in a `SELECT`. -/
theorem inner_select (distinct : Bool) (top : Option Limit) (columns : List Column) (tables : List Table)
    (filter : Option Expr) (keys : List Expr) (having : Option Expr) :
    inner ((Component.head distinct top columns).element ::
      clauseElements .fromClause [.fromKeyword] (tableElements tables) ++
        conditionElements .whereClause .whereKeyword filter ++
        clauseElements .groupByClause [.groupKeyword, .byKeyword] (exprElements keys) ++
        conditionElements .havingClause .havingKeyword having) =
          (parts (.query (.select distinct top columns tables filter keys having))).map element := by
  have hfilter : conditionElements .whereClause .whereKeyword filter =
      (filter.toList.map (condition .filter)).map element := conditionElements_eq .filter filter
  have hhaving : conditionElements .havingClause .havingKeyword having =
      (having.toList.map (condition .having)).map element := conditionElements_eq .having having
  simp only [clauseElements_source, hfilter, clauseElements_grouping, hhaving, inner_append,
    List.cons_append, inner_node, inner_map_element, parts, List.map_cons, List.map_append, element]

/-- **Nodes among the children** of the tree of a component: they are the trees of its parts. -/
theorem exists_children (it : Component) : ∃ kind children, it.element = .node kind children ∧
    inner children = it.parts.map element := by
  cases it with
  | whole it => cases it <;> exact ⟨_, _, rfl, by simp [Whole.element, parts, element]⟩
  | expr it =>
    cases it with
    | cases input labels otherwise => exact ⟨_, _, rfl, inner_cases input labels otherwise⟩
    | _ => exact ⟨_, _, rfl, by simp [parts, element]⟩
  | query it =>
    cases it with
    | select distinct top columns tables filter keys having =>
      exact ⟨_, _, rfl, inner_select distinct top columns tables filter keys having⟩
    | combined | parenthesized => exact ⟨_, _, rfl, by simp [parts, element]⟩
    | ordered => exact ⟨_, _, rfl, by simp [-List.map_map, parts, element, orderElements_eq]⟩
    | withTables => exact ⟨_, _, rfl, by simp [-List.map_map, parts, element, definitionElements_eq]⟩
  | table it =>
    cases it with
    | byName ident name => cases name <;> exact ⟨_, _, rfl, rfl⟩
    | joined left kind right test =>
      have htest : conditionElements .joinCondition .onKeyword test =
          (test.toList.map (condition .on)).map element := conditionElements_eq .on test
      exact ⟨_, _, rfl, by simp [-List.map_map, parts, element, htest]⟩
    | _ => exact ⟨_, _, rfl, by simp [parts, element]⟩
  | column it =>
    rcases it with ⟨it, _ | name⟩ | _ | name <;> exact ⟨_, _, rfl, by simp [parts, element, words]⟩
  | label it =>
    obtain ⟨test, result⟩ := it
    exact ⟨_, _, rfl, by simp [parts, element]⟩
  | orderItem it =>
    obtain ⟨key, direction⟩ := it
    exact ⟨_, _, rfl, by cases direction <;> simp [parts, element, Direction.elements]⟩
  | definition it =>
    obtain ⟨ident, idents, body⟩ := it
    exact ⟨_, _, rfl, by cases idents <;> simp [parts, element, Draft.columnNames]⟩
  | head distinct top columns =>
    refine ⟨_, _, rfl, ?_⟩
    cases top <;> simp [-List.map_map, parts, element, columnElements_eq, limitElement]
  | limit it => exact ⟨_, _, rfl, by cases it.withTies <;> rfl⟩
  | _ =>
    exact ⟨_, _, rfl, by simp [-List.map_map, parts, element, exprElements_eq, tableElements_eq,
      inner_identifiers]⟩

end Component

end Draft

/-! ## Lowering -/

/-- **Inner elements** of a row of located ones: those that are nodes. -/
def Located.inner (parts : List Located) : List Located :=
  parts.filter fun part => part.info?.isSome

/-- The readings of the nodes in a row are the readings that are no tokens. -/
theorem Located.map_piece_inner (parts : List Located) :
    (inner parts).map piece = Piece.inner (pieces parts) := by
  induction parts with
  | nil => rfl
  | cons part rest ih =>
    cases part with
    | token leaf => exact ih
    | node info children =>
      have hnode : (Located.node info children).piece.token? = none := by
        have hinfo := (Located.node info children).info?_piece
        cases hpiece : (Located.node info children).piece <;> rw [hpiece] at hinfo <;>
          first | rfl | cases hinfo
      have hcons : Piece.inner (pieces (.node info children :: rest)) =
          (Located.node info children).piece :: Piece.inner (pieces rest) :=
        List.filter_cons_of_pos (by simp [hnode])
      rw [hcons, ← ih]
      rfl

namespace Element

/-- **Lowering** of an element: with blanks inside, in some place. -/
def Lowers (element : Element) (part : Located) : Prop :=
  ∃ previous index offset, part = ((element.space previous).1.locate index offset).1

/-- **Nodes in a row** stay in order when blanks are put between the elements. -/
theorem forall₂_lowers_inner (parent : Kind) (elements : List Element) (previous : Option Kind)
    (index offset : Nat) : List.Forall₂ Lowers (inner elements)
      (Located.inner (locateAll (spaceAll parent elements previous).1 index offset).1) := by
  induction elements generalizing previous index offset with
  | nil => exact .nil
  | cons element rest ih =>
    have hstep : ∀ before behind index offset, List.Forall₂ Lowers (inner (element :: rest))
        (Located.inner (locateAll ((element.space before).1 :: (spaceAll parent rest behind).1)
          index offset).1) := by
      intro before behind index offset
      cases element with
      | token kind text => exact ih _ _ _
      | node kind children => exact .cons ⟨_, _, _, rfl⟩ (ih _ _ _)
    simp only [spaceAll]
    cases needsBlank previous element with
    | true => exact hstep _ _ _ _
    | false => exact hstep _ _ _ _

end Element

end QuerySemantics
