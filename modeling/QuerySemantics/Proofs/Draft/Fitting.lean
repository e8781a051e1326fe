import QuerySemantics.Proofs.Draft.Children

/-!
# Nodes of drafts fit

Each form of a draft is written with the pieces that the accessors of its node look for, and with no piece
too many: whatever blanks are put between them, the node licenses all of its children.

## Main results

* `Draft.fits_expr`, `Draft.fits_exprs`, `Draft.fits_query` and fellows: nodes with one or two nodes below
  them fit.
* `Draft.fits_ident`, `Draft.fits_property`, `Draft.fits_definition` and fellows: nodes with an identifier
  fit.
* `Draft.fits_exprElements`, `Draft.fits_selectClause` and fellows: nodes with a list below them fit.
* `Draft.fits_select`: a `SELECT` fits, whichever of its clauses are there.
* `Draft.caseElse?_eq`, `Draft.fits_cases`: the `ELSE` of a `CASE` is found again, and the `CASE` fits.
-/

set_option autoImplicit false

namespace QuerySemantics

open Element

namespace Draft

/-! ## Forms of drafts -/

/-- What is written for an expression is read as one. -/
theorem Expr.isRead (it : Expr) : it.element.IsRead Piece.expr :=
  fun _ => Expr.reads

/-- What is written for a query is read as one. -/
theorem Query.isRead (it : Query) : it.element.IsRead Piece.query :=
  fun _ => Query.reads

/-- What is written for a table reference is read as one. -/
theorem Table.isRead (it : Table) : it.element.IsRead Piece.table :=
  fun _ => Table.reads

/-- The tree of a query is no token. -/
theorem Query.tokenKind?_element (it : Query) : tokenKind? it.element = none := by
  cases it <;> rfl

/-- The tree of a table reference is no token. -/
theorem Table.tokenKind?_element (it : Table) : tokenKind? it.element = none := by
  cases it with
  | byName ident label => cases label <;> rfl
  | _ => rfl

section Counting

variable {elements : List Element}

/-- An expression is written as a node. -/
@[simp] theorem inner_expr (it : Expr) :
    Element.inner (it.element :: elements) = it.element :: Element.inner elements :=
  inner_of_node it.tokenKind?_element

/-- A query is written as a node. -/
@[simp] theorem inner_query (it : Query) :
    Element.inner (it.element :: elements) = it.element :: Element.inner elements :=
  inner_of_node it.tokenKind?_element

/-- A table reference is written as a node. -/
@[simp] theorem inner_table (it : Table) :
    Element.inner (it.element :: elements) = it.element :: Element.inner elements :=
  inner_of_node it.tokenKind?_element

/-- An expression is no identifier. -/
@[simp] theorem identCount_expr (it : Expr) :
    identCount (it.element :: elements) = identCount elements :=
  identCount_of_node it.tokenKind?_element

/-- A query is no identifier. -/
@[simp] theorem identCount_query (it : Query) :
    identCount (it.element :: elements) = identCount elements :=
  identCount_of_node it.tokenKind?_element

/-- A table reference is no identifier. -/
@[simp] theorem identCount_table (it : Table) :
    identCount (it.element :: elements) = identCount elements :=
  identCount_of_node it.tokenKind?_element

end Counting

/-- The tree of an alias is read as such. -/
theorem isRead_alias (children : List Element) :
    (Element.node .aliasClause children).IsRead Piece.aliasClause :=
  isRead_node fun _ _ hinfo => by simp [Piece.ofNode, hinfo]

/-- The tree of a type name is read as such. -/
theorem isRead_typeName (children : List Element) :
    (Element.node .typeReference children).IsRead Piece.typeName :=
  isRead_node fun _ _ hinfo => by simp [Piece.ofNode, hinfo]

/-- The tree of an argument list is read as such. -/
theorem isRead_arguments (children : List Element) :
    (Element.node .argumentList children).IsRead Piece.arguments :=
  isRead_node fun _ _ hinfo => by simp [Piece.ofNode, hinfo]

/-- The tree of a list of column names is read as such. -/
theorem isRead_columnNames (children : List Element) :
    (Element.node .columnNameList children).IsRead Piece.columnNames :=
  isRead_node fun _ _ hinfo => by simp [Piece.ofNode, hinfo]

/-- The tree of the head of a `SELECT` is read as such. -/
theorem isRead_selectClause (children : List Element) :
    (Element.node .selectClause children).IsRead Piece.selectClause :=
  isRead_node fun _ _ hinfo => by simp [Piece.ofNode, hinfo]

/-- The tree of a `FROM` clause is read as such. -/
theorem isRead_fromClause (children : List Element) :
    (Element.node .fromClause children).IsRead Piece.fromClause :=
  isRead_node fun _ _ hinfo => by simp [Piece.ofNode, hinfo]

/-- The tree of a `GROUP BY` clause is read as such. -/
theorem isRead_groupBy (children : List Element) :
    (Element.node .groupByClause children).IsRead Piece.groupBy :=
  isRead_node fun _ _ hinfo => by simp [Piece.ofNode, hinfo]

/-- The tree of a condition is read as a condition of its kind. -/
theorem isRead_condition {kind : Kind} (children : List Element)
    (hkind : kind ∈ [Kind.whereClause, .havingClause, .joinCondition]) :
    (Element.node kind children).IsRead
      fun it : { it : Ast.Condition // it.info.kind = kind } => Piece.condition it.1 := by
  refine isRead_node fun info pieces hinfo => ⟨⟨.mk info (Piece.expression? pieces), hinfo⟩, ?_⟩
  simp only [List.mem_cons, List.not_mem_nil, or_false] at hkind
  rcases hkind with rfl | rfl | rfl <;> simp [Piece.ofNode, hinfo]

/-- A condition that need not be there is read as a condition of its kind, if it is there. -/
theorem inner_conditionElements {kind leading : Kind} {condition : Option Expr} {pieces : List Piece}
    (hkind : kind ∈ [Kind.whereClause, .havingClause, .joinCondition])
    (h : ReadsAll (conditionElements kind leading condition) pieces) :
    ∃ it : Option { it : Ast.Condition // it.info.kind = kind },
      Piece.inner pieces = it.toList.map (fun it => Piece.condition it.1) ∧
        it.isSome = condition.isSome := by
  have hinner : Element.inner (conditionElements kind leading condition) =
      condition.toList.map fun it => .node kind [.fixed leading, it.element] := by
    cases condition <;> rfl
  exact h.inner_option hinner fun _ => isRead_condition _ hkind

/-! ## Nodes with one node below them -/

/-- The only expression below a node is found again. -/
theorem expr_read {elements : List Element} {pieces : List Piece} (it : Expr)
    (hinner : Element.inner elements = [it.element]) (h : ReadsAll elements pieces) :
    ∃ read, Piece.inner pieces = [.expr read] ∧ Piece.expression? pieces = some read := by
  obtain ⟨read, hread⟩ := h.inner_single hinner it.isRead
  exact ⟨read, hread, Piece.expression?_of_inner hread⟩

/-- The only query below a node is found again. -/
theorem query_read {elements : List Element} {pieces : List Piece} (it : Query)
    (hinner : Element.inner elements = [it.element]) (h : ReadsAll elements pieces) :
    ∃ read, Piece.inner pieces = [.query read] ∧ pieces.findSome? Piece.query? = some read := by
  obtain ⟨read, hread⟩ := h.inner_single hinner it.isRead
  exact ⟨read, hread, Piece.findSome?_of_inner hread fun _ => rfl⟩

/-- A node with an expression below it fits. -/
theorem fits_expr {kind : Kind} {children : List Element} (it : Expr)
    (hkind : kind ∈ [Kind.unaryExpression, .parenthesizedExpression, .isNullExpression, .whereClause,
      .havingClause, .joinCondition, .orderByColumn, .expressionSelectColumn])
    (hinner : Element.inner children = [it.element]) (hcount : identCount children = 0) :
    Fits kind children := by
  refine .plain hcount fun info pieces hinfo hreads => ?_
  obtain ⟨read, hread, hexpr⟩ := expr_read it hinner hreads
  rw [hread, List.forall_mem_singleton]
  refine .visited ?_
  simp only [List.mem_cons, List.not_mem_nil, or_false] at hkind
  rcases hkind with rfl | rfl | rfl | rfl | rfl | rfl | rfl | rfl <;>
    simp [Piece.ofNode, hinfo, Piece.visited, Piece.early, Piece.late, hexpr]

/-- A node with a query below it fits. -/
theorem fits_query {kind : Kind} {children : List Element} (it : Query)
    (hkind : kind ∈ [Kind.singleRowSubselect, .existsSubselect, .parenthesizedQuery])
    (hinner : Element.inner children = [it.element]) (hcount : identCount children = 0) :
    Fits kind children := by
  refine .plain hcount fun info pieces hinfo hreads => ?_
  obtain ⟨read, hread, hquery⟩ := query_read it hinner hreads
  rw [hread, List.forall_mem_singleton]
  refine .visited ?_
  simp only [List.mem_cons, List.not_mem_nil, or_false] at hkind
  rcases hkind with rfl | rfl | rfl <;>
    simp [Piece.ofNode, hinfo, Piece.visited, Piece.early, Piece.late, hquery]

/-- A table reference between parentheses fits. -/
theorem fits_table (it : Table) : Fits .parenthesizedTableReference (enclosed [it.element]) := by
  refine .plain (by simp) fun info pieces hinfo hreads => ?_
  refine hreads.licenses_single (by simp) it.isRead fun read hread => .visited ?_
  have htable : pieces.findSome? Piece.table? = some read :=
    Piece.findSome?_of_inner hread fun _ => rfl
  simp [Piece.ofNode, hinfo, Piece.visited, Piece.early, Piece.late, htable]

/-! ## Nodes with two nodes below them -/

/-- The two expressions below a node are found again. -/
theorem exprs_read {elements : List Element} {pieces : List Piece} (left right : Expr)
    (hinner : Element.inner elements = [left.element, right.element]) (h : ReadsAll elements pieces) :
    ∃ first second, Piece.inner pieces = [.expr first, .expr second] ∧
      Piece.expression? pieces = some first ∧ Piece.secondExpression? pieces = some second := by
  obtain ⟨first, second, hread⟩ := h.inner_pair hinner left.isRead right.isRead
  exact ⟨first, second, hread, Piece.expression?_of_inner hread,
    Piece.secondExpression?_of_inner hread⟩

/-- A node with two expressions below it fits. -/
theorem fits_exprs {kind : Kind} {children : List Element} (left right : Expr)
    (hkind : kind ∈ [Kind.binaryExpression, .caseLabel])
    (hinner : Element.inner children = [left.element, right.element])
    (hcount : identCount children = 0) : Fits kind children := by
  refine .plain hcount fun info pieces hinfo hreads => ?_
  obtain ⟨first, second, hread, hfirst, hsecond⟩ := exprs_read left right hinner hreads
  rw [hread, List.forall_mem_cons, List.forall_mem_singleton]
  simp only [List.mem_cons, List.not_mem_nil, or_false] at hkind
  refine ⟨.visited ?_, .visited ?_⟩ <;> rcases hkind with rfl | rfl <;>
    simp [Piece.ofNode, hinfo, Piece.visited, Piece.early, Piece.late, hfirst, hsecond]

/-- A comparison with a subselect fits. -/
theorem fits_quantified (left : Expr) (operator : Comparison) (quantifier : Quantifier)
    (query : Query) : Fits .allAnySubselect
      (left.element :: words (operator.1.kinds ++ [quantifier.kind]) ++ enclosed [query.element]) := by
  have hkinds : (operator.1.kinds ++ [quantifier.kind]).count .identifier = 0 := by
    obtain ⟨operator, -⟩ := operator
    cases operator <;> cases quantifier <;> rfl
  refine .plain (by simp [hkinds]) fun info pieces hinfo hreads => ?_
  refine hreads.licenses_pair (by simp) left.isRead query.isRead fun first second hread => ?_
  have hfirst : Piece.expression? pieces = some first := Piece.expression?_of_inner hread
  have hsecond : pieces.findSome? Piece.query? = some second :=
    Piece.findSome?_of_inner hread fun _ => rfl
  refine ⟨.visited ?_, .visited ?_⟩ <;>
    simp [Piece.ofNode, hinfo, Piece.visited, Piece.early, Piece.late, hfirst, hsecond]

/-- A set operation fits. -/
theorem fits_combined (left right : Query) (operator : SetOperator) :
    Fits .combinedQuery (left.element :: words operator.kinds ++ [right.element]) := by
  have hkinds : operator.kinds.count .identifier = 0 := by cases operator <;> rfl
  refine .plain (by simp [hkinds]) fun info pieces hinfo hreads => ?_
  refine hreads.licenses_pair (by simp) left.isRead right.isRead fun first second hread => ?_
  have hfirst : pieces.findSome? Piece.query? = some first :=
    Piece.findSome?_of_inner hread fun _ => rfl
  have hboth : pieces.filterMap Piece.query? = [first, second] :=
    Piece.filterMap_of_inner hread fun _ => rfl
  refine ⟨.visited ?_, .visited ?_⟩ <;>
    simp [Piece.ofNode, hinfo, Piece.visited, Piece.early, Piece.late, hfirst, hboth]

/-- The sides of a join and its condition are found again. -/
theorem joined_read {left right : Table} {kind : JoinKind} {condition : Option Expr}
    {pieces : List Piece} (h : ReadsAll (left.element :: words kind.kinds ++
      right.element :: conditionElements .joinCondition .onKeyword condition) pieces) :
    ∃ first second clause, Piece.inner pieces =
        Piece.table first :: Piece.table second :: clause.toList.map Piece.condition ∧
      clause.isSome = condition.isSome ∧ pieces.findSome? Piece.table? = some first ∧
      (pieces.filterMap Piece.table?)[1]? = some second ∧
      pieces.findSome? (Piece.condition? .joinCondition) = clause := by
  rw [List.append_cons] at h
  obtain ⟨front, back, rfl, hfront, hback⟩ := h.split
  obtain ⟨first, second, hsides⟩ := hfront.inner_pair (by simp) left.isRead right.isRead
  obtain ⟨clause, hclause, hgiven⟩ := inner_conditionElements (by simp) hback
  have hinner : Piece.inner (front ++ back) =
      [Piece.table first, Piece.table second] ++ clause.toList.map fun it => Piece.condition it.1 := by
    rw [Piece.inner_append, hsides, hclause]
  have hcondition : (front ++ back).findSome? (Piece.condition? .joinCondition) =
      clause.map (·.1) := by
    rw [Piece.findSome?_of_inner hinner fun _ => rfl]
    cases clause with
    | none => rfl
    | some it => simp [List.findSome?_cons, Piece.condition?, it.2]
  refine ⟨first, second, clause.map (·.1), ?_, by simpa using hgiven,
    Piece.findSome?_of_inner hinner fun _ => rfl,
    congrArg (·[1]?) (Piece.filterMap_of_inner hinner fun _ => rfl), hcondition⟩
  rw [hinner]
  cases clause <;> rfl

/-- A join fits, with or without a condition. -/
theorem fits_joined (left right : Table) (kind : JoinKind) (condition : Option Expr) :
    Fits .joinedTableReference (left.element :: words kind.kinds ++
      right.element :: conditionElements .joinCondition .onKeyword condition) := by
  have hkinds : kind.kinds.count .identifier = 0 := by cases kind <;> rfl
  have hcount : identCount (conditionElements .joinCondition .onKeyword condition) = 0 := by
    cases condition <;> rfl
  refine .plain (by simp [hkinds, hcount]) fun info pieces hinfo hreads piece hpiece => .visited ?_
  obtain ⟨first, second, clause, hinner, -, hfirst, hsecond, hcondition⟩ := joined_read hreads
  rw [hinner] at hpiece
  simp only [Piece.ofNode, hinfo, hfirst, hsecond, hcondition]
  cases clause <;> simpa [Piece.visited, Piece.early, Piece.late] using hpiece

/-- A select list entry with an alias fits. -/
theorem fits_aliased (it : Expr) (children : List Element) :
    Fits .expressionSelectColumn [it.element, .node .aliasClause children] := by
  refine .plain (by simp) fun info pieces hinfo hreads => ?_
  refine hreads.licenses_pair (by simp) it.isRead (isRead_alias children) fun first second hread => ?_
  have hfirst : Piece.expression? pieces = some first := Piece.expression?_of_inner hread
  have hsecond : pieces.findSome? Piece.alias? = some second :=
    Piece.findSome?_of_inner hread fun _ => rfl
  simp only [Piece.ofNode, hinfo, hfirst, hsecond]
  exact ⟨.visited (by simp [Piece.visited, Piece.early, Piece.late]), .columnAlias⟩

/-- A conversion fits. -/
theorem fits_cast (operand : Expr) (children : List Element) :
    Fits .castExpression (.fixed .castKeyword :: enclosed
      [operand.element, .fixed .asKeyword, .node .typeReference children]) := by
  refine .plain (by simp) fun info pieces hinfo hreads => ?_
  refine hreads.licenses_pair (by simp) operand.isRead (isRead_typeName children)
    fun first second hread => ?_
  have hfirst : Piece.expression? pieces = some first := Piece.expression?_of_inner hread
  have hsecond : pieces.findSome? Piece.typeName? = some second :=
    Piece.findSome?_of_inner hread fun _ => rfl
  simp only [Piece.ofNode, hinfo, hfirst, hsecond]
  exact ⟨.visited (by simp [Piece.visited, Piece.early, Piece.late]), .target⟩

/-! ## Nodes with an identifier -/

/-- A node with nothing but an identifier below it fits. -/
theorem fits_ident {kind : Kind} {children : List Element}
    (hkind : kind ∈ [Kind.nameExpression, .variableExpression, .countAllExpression,
      .wildcardSelectColumn, .aliasClause, .typeReference, .namedTableReference])
    (hinner : Element.inner children = []) (hcount : identCount children = 1) :
    Fits kind children := by
  refine .named hcount (fun info pieces _ hreads piece hpiece => ?_)
    fun info pieces leaf hinfo _ hleaf => ?_
  · rw [hreads.inner_nil hinner] at hpiece
    cases hpiece
  · simp only [List.mem_cons, List.not_mem_nil, or_false] at hkind
    rcases hkind with rfl | rfl | rfl | rfl | rfl | rfl | rfl <;>
      simp [Piece.ofNode, hinfo, Piece.ownIdent?, Ast.Expr.ident?, hleaf]

/-- A property fits. -/
theorem fits_property (target : Expr) (ident : String) :
    Fits .propertyAccessExpression [target.element, .fixed .dot, .identifier ident] := by
  refine .named (by simp) (fun info pieces hinfo hreads => ?_)
    fun info pieces leaf hinfo hreads hleaf => ?_
  · obtain ⟨leaf, hleaf⟩ := Option.isSome_iff_exists.1 (hreads.ident ident (by simp))
    refine hreads.licenses_single (by simp) target.isRead fun read hread => .visited ?_
    have htarget : Piece.expression? pieces = some read := Piece.expression?_of_inner hread
    simp [Piece.ofNode, hinfo, Piece.visited, Piece.early, Piece.late, htarget, hleaf]
  · obtain ⟨read, hread⟩ := hreads.inner_single (by simp) target.isRead
    have htarget : Piece.expression? pieces = some read := Piece.expression?_of_inner hread
    simp [Piece.ofNode, hinfo, Piece.ownIdent?, Ast.Expr.ident?, htarget, hleaf]

/-- A method call fits. -/
theorem fits_method (target : Expr) (ident : String) (children : List Element) :
    Fits .methodInvocationExpression
      [target.element, .fixed .dot, .identifier ident, .node .argumentList children] := by
  refine .named (by simp) (fun info pieces hinfo hreads => ?_)
    fun info pieces leaf hinfo _ hleaf => ?_
  · refine hreads.licenses_pair (by simp) target.isRead (isRead_arguments children)
      fun first second hread => ?_
    have hfirst : Piece.expression? pieces = some first := Piece.expression?_of_inner hread
    have hsecond : pieces.findSome? Piece.arguments? = some second :=
      Piece.findSome?_of_inner hread fun _ => rfl
    refine ⟨.visited ?_, .visited ?_⟩ <;>
      simp [Piece.ofNode, hinfo, Piece.visited, Piece.early, Piece.late, hfirst, hsecond]
  · simp [Piece.ofNode, hinfo, Piece.ownIdent?, Ast.Expr.ident?, hleaf]

/-- A call fits. -/
theorem fits_call (ident : String) (children : List Element) :
    Fits .functionInvocationExpression [.identifier ident, .node .argumentList children] := by
  refine .named (by simp) (fun info pieces hinfo hreads => ?_)
    fun info pieces leaf hinfo _ hleaf => ?_
  · refine hreads.licenses_single (by simp) (isRead_arguments children) fun read hread => .visited ?_
    have harguments : pieces.findSome? Piece.arguments? = some read :=
      Piece.findSome?_of_inner hread fun _ => rfl
    simp [Piece.ofNode, hinfo, Piece.visited, Piece.early, Piece.late, harguments]
  · simp [Piece.ofNode, hinfo, Piece.ownIdent?, Ast.Expr.ident?, hleaf]

/-- A table with an alias fits. -/
theorem fits_labelled (ident : String) (children : List Element) :
    Fits .namedTableReference [.identifier ident, .node .aliasClause children] := by
  refine .named (by simp) (fun info pieces hinfo hreads => ?_)
    fun info pieces leaf hinfo _ hleaf => ?_
  · obtain ⟨leaf, hleaf⟩ := Option.isSome_iff_exists.1 (hreads.ident ident (by simp))
    refine hreads.licenses_single (by simp) (isRead_alias children) fun read hread => ?_
    have halias : pieces.findSome? Piece.alias? = some read :=
      Piece.findSome?_of_inner hread fun _ => rfl
    simp only [Piece.ofNode, hinfo, halias, hleaf]
    exact .tableAlias
  · simp [Piece.ofNode, hinfo, Piece.ownIdent?, hleaf]

/-- A derived table fits. -/
theorem fits_derived (query : Query) (label : String) :
    Fits .derivedTableReference
      (enclosed [query.element] ++ [Element.fixed .asKeyword, Element.identifier label]) := by
  refine .named (by simp) (fun info pieces hinfo hreads => ?_)
    fun info pieces leaf hinfo _ hleaf => ?_
  · refine hreads.licenses_single (by simp) query.isRead fun read hread => .visited ?_
    have hquery : pieces.findSome? Piece.query? = some read :=
      Piece.findSome?_of_inner hread fun _ => rfl
    simp [Piece.ofNode, hinfo, Piece.visited, Piece.early, Piece.late, hquery]
  · simp [Piece.ofNode, hinfo, Piece.ownIdent?, hleaf]

/-- A definition in a `WITH` fits. -/
theorem fits_definition (ident : String) (columns : Option (List String)) (query : Query) :
    Fits .commonTableExpression (.identifier ident :: columnNames columns ++
      .fixed .asKeyword :: enclosed [query.element]) := by
  have hcount : identCount (columnNames columns) = 0 := by cases columns <;> rfl
  refine .named (by simp [hcount]) (fun info pieces hinfo hreads => ?_)
    fun info pieces leaf hinfo _ hleaf => ?_
  · obtain ⟨leaf, hleaf⟩ := Option.isSome_iff_exists.1 (hreads.ident ident (by simp))
    cases columns with
    | none =>
      refine hreads.licenses_single (by simp [columnNames]) query.isRead fun read hread => .visited ?_
      have hquery : pieces.findSome? Piece.query? = some read :=
        Piece.findSome?_of_inner hread fun _ => rfl
      simp [Piece.ofNode, hinfo, Piece.visited, Piece.early, Piece.late, hquery]
    | some idents =>
      refine hreads.licenses_pair (by simp [columnNames]; rfl) (isRead_columnNames _) query.isRead
        fun first second hread => ?_
      have hfirst : pieces.findSome? Piece.columnNames? = some first :=
        Piece.findSome?_of_inner hread fun _ => rfl
      have hsecond : pieces.findSome? Piece.query? = some second :=
        Piece.findSome?_of_inner hread fun _ => rfl
      simp only [Piece.ofNode, hinfo, hfirst, hsecond, hleaf]
      exact ⟨.columns, .visited (by simp [Piece.visited, Piece.early, Piece.late])⟩
  · simp [Piece.ofNode, hinfo, Piece.ownIdent?, hleaf]

/-- Names have no nodes below them. -/
theorem inner_identifiers (idents : List String) :
    Element.inner (idents.map Element.identifier) = [] := by
  induction idents with
  | nil => rfl
  | cons ident rest ih => exact ih

/-- A list of column names fits: it knows all of its identifiers. -/
theorem fits_columnNames (idents : List String) :
    Fits .columnNameList (enclosed (separated (idents.map .identifier))) := by
  intro info parts hinfo hreads _
  refine Piece.licenses_all (fun piece hpiece => ?_) fun leaf hleaf => ?_
  · rw [hreads.inner_nil (by simp [inner_identifiers])] at hpiece
    cases hpiece
  · simp only [Piece.ofNode, hinfo]
    exact .listed hleaf

/-! ## Nodes with a list below them -/

/-- The trees of expressions are read as expressions. -/
theorem exprElements_read (items : List Expr) : AllRead Piece.expr (exprElements items) := by
  induction items with
  | nil => exact .nil
  | cons it rest ih => exact .cons it.tokenKind?_element it.isRead ih

/-- The trees of table references are read as table references. -/
theorem tableElements_read (items : List Table) : AllRead Piece.table (tableElements items) := by
  induction items with
  | nil => exact .nil
  | cons it rest ih => exact .cons it.tokenKind?_element it.isRead ih

/-- The trees of select list entries are read as such. -/
theorem columnElements_read (columns : List Column) :
    AllRead Piece.selectItem (columnElements columns) := by
  induction columns with
  | nil => exact .nil
  | cons column rest ih =>
    rcases column with ⟨it, _ | name⟩ | _ | name <;>
      exact .cons rfl (isRead_node fun _ _ hinfo => by simp [Piece.ofNode, hinfo]) ih

/-- The trees of labels are read as such. -/
theorem labelElements_read (labels : List CaseLabel) :
    AllRead Piece.caseLabel (labelElements labels) := by
  induction labels with
  | nil => exact .nil
  | cons label rest ih =>
    obtain ⟨condition, result⟩ := label
    exact .cons rfl (isRead_node fun _ _ hinfo => by simp [Piece.ofNode, hinfo]) ih

/-- Each label has a tree. -/
theorem length_labelElements (labels : List CaseLabel) :
    (labelElements labels).length = labels.length := by
  induction labels with
  | nil => rfl
  | cons label rest ih =>
    obtain ⟨test, result⟩ := label
    exact congrArg (· + 1) ih

/-- The trees of `ORDER BY` entries are read as such. -/
theorem orderElements_read (items : List OrderItem) :
    AllRead Piece.orderItem (orderElements items) := by
  induction items with
  | nil => exact .nil
  | cons item rest ih =>
    obtain ⟨key, direction⟩ := item
    exact .cons rfl (isRead_node fun _ _ hinfo => by simp [Piece.ofNode, hinfo]) ih

/-- The trees of definitions are read as such. -/
theorem definitionElements_read (items : List Definition) :
    AllRead Piece.commonTable (definitionElements items) := by
  induction items with
  | nil => exact .nil
  | cons item rest ih =>
    obtain ⟨name, columns, body⟩ := item
    exact .cons rfl (isRead_node fun _ _ hinfo => by simp [Piece.ofNode, hinfo]) ih

/-- A list of expressions fits. -/
theorem fits_exprElements {kind : Kind} {children : List Element} (items : List Expr)
    (hkind : kind ∈ [Kind.argumentList, .groupByClause])
    (hinner : Element.inner children = exprElements items) (hcount : identCount children = 0) :
    Fits kind children := by
  refine .plain hcount fun info pieces hinfo hreads piece hpiece => .visited ?_
  obtain ⟨read, hread, hall⟩ :=
    (exprElements_read items).found Piece.expr? (fun _ => rfl) (fun _ => rfl) hinner hreads
  rw [hread] at hpiece
  simp only [List.mem_cons, List.not_mem_nil, or_false] at hkind
  rcases hkind with rfl | rfl <;>
    simpa [Piece.ofNode, hinfo, Piece.visited, Piece.early, Piece.late, hall] using hpiece

/-- A list of table references fits. -/
theorem fits_tableElements {children : List Element} (items : List Table)
    (hinner : Element.inner children = tableElements items) (hcount : identCount children = 0) :
    Fits .fromClause children := by
  refine .plain hcount fun info pieces hinfo hreads piece hpiece => .visited ?_
  obtain ⟨read, hread, hall⟩ :=
    (tableElements_read items).found Piece.table? (fun _ => rfl) (fun _ => rfl) hinner hreads
  rw [hread] at hpiece
  simpa [Piece.ofNode, hinfo, Piece.visited, Piece.early, Piece.late, hall] using hpiece

/-- The row limit and the entries of a select list are found again. -/
theorem selectClause_read {kinds : List Kind} {top : Option Limit} {columns : List Column}
    {pieces : List Piece} (h : ReadsAll
      (words kinds ++ top.toList.map limitElement ++ separated (columnElements columns)) pieces) :
    ∃ limit items, Piece.inner pieces = limit.toList.map Piece.top ++ items.map Piece.selectItem ∧
      limit.isSome = top.isSome ∧ pieces.findSome? Piece.top? = limit ∧
      pieces.filterMap Piece.selectItem? = items := by
  have hcolumns := columnElements_read columns
  have htop : Element.inner (top.toList.map limitElement) = top.toList.map limitElement := by
    cases top <;> rfl
  obtain ⟨front, back, rfl, hfront, hback⟩ := h.split
  obtain ⟨limit, hlimit, hgiven⟩ : ∃ limit : Option Ast.Top,
      Piece.inner front = limit.toList.map .top ∧ limit.isSome = top.isSome := by
    refine hfront.inner_option (by rw [Element.inner_append, inner_words, htop, List.nil_append])
      fun it => ?_
    exact isRead_node fun _ _ hinfo => by simp [Piece.ofNode, hinfo]
  obtain ⟨items, hitems⟩ := hcolumns.reads (by simp [hcolumns.inner]) hback
  have hinner : Piece.inner (front ++ back) = limit.toList.map Piece.top ++ items.map Piece.selectItem := by
    rw [Piece.inner_append, hlimit, hitems]
  refine ⟨limit, items, hinner, hgiven, ?_, ?_⟩
  · rw [← List.head?_filterMap, Piece.filterMap_of_inner hinner fun _ => rfl, List.filterMap_append,
      Piece.filterMap_form Piece.top? .top fun _ => rfl,
      Piece.filterMap_other Piece.top? .selectItem fun _ => rfl]
    cases limit <;> rfl
  · rw [Piece.filterMap_of_inner hinner fun _ => rfl, List.filterMap_append,
      Piece.filterMap_other Piece.selectItem? .top fun _ => rfl,
      Piece.filterMap_form Piece.selectItem? .selectItem fun _ => rfl, List.nil_append]

/-- The head of a `SELECT` fits. -/
theorem fits_selectClause (kinds : List Kind) (top : Option Limit) (columns : List Column)
    (hkinds : kinds.count .identifier = 0) : Fits .selectClause
      (words kinds ++ top.toList.map limitElement ++ separated (columnElements columns)) := by
  have hcount : identCount (top.toList.map limitElement) = 0 := by cases top <;> rfl
  refine .plain (by simp [hkinds, hcount, (columnElements_read columns).identCount])
    fun info pieces hinfo hreads piece hpiece => ?_
  obtain ⟨limit, items, hinner, -, hfirst, hall⟩ := selectClause_read hreads
  rw [hinner, List.mem_append] at hpiece
  simp only [Piece.ofNode, hinfo, hfirst, hall]
  rcases hpiece with hpiece | hpiece
  · cases limit with
    | none => cases hpiece
    | some limit =>
      obtain rfl := List.mem_singleton.1 hpiece
      exact .limit
  · exact .visited (by simpa [Piece.visited, Piece.early, Piece.late] using hpiece)

/-- The query and the entries of an `ORDER BY` are found again. -/
theorem ordered_read {input : Query} {items : List OrderItem} {pieces : List Piece}
    (h : ReadsAll (input.element :: words [.orderKeyword, .byKeyword] ++
      separated (orderElements items)) pieces) :
    ∃ body read, Piece.inner pieces = Piece.query body :: read.map Piece.orderItem ∧
      pieces.findSome? Piece.query? = some body ∧ pieces.filterMap Piece.orderItem? = read := by
  have hitems := orderElements_read items
  obtain ⟨front, back, rfl, hfront, hback⟩ := h.split
  obtain ⟨body, hbody⟩ := hfront.inner_single (by simp) input.isRead
  obtain ⟨read, hread⟩ := hitems.reads (by simp [hitems.inner]) hback
  have hinner : Piece.inner (front ++ back) = [Piece.query body] ++ read.map Piece.orderItem := by
    rw [Piece.inner_append, hbody, hread]
  refine ⟨body, read, hinner, Piece.findSome?_of_inner hinner fun _ => rfl, ?_⟩
  rw [Piece.filterMap_of_inner hinner fun _ => rfl, List.filterMap_append,
    Piece.filterMap_form Piece.orderItem? .orderItem fun _ => rfl]
  rfl

/-- A query with an order fits. -/
theorem fits_ordered (input : Query) (items : List OrderItem) :
    Fits .orderedQuery (input.element :: words [.orderKeyword, .byKeyword] ++
      separated (orderElements items)) := by
  refine .plain (by simp [(orderElements_read items).identCount])
    fun info pieces hinfo hreads piece hpiece => .visited ?_
  obtain ⟨body, read, hinner, hbody, hall⟩ := ordered_read hreads
  rw [hinner] at hpiece
  simpa [Piece.ofNode, hinfo, Piece.visited, Piece.early, Piece.late, hbody, hall] using hpiece

/-- The definitions of a `WITH` and the query behind them are found again. -/
theorem withTables_read {definitions : List Definition} {body : Query} {pieces : List Piece}
    (h : ReadsAll (.fixed .withKeyword :: separated (definitionElements definitions) ++
      [body.element]) pieces) :
    ∃ read last, Piece.inner pieces = read.map Piece.commonTable ++ [Piece.query last] ∧
      pieces.findSome? Piece.query? = some last ∧ pieces.filterMap Piece.commonTable? = read := by
  have hdefinitions := definitionElements_read definitions
  obtain ⟨front, back, rfl, hfront, hback⟩ := h.split
  obtain ⟨read, hread⟩ := hdefinitions.reads (by simp [hdefinitions.inner]) hfront
  obtain ⟨last, hlast⟩ := hback.inner_single (by simp) body.isRead
  have hinner : Piece.inner (front ++ back) = read.map Piece.commonTable ++ [Piece.query last] := by
    rw [Piece.inner_append, hread, hlast]
  refine ⟨read, last, hinner, ?_, ?_⟩
  · rw [← List.head?_filterMap, Piece.filterMap_of_inner hinner fun _ => rfl, List.filterMap_append,
      Piece.filterMap_other Piece.query? .commonTable fun _ => rfl]
    rfl
  · rw [Piece.filterMap_of_inner hinner fun _ => rfl, List.filterMap_append,
      Piece.filterMap_form Piece.commonTable? .commonTable fun _ => rfl]
    exact List.append_nil read

/-- A query behind a `WITH` fits. -/
theorem fits_withTables (definitions : List Definition) (body : Query) :
    Fits .commonTableExpressionQuery (.fixed .withKeyword ::
      separated (definitionElements definitions) ++ [body.element]) := by
  refine .plain (by simp [(definitionElements_read definitions).identCount])
    fun info pieces hinfo hreads piece hpiece => .visited ?_
  obtain ⟨read, last, hinner, hlast, hall⟩ := withTables_read hreads
  rw [hinner] at hpiece
  simpa [Piece.ofNode, hinfo, Piece.visited, Piece.early, Piece.late, hlast, hall] using hpiece

/-! ## Selections -/

/-- A clause that need not be there is read in the form of its kind, if it is there. -/
theorem inner_clauseElements {α : Type} {wrap : α → Piece} {kind : Kind} {leading : List Kind}
    {entries : List Element} {pieces : List Piece}
    (hread : ∀ children, (Element.node kind children).IsRead wrap)
    (h : ReadsAll (clauseElements kind leading entries) pieces) :
    ∃ it : Option α, Piece.inner pieces = it.toList.map wrap ∧ it.isSome = !entries.isEmpty := by
  cases entries with
  | nil => exact ⟨none, h.inner_nil rfl, rfl⟩
  | cons first rest =>
    obtain ⟨it, hit⟩ := h.inner_single rfl (hread _)
    exact ⟨some it, hit, rfl⟩

/-- The clauses of a `SELECT` are found again if each is there once at most. -/
theorem ofNode_select {info : NodeInfo} {pieces : List Piece} {head : Ast.SelectClause}
    {source : Option Ast.FromClause}
    {filter : Option { it : Ast.Condition // it.info.kind = .whereClause }}
    {grouping : Option Ast.GroupByClause}
    {having : Option { it : Ast.Condition // it.info.kind = .havingClause }}
    (hinfo : info.kind = .selectQuery)
    (hinner : Piece.inner pieces = [Piece.selectClause head] ++ source.toList.map Piece.fromClause ++
      filter.toList.map (fun it => Piece.condition it.1) ++ grouping.toList.map Piece.groupBy ++
        having.toList.map fun it => Piece.condition it.1) :
    Piece.ofNode info pieces = .query (.select info (some head) source (filter.map (·.1)) grouping
      (having.map (·.1))) := by
  have hhead : pieces.findSome? Piece.selectClause? = some head :=
    Piece.findSome?_of_inner hinner fun _ => rfl
  have hsource : pieces.findSome? Piece.fromClause? = source := by
    rw [Piece.findSome?_of_inner hinner fun _ => rfl]
    cases source <;> cases filter <;> cases grouping <;> cases having <;> rfl
  have hgrouping : pieces.findSome? Piece.groupBy? = grouping := by
    rw [Piece.findSome?_of_inner hinner fun _ => rfl]
    cases source <;> cases filter <;> cases grouping <;> cases having <;> rfl
  have hfilter : pieces.findSome? (Piece.condition? .whereClause) = filter.map (·.1) := by
    rw [Piece.findSome?_of_inner hinner fun _ => rfl]
    clear hinner
    rcases filter with _ | ⟨test, htest⟩ <;> rcases having with _ | ⟨check, hcheck⟩ <;>
      cases source <;> cases grouping <;> simp [List.findSome?_cons, Piece.condition?, *]
  have hhaving : pieces.findSome? (Piece.condition? .havingClause) = having.map (·.1) := by
    rw [Piece.findSome?_of_inner hinner fun _ => rfl]
    clear hinner
    rcases filter with _ | ⟨test, htest⟩ <;> rcases having with _ | ⟨check, hcheck⟩ <;>
      cases source <;> cases grouping <;> simp [List.findSome?_cons, Piece.condition?, *]
  simp only [Piece.ofNode, hinfo, hhead, hsource, hfilter, hgrouping, hhaving]

/-- The clauses of a `SELECT` are found again. -/
theorem select_read {info : NodeInfo} {children : List Element} {tables : List Table}
    {filter : Option Expr} {grouping : List Expr} {having : Option Expr} {pieces : List Piece}
    (hinfo : info.kind = .selectQuery) (h : ReadsAll
      (.node .selectClause children :: clauseElements .fromClause [.fromKeyword] (tableElements tables) ++
        conditionElements .whereClause .whereKeyword filter ++
        clauseElements .groupByClause [.groupKeyword, .byKeyword] (exprElements grouping) ++
        conditionElements .havingClause .havingKeyword having) pieces) :
    ∃ head source test keys check, Piece.inner pieces = Piece.selectClause head ::
        source.toList.map Piece.fromClause ++ test.toList.map Piece.condition ++
          keys.toList.map Piece.groupBy ++ check.toList.map Piece.condition ∧
      source.isSome = !tables.isEmpty ∧ test.isSome = filter.isSome ∧
      keys.isSome = !grouping.isEmpty ∧ check.isSome = having.isSome ∧
      Piece.ofNode info pieces = .query (.select info (some head) source test keys check) := by
  obtain ⟨rest, last, rfl, hrest, hlast⟩ := h.split
  obtain ⟨rest, groups, rfl, hrest, hgroups⟩ := hrest.split
  obtain ⟨rest, conditions, rfl, hrest, hconditions⟩ := hrest.split
  obtain ⟨first, sources, rfl, hfirst, hsources⟩ := (show ReadsAll ([_] ++ _) rest from hrest).split
  obtain ⟨head, hhead⟩ := hfirst.inner_single rfl (isRead_selectClause children)
  obtain ⟨source, hsource, htables⟩ := inner_clauseElements isRead_fromClause hsources
  obtain ⟨test, htest, hfilter⟩ := inner_conditionElements (by simp) hconditions
  obtain ⟨keys, hkeys, hgrouping⟩ := inner_clauseElements isRead_groupBy hgroups
  obtain ⟨check, hcheck, hhaving⟩ := inner_conditionElements (by simp) hlast
  have hinner : Piece.inner (first ++ sources ++ conditions ++ groups ++ last) =
      [Piece.selectClause head] ++ source.toList.map Piece.fromClause ++
        test.toList.map (fun it => Piece.condition it.1) ++ keys.toList.map Piece.groupBy ++
          check.toList.map fun it => Piece.condition it.1 := by
    simp only [Piece.inner_append, hhead, hsource, htest, hkeys, hcheck]
  refine ⟨head, source, test.map (·.1), keys, check.map (·.1), ?_, ?_, by simpa using hfilter, ?_,
    by simpa using hhaving, ofNode_select hinfo hinner⟩
  · rw [hinner]
    cases test <;> cases check <;> rfl
  · rw [htables]
    cases tables <;> rfl
  · rw [hgrouping]
    cases grouping <;> rfl

/-- A `SELECT` fits: each of its clauses is there once at most. -/
theorem fits_select (children : List Element) (tables : List Table) (filter : Option Expr)
    (grouping : List Expr) (having : Option Expr) : Fits .selectQuery
      (.node .selectClause children :: clauseElements .fromClause [.fromKeyword] (tableElements tables) ++
        conditionElements .whereClause .whereKeyword filter ++
        clauseElements .groupByClause [.groupKeyword, .byKeyword] (exprElements grouping) ++
        conditionElements .havingClause .havingKeyword having) := by
  have hclause : ∀ kind leading entries, identCount (clauseElements kind leading entries) = 0 := by
    intro kind leading entries
    cases entries <;> rfl
  have hcondition : ∀ kind leading it, identCount (conditionElements kind leading it) = 0 := by
    intro kind leading it
    cases it <;> rfl
  refine .plain (by simp [hclause, hcondition]) fun info pieces hinfo hreads piece hpiece =>
    .visited ?_
  obtain ⟨head, source, test, keys, check, hinner, -, -, -, -, hread⟩ := select_read hinfo hreads
  rw [hread]
  rw [hinner] at hpiece
  cases source <;> cases test <;> cases keys <;> cases check <;>
    simpa [Piece.visited, Piece.early, Piece.late, or_assoc, or_comm, or_left_comm] using hpiece

/-! ## Case distinctions -/

/-- Tokens do not end a row of pieces that all of them belong to. -/
theorem inner_takeWhile (test : Piece → Bool) (htest : ∀ leaf, test (.token leaf) = true)
    (pieces : List Piece) : Piece.inner (pieces.takeWhile test) = (Piece.inner pieces).takeWhile test := by
  induction pieces with
  | nil => rfl
  | cons piece rest ih =>
    by_cases htoken : ∃ leaf, piece = .token leaf
    · obtain ⟨leaf, rfl⟩ := htoken
      rw [List.takeWhile_cons_of_pos (htest leaf)]
      exact ih
    · have hcons : ∀ others, Piece.inner (piece :: others) = piece :: Piece.inner others := by
        intro others
        cases piece with
        | token leaf => exact absurd ⟨leaf, rfl⟩ htoken
        | _ => rfl
      rw [hcons, List.takeWhile_cons, List.takeWhile_cons]
      split
      · rw [hcons, ih]
      · rfl

/-- The operand of a `CASE` is the expression before the labels. -/
theorem caseInput?_of_inner {pieces : List Piece} {first last : Option Ast.Expr}
    {tests : List Ast.CaseLabel} (h : Piece.inner pieces =
      first.toList.map Piece.expr ++ tests.map Piece.caseLabel ++ last.toList.map Piece.expr)
    (hread : first.isSome = true ∨ tests ≠ []) : Piece.caseInput? pieces = first := by
  have hinput := inner_takeWhile (fun piece => piece.caseLabel?.isNone) (fun _ => rfl) pieces
  rw [h] at hinput
  rw [Piece.caseInput?, Piece.expression?_of_inner hinput]
  cases first with
  | some it => rfl
  | none =>
    cases tests with
    | nil => exact absurd rfl (hread.resolve_left Bool.false_ne_true)
    | cons test rest => rfl

/-- The last expression of a `CASE` is its `ELSE` if the others begin before the word ends. -/
theorem caseElse?_of_placed {pieces : List Piece} {keyword : Token} {items : List Ast.Expr}
    {it : Ast.Expr} (hkeyword : Piece.tokenOf? .elseKeyword pieces = some keyword)
    (hexprs : pieces.filterMap Piece.expr? = items ++ [it])
    (hbefore : ∀ other ∈ items, other.info.start < keyword.stop)
    (hbehind : keyword.stop ≤ it.info.start) : Piece.caseElse? pieces = some it := by
  have hitems : items.find? (fun it => decide (keyword.stop ≤ it.info.start)) = none :=
    List.find?_eq_none.2 fun other hother => by simpa using hbefore other hother
  simp [Piece.caseElse?, hkeyword, hexprs, List.find?_append, hitems, hbehind]

/-- The words of a `CASE` up to its last label are only one. -/
theorem filterMap_cases (input : Option Expr) (labels : List CaseLabel) :
    (.fixed .caseKeyword :: clauseIfAny [] input ++ labelElements labels).filterMap tokenKind? =
      [.caseKeyword] := by
  have hlabels : (labelElements labels).filterMap tokenKind? = [] :=
    List.filterMap_eq_nil_iff.2 fun element helement => (labelElements_read labels element helement).1
  cases input <;> simp [clauseIfAny, words, hlabels, Expr.tokenKind?_element]

/-- The first token of a kind stands in the first of two rows that has one. -/
theorem tokenOf?_append (kind : Kind) (front back : List Piece) :
    Piece.tokenOf? kind (front ++ back) =
      (Piece.tokenOf? kind front).or (Piece.tokenOf? kind back) := by
  rw [Piece.tokenOf?, List.filterMap_append, List.find?_append]
  rfl

/-- The word `ELSE` is found again, and it is not empty. -/
theorem elseKeyword_read {pieces : List Piece} (h : ReadsAll (words [.elseKeyword]) pieces) :
    ∃ keyword, Piece.tokenOf? .elseKeyword pieces = some keyword ∧ keyword.start < keyword.stop := by
  obtain ⟨keyword, hkeyword, hkind⟩ : ∃ keyword, Piece.tokenOf? .elseKeyword pieces = some keyword ∧
      keyword.kind = .elseKeyword :=
    Option.map_eq_some_iff.1 (h.find?_kind (· == .elseKeyword) rfl)
  have htext : keyword.text = "ELSE" := by
    rcases h.token_mem (Piece.token_mem_of_tokenOf? hkeyword).1 with hblank | hfixed
    · rw [hkind] at hblank
      cases hblank
    · obtain ⟨-, htext⟩ := Element.token.inj (List.mem_singleton.1 hfixed)
      exact htext
  refine ⟨keyword, hkeyword, ?_⟩
  rw [Token.stop, htext]
  exact Nat.lt_add_of_pos_right (by decide)

/-- **The `ELSE` of a `CASE`** is found again.

**Proof sketch.** The first `ELSE` among the pieces is the word in front of the expression, as there is
none before the labels end. So the expression begins behind this word, and the operand of the `CASE`
before it. -/
theorem caseElse?_eq {input : Option Expr} {labels : List CaseLabel} {otherwise : Expr}
    {parts : List Located} {front back ending : List Piece} {first : Option Ast.Expr}
    {items : List Ast.CaseLabel} {last : Ast.Expr} (hplaced : parts.Pairwise Located.Precedes)
    (hparts : Located.pieces parts = front ++ back ++ ending)
    (hfront : ReadsAll (.fixed .caseKeyword :: clauseIfAny [] input ++ labelElements labels) front)
    (hback : ReadsAll (clauseIfAny [.elseKeyword] (some otherwise)) back)
    (hinner : Piece.inner front = first.toList.map Piece.expr ++ items.map Piece.caseLabel)
    (hlast : Piece.inner back = [.expr last]) (hending : Piece.inner ending = []) :
    Piece.caseElse? (Located.pieces parts) = some last := by
  obtain ⟨word, rest, rfl, hword, hrest⟩ :=
    (show ReadsAll (words [.elseKeyword] ++ [otherwise.element]) back from hback).split
  have hnowhere : Piece.tokenOf? .elseKeyword front = none := by
    have hkind := hfront.find?_kind (· == .elseKeyword) rfl
    rw [filterMap_cases] at hkind
    exact Option.map_eq_none_iff.1 hkind
  obtain ⟨keyword, hkeyword, hstop⟩ := elseKeyword_read hword
  have hmem := (Piece.token_mem_of_tokenOf? hkeyword).1
  have hafter : Piece.inner rest = [.expr last] := by
    rwa [Piece.inner_append, hword.inner_nil (inner_words _), List.nil_append] at hlast
  have hinner' : Piece.inner (Located.pieces parts) =
      first.toList.map Piece.expr ++ items.map Piece.caseLabel ++ [Piece.expr last] := by
    rw [hparts, Piece.inner_append, Piece.inner_append, hinner, hlast, hending, List.append_nil]
  have hexprs : (Located.pieces parts).filterMap Piece.expr? = first.toList ++ [last] := by
    rw [Piece.filterMap_of_inner hinner' fun _ => rfl, List.filterMap_append, List.filterMap_append,
      Piece.filterMap_form Piece.expr? .expr fun _ => rfl,
      Piece.filterMap_other Piece.expr? .caseLabel fun _ => rfl, List.append_nil]
    rfl
  have hfound : Piece.tokenOf? .elseKeyword (Located.pieces parts) = some keyword := by
    rw [hparts, tokenOf?_append, tokenOf?_append, tokenOf?_append, hnowhere, hkeyword]
    rfl
  refine caseElse?_of_placed hfound hexprs (fun other hother => ?_) ?_
  · -- the operand stands before the labels, and so before the word
    have hother : .expr other ∈ front := by
      refine (Piece.mem_inner_iff.1 ?_).1
      rw [hinner]
      exact List.mem_append_left _ (List.mem_map_of_mem hother)
    rw [List.append_assoc] at hparts
    exact (Located.expr_start_le hplaced hparts hother
      (List.mem_append_left ending (List.mem_append_left rest hmem))).trans_lt hstop
  · have hlast : .expr last ∈ rest := by
      refine (Piece.mem_inner_iff.1 ?_).1
      rw [hafter]
      exact List.mem_singleton_self _
    rw [← List.append_assoc, List.append_assoc] at hparts
    exact Located.token_stop_le hplaced hparts (List.mem_append_right front hmem)
      (List.mem_append_left ending hlast)

/-- The expression that need not be there is the only node behind the words that come with it. -/
theorem inner_clauseIfAny (leading : List Kind) (it : Option Expr) :
    Element.inner (clauseIfAny leading it) = it.toList.map Expr.element := by
  cases it <;> simp [clauseIfAny]

/-- **The parts of a `CASE`** are found again: its labels and its `ELSE`, and its operand unless it is
missing and so are the labels. -/
theorem cases_read {input otherwise : Option Expr} {labels : List CaseLabel} {parts : List Located}
    (h : ReadsAll (.fixed .caseKeyword :: clauseIfAny [] input ++ labelElements labels ++
      clauseIfAny [.elseKeyword] otherwise ++ words [.endKeyword]) (Located.pieces parts))
    (hplaced : parts.Pairwise Located.Precedes) :
    ∃ (first last : Option Ast.Expr) (tests : List Ast.CaseLabel),
      Piece.inner (Located.pieces parts) =
        first.toList.map Piece.expr ++ tests.map Piece.caseLabel ++ last.toList.map Piece.expr ∧
      first.isSome = input.isSome ∧ tests.length = labels.length ∧ last.isSome = otherwise.isSome ∧
      (Located.pieces parts).filterMap Piece.caseLabel? = tests ∧
      Piece.caseElse? (Located.pieces parts) = last := by
  obtain ⟨rest, ending, hparts, hrest, hending⟩ := h.split
  obtain ⟨front, back, rfl, hfront, hback⟩ := hrest.split
  obtain ⟨head, middle, rfl, hhead, hmiddle⟩ := hfront.split
  obtain ⟨first, hfirst, hinput⟩ := hhead.inner_option (inner_clauseIfAny [] input) Expr.isRead
  obtain ⟨tests, htests, hlength⟩ := hmiddle.inner_forms fun element helement =>
    (labelElements_read labels element (List.mem_of_mem_filter helement)).2
  obtain ⟨last, hlast, hotherwise⟩ :=
    hback.inner_option (inner_clauseIfAny [.elseKeyword] otherwise) Expr.isRead
  have hnothing : Piece.inner ending = [] := hending.inner_nil (inner_words _)
  have hbefore : Piece.inner (head ++ middle) = first.toList.map Piece.expr ++ tests.map Piece.caseLabel := by
    rw [Piece.inner_append, hfirst, htests]
  have hinner : Piece.inner (Located.pieces parts) =
      first.toList.map Piece.expr ++ tests.map Piece.caseLabel ++ last.toList.map Piece.expr := by
    rw [hparts, Piece.inner_append, Piece.inner_append, hbefore, hlast, hnothing, List.append_nil]
  refine ⟨first, last, tests, hinner, hinput, ?_, hotherwise, ?_, ?_⟩
  · rw [hlength, (labelElements_read labels).inner, length_labelElements]
  · rw [Piece.filterMap_of_inner hinner fun _ => rfl, List.filterMap_append, List.filterMap_append,
      Piece.filterMap_other Piece.caseLabel? .expr fun _ => rfl,
      Piece.filterMap_form Piece.caseLabel? .caseLabel fun _ => rfl,
      Piece.filterMap_other Piece.caseLabel? .expr fun _ => rfl, List.nil_append, List.append_nil]
  · cases otherwise with
    | none =>
      -- without the word, there is no expression behind it
      obtain rfl : last = none := Option.isNone_iff_eq_none.1 (by simpa using hotherwise)
      have hkind := h.find?_kind (· == .elseKeyword) rfl
      rw [List.filterMap_append, List.filterMap_append, filterMap_cases, filterMap_words] at hkind
      have hnowhere : Piece.tokenOf? .elseKeyword (Located.pieces parts) = none :=
        Option.map_eq_none_iff.1 hkind
      rw [Piece.caseElse?, hnowhere]
      rfl
    | some otherwise =>
      obtain ⟨it, rfl⟩ := Option.isSome_iff_exists.1 hotherwise
      exact caseElse?_eq hplaced hparts hfront hback hbefore hlast hnothing

/-- A `CASE` fits. -/
theorem fits_cases (input : Option Expr) (labels : List CaseLabel) (otherwise : Option Expr) :
    Fits .caseExpression (.fixed .caseKeyword :: clauseIfAny [] input ++ labelElements labels ++
      clauseIfAny [.elseKeyword] otherwise ++ words [.endKeyword]) := by
  have hinput : identCount (clauseIfAny [] input) = 0 := by cases input <;> simp [clauseIfAny]
  have hotherwise : identCount (clauseIfAny [.elseKeyword] otherwise) = 0 := by
    cases otherwise <;> simp [clauseIfAny]
  refine .placed (by simp [hinput, hotherwise, (labelElements_read labels).identCount])
    fun info parts hinfo hreads hplaced piece hpiece => .visited ?_
  obtain ⟨first, last, tests, hinner, -, -, -, hall, helse⟩ := cases_read hreads hplaced
  have hoperand : ∀ it, first = some it → Piece.caseInput? (Located.pieces parts) = some it := by
    rintro it rfl
    exact caseInput?_of_inner hinner (.inl rfl)
  rw [hinner, List.mem_append, List.mem_append] at hpiece
  rcases hpiece with (hpiece | hpiece) | hpiece
  · obtain ⟨it, hit, rfl⟩ := List.mem_map.1 hpiece
    simp [Piece.ofNode, hinfo, Piece.visited, Piece.early, Piece.late,
      hoperand it (Option.mem_toList.1 hit)]
  · obtain ⟨it, hit, rfl⟩ := List.mem_map.1 hpiece
    simp [Piece.ofNode, hinfo, Piece.visited, Piece.early, Piece.late, hall, hit]
  · obtain ⟨it, hit, rfl⟩ := List.mem_map.1 hpiece
    simp [Piece.ofNode, hinfo, Piece.visited, Piece.early, Piece.late, helse, Option.mem_toList.1 hit]

end Draft

end QuerySemantics
