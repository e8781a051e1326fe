import QuerySemantics.Proofs.Draft.Reading

/-!
# Drafts are whole

The tree of a draft has whatever binding calls for: names, operators and operands are never missing.
Only the labels of a `CASE` may be, as a draft may list none.

## Main results

* `Draft.Expr.whole`, `Draft.Table.whole`, `Draft.Query.whole`: the trees of drafts are whole.
* `Draft.Whole.complete`: the tree of a draft with labels is read as a complete piece.
-/

set_option autoImplicit false

namespace QuerySemantics

open Element

namespace Draft

/-! ## What drafts are read as -/

/-- The tree of an expression is a node that is read as an expression. -/
theorem Expr.reads {it : Expr} {piece : Piece} (h : it.element.Reads piece) :
    ∃ read, piece = .expr read := by
  cases it <;>
    (simp only [Expr.element, literal] at h
     obtain ⟨info, pieces, hkind, rfl, -⟩ := h.of_node
     simp only [Piece.ofNode, hkind]
     exact ⟨_, rfl⟩)

/-- The tree of a query is a node that is read as a query. -/
theorem Query.reads {it : Query} {piece : Piece} (h : it.element.Reads piece) :
    ∃ read, piece = .query read := by
  cases it <;>
    (simp only [Query.element] at h
     obtain ⟨info, pieces, hkind, rfl, -⟩ := h.of_node
     simp only [Piece.ofNode, hkind]
     exact ⟨_, rfl⟩)

/-- The tree of a table reference is a node that is read as a table reference. -/
theorem Table.reads {it : Table} {piece : Piece} (h : it.element.Reads piece) :
    ∃ read, piece = .table read := by
  have hnode : ∀ {kind children}, kind ∈ [Kind.namedTableReference, .derivedTableReference,
      .joinedTableReference, .parenthesizedTableReference] → (Element.node kind children).Reads piece →
        ∃ read, piece = .table read := by
    intro kind children hkinds h
    obtain ⟨info, pieces, rfl, rfl, -⟩ := h.of_node
    simp only [List.mem_cons, List.not_mem_nil, or_false] at hkinds
    rcases hkinds with hkind | hkind | hkind | hkind <;> simp only [Piece.ofNode, hkind] <;>
      exact ⟨_, rfl⟩
  cases it with
  | byName ident label => cases label <;> exact hnode (by decide) h
  | derived | joined | parenthesized => exact hnode (by decide) h

/-- The tree of an expression is no token. -/
theorem Expr.tokenKind?_element (it : Expr) : tokenKind? it.element = none := by
  cases it <;> rfl

/-- The tokens among words are these words. -/
theorem filterMap_words (kinds : List Kind) : (words kinds).filterMap tokenKind? = kinds := by
  induction kinds with
  | nil => rfl
  | cons kind kinds ih => exact congrArg (kind :: ·) ih

end Draft

namespace Element.ReadsAll

variable {elements : List Element} {pieces : List Piece}

/-- A node of a form is found again. -/
theorem findSome?_of_node {α : Type} {access : Piece → Option α} {element : Element}
    (h : ReadsAll elements pieces) (helement : element ∈ elements)
    (haccess : ∀ piece, element.Reads piece → (access piece).isSome = true) :
    (pieces.findSome? access).isSome = true := by
  obtain ⟨piece, hpiece, hreads⟩ := h.exists_of_element helement
  exact List.findSome?_isSome_iff.2 ⟨piece, hpiece, haccess piece hreads⟩

/-- An expression is found again. -/
theorem expression? (h : ReadsAll elements pieces) (it : Draft.Expr) (hit : it.element ∈ elements) :
    (Piece.expression? pieces).isSome = true := by
  refine h.findSome?_of_node hit fun piece hreads => ?_
  obtain ⟨read, rfl⟩ := Draft.Expr.reads hreads
  rfl

/-- A table reference is found again. -/
theorem table? (h : ReadsAll elements pieces) (it : Draft.Table) (hit : it.element ∈ elements) :
    (pieces.findSome? Piece.table?).isSome = true := by
  refine h.findSome?_of_node hit fun piece hreads => ?_
  obtain ⟨read, rfl⟩ := Draft.Table.reads hreads
  rfl

/-- Two elements are found again in their order. -/
theorem exists_pair (h : ReadsAll elements pieces) {first second : Element}
    (hboth : [first, second].Sublist elements) :
    ∃ one two, [one, two].Sublist pieces ∧ first.Reads one ∧ second.Reads two := by
  obtain ⟨read, hreads, hread⟩ := h.exists_of_sublist hboth
  obtain ⟨one, rest, hone, hrest, rfl⟩ := List.forall₂_cons_left_iff.1 hreads
  obtain ⟨two, others, htwo, hothers, rfl⟩ := List.forall₂_cons_left_iff.1 hrest
  obtain rfl := List.forall₂_nil_left_iff.1 hothers
  exact ⟨one, two, hread, hone, htwo⟩

/-- Two pieces of a form give a second one. -/
theorem isSome_second {α : Type} {access : Piece → Option α} {first second : α}
    {read : List Piece} (hread : read.Sublist pieces)
    (h : read.filterMap access = [first, second]) :
    ((pieces.filterMap access)[1]?).isSome = true := by
  have hlength := (hread.filterMap access).length_le
  rw [h] at hlength
  rw [List.getElem?_eq_getElem (show 1 < _ from hlength)]
  rfl

/-- A second expression is found again. -/
theorem secondExpression? (h : ReadsAll elements pieces) (left right : Draft.Expr)
    (hboth : [left.element, right.element].Sublist elements) :
    (Piece.secondExpression? pieces).isSome = true := by
  obtain ⟨one, two, hread, hone, htwo⟩ := h.exists_pair hboth
  obtain ⟨first, rfl⟩ := Draft.Expr.reads hone
  obtain ⟨second, rfl⟩ := Draft.Expr.reads htwo
  exact isSome_second hread rfl

/-- A second table reference is found again. -/
theorem secondTable? (h : ReadsAll elements pieces) (left right : Draft.Table)
    (hboth : [left.element, right.element].Sublist elements) :
    ((pieces.filterMap Piece.table?)[1]?).isSome = true := by
  obtain ⟨one, two, hread, hone, htwo⟩ := h.exists_pair hboth
  obtain ⟨first, rfl⟩ := Draft.Table.reads hone
  obtain ⟨second, rfl⟩ := Draft.Table.reads htwo
  exact isSome_second hread rfl

end Element.ReadsAll

namespace Draft

/-! ## Operators and clauses -/

/-- The operator of a unary expression is read from its token. -/
theorem isSome_unary {operator : UnaryOperator} {operand : Expr} {pieces : List Piece}
    (h : ReadsAll [.fixed operator.kind, operand.element] pieces) :
    ((Piece.leadingToken? pieces).bind fun it => UnaryOperator.ofToken? it.kind).isSome = true := by
  have hkind := h.find?_kind (!·.isTrivia) rfl
  have hkinds : [Element.fixed operator.kind, operand.element].filterMap tokenKind? =
      [operator.kind] := by
    simp [operand.tokenKind?_element]
  rw [hkinds] at hkind
  have hfirst : [operator.kind].find? (!·.isTrivia) = some operator.kind := by cases operator <;> rfl
  exact isSome_bind_kind (hkind.trans hfirst) (by cases operator <;> rfl)

/-- The operator of a binary expression is read from its tokens. -/
theorem isSome_binary {left right : Expr} {operator : BinaryOperator} {negated : Bool}
    {pieces : List Piece}
    (h : ReadsAll (left.element :: words operator.kinds ++ [right.element]) pieces) :
    ((Piece.infixToken? pieces).bind fun it => BinaryOperator.ofToken? negated it.kind).isSome =
      true := by
  have hkind := h.find?_kind (fun kind => !kind.isTrivia && kind != .notKeyword) rfl
  rw [List.filterMap_append, List.filterMap_cons_none left.tokenKind?_element, filterMap_words,
    List.filterMap_cons_none right.tokenKind?_element, List.filterMap_nil, List.append_nil] at hkind
  obtain ⟨kind, hfirst, hread⟩ : ∃ kind,
      operator.kinds.find? (fun kind => !kind.isTrivia && kind != .notKeyword) = some kind ∧
        (BinaryOperator.ofToken? negated kind).isSome = true := by
    cases operator <;> exact ⟨_, rfl, rfl⟩
  exact isSome_bind_kind (hkind.trans hfirst) hread

/-- The comparison with a subselect is read from its first token. -/
theorem isSome_comparison {left : Expr} {operator : Comparison} {rest : List Element}
    {pieces : List Piece}
    (h : ReadsAll (left.element :: words operator.1.kinds ++ rest) pieces) :
    ((Piece.leadingToken? pieces).bind fun it => BinaryOperator.comparison? it.kind).isSome = true := by
  have hkind := h.find?_kind (!·.isTrivia) rfl
  rw [List.filterMap_append, List.filterMap_cons_none left.tokenKind?_element, filterMap_words]
    at hkind
  obtain ⟨kind, hfirst, hread⟩ : ∃ kind, operator.1.kinds.head? = some kind ∧
      kind.isTrivia = false ∧ (BinaryOperator.comparison? kind).isSome = true := by
    obtain ⟨operator, hcomparison⟩ := operator
    cases operator <;> first | exact ⟨_, rfl, rfl, rfl⟩ | cases hcomparison
  obtain ⟨kinds, hkinds⟩ : ∃ kinds, operator.1.kinds = kind :: kinds := List.head?_eq_some_iff.1 hfirst
  rw [hkinds, List.cons_append, List.find?_cons_of_pos (by simp [hread.1])] at hkind
  exact isSome_bind_kind hkind hread.2

/-- The tree of a `CASE` has its labels among its children. -/
theorem filterMap_caseLabel?_ne_nil {elements : List Element} {pieces : List Piece}
    (h : ReadsAll elements pieces) (hlabel : elements.any isLabel = true) :
    pieces.filterMap Piece.caseLabel? ≠ [] := by
  obtain ⟨element, helement, hlabel⟩ := List.any_eq_true.1 hlabel
  obtain ⟨piece, hpiece, hreads⟩ := h.exists_of_element helement
  unfold isLabel at hlabel
  split at hlabel
  · obtain ⟨info, parts, hkind, rfl, -⟩ := hreads.of_node
    let label : Ast.CaseLabel := .mk info (Piece.expression? parts) (Piece.secondExpression? parts)
    have hlabel : (Piece.ofNode info parts).caseLabel? = some label := by
      simp only [Piece.ofNode, hkind]
      rfl
    exact List.ne_nil_of_mem (List.mem_filterMap.2 ⟨_, hpiece, hlabel⟩)
  · cases hlabel

/-! ## Nodes that call for nothing -/

/-- Whether a node of the kind is filled whatever it consists of. -/
def isFree : Kind → Bool
  | .selectQuery | .selectClause | .topClause | .wildcardSelectColumn | .aliasClause | .fromClause
  | .groupByClause | .orderedQuery | .combinedQuery | .parenthesizedQuery
  | .commonTableExpressionQuery | .commonTableExpression | .columnNameList
  | .derivedTableReference | .argumentList | .singleRowSubselect | .existsSubselect
  | .compilationUnit => true
  | _ => false

/-- A node of such a kind is whole if its children are. -/
theorem whole_of_isFree {kind : Kind} {children : List Element} (hkind : isFree kind = true)
    (h : AllWhole children) : (Element.node kind children).Whole := by
  refine .node h fun _ info pieces hinfo _ _ => ?_
  unfold isFree at hkind
  split at hkind
  case h_19 => cases hkind
  all_goals simp [Piece.ofNode, hinfo, Piece.Filled]

/-- A clause is whole if its entries are. -/
theorem clauseElements_whole {kind : Kind} {leading : List Kind} {entries : List Element}
    (hkind : isFree kind = true) (h : AllWhole entries) :
    AllWhole (clauseElements kind leading entries) := by
  cases entries with
  | nil => exact .nil
  | cons first rest =>
    exact .cons (whole_of_isFree hkind ((AllWhole.words leading).append h.separated)) .nil

/-- A column name list is whole. -/
theorem columnNames_whole (idents : Option (List String)) : AllWhole (columnNames idents) := by
  cases idents with
  | none => exact .nil
  | some idents =>
    have hidents : AllWhole (idents.map Element.identifier) := by
      induction idents with
      | nil => exact .nil
      | cons ident rest ih => exact .token ih
    exact .cons (whole_of_isFree rfl hidents.separated.enclosed) .nil

/-- A row limit is whole. -/
theorem limitElement_whole (limit : Limit) : (limitElement limit).Whole := by
  refine whole_of_isFree rfl (.token (.token ?_))
  cases limit.withTies with
  | true => exact .words _
  | false => exact .nil

/-- A literal of one token is whole. -/
theorem literal_whole {kind : Kind} (text : String) (hkind : kind.isTrivia = false) :
    (literal (.token kind text)).Whole := by
  refine .node (.token .nil) fun _ info pieces hinfo hreads _ => ?_
  simp only [Piece.ofNode, hinfo]
  have hfirst := hreads.find?_kind (!·.isTrivia) rfl
  rw [show [Element.token kind text].filterMap tokenKind? = [kind] from rfl,
    List.find?_cons_of_pos (by simp [hkind])] at hfirst
  obtain ⟨leaf, hleaf, -⟩ := Option.map_eq_some_iff.1 hfirst
  exact Option.isSome_iff_exists.2 ⟨leaf, hleaf⟩

/-- The name of the target of a cast is found again. -/
theorem isSome_target {elements : List Element} {pieces : List Piece}
    (h : ReadsAll elements pieces) (hpieces : ∀ piece ∈ pieces, piece.Complete) (text : String)
    (htext : .node .typeReference [.identifier text] ∈ elements) :
    ((pieces.findSome? Piece.typeName?).bind Ast.TypeName.ident).isSome = true := by
  have hsome : (pieces.findSome? Piece.typeName?).isSome = true := by
    refine h.findSome?_of_node htext fun piece hreads => ?_
    obtain ⟨info, parts, hinfo, rfl, -⟩ := hreads.of_node
    simp only [Piece.ofNode, hinfo]
    rfl
  obtain ⟨name, hname⟩ := Option.isSome_iff_exists.1 hsome
  have hmem : Piece.typeName name ∈ pieces := by
    refine Piece.mem_of_findSome? (fun {piece it} h => ?_) hname
    cases piece <;> cases h
    rfl
  rw [hname, Option.bind_some]
  exact (hpieces _ hmem).filled

/-! ## Trees of drafts -/

mutual

/-- **The tree of an expression** is whole. -/
theorem Expr.whole : (it : Expr) → it.element.Whole
  | .name ident =>
    .node (.token .nil) fun _ info pieces hinfo hreads _ => by
      simp only [Piece.ofNode, hinfo]
      exact hreads.ident _ List.mem_cons_self
  | .parameter ident =>
    .node (.token (.token .nil)) fun _ info pieces hinfo hreads _ => by
      simp only [Piece.ofNode, hinfo]
      exact hreads.ident ident (by simp)
  | .number text => literal_whole text rfl
  | .string value => literal_whole _ rfl
  | .boolean value => literal_whole _ (by cases value <;> rfl)
  | .null => literal_whole _ rfl
  | .parenthesized inner =>
    .node (AllWhole.cons inner.whole .nil).enclosed fun _ info pieces hinfo hreads _ => by
      simp only [Piece.ofNode, hinfo]
      exact hreads.expression? inner (by simp [enclosed])
  | .unary operator operand =>
    .node (.token (.cons operand.whole .nil)) fun _ info pieces hinfo hreads _ => by
      simp only [Piece.ofNode, hinfo]
      exact ⟨isSome_unary hreads, hreads.expression? operand (by simp)⟩
  | .binary left operator right =>
    .node ((AllWhole.cons left.whole (.words _)).append (.cons right.whole .nil))
      fun _ info pieces hinfo hreads _ => by
        simp only [Piece.ofNode, hinfo]
        exact ⟨hreads.expression? left (by simp), hreads.secondExpression? left right (by simp),
          isSome_binary hreads⟩
  | .property target ident =>
    .node (.cons target.whole (.token (.token .nil))) fun _ info pieces hinfo hreads _ => by
      simp only [Piece.ofNode, hinfo]
      exact ⟨hreads.expression? target (by simp), hreads.ident ident (by simp)⟩
  | .method target ident arguments =>
    .node (.cons target.whole (.token (.token (.cons
      (whole_of_isFree rfl (exprElements_whole arguments).separated.enclosed) .nil))))
      fun _ info pieces hinfo hreads _ => by
        simp only [Piece.ofNode, hinfo]
        exact ⟨hreads.expression? target (by simp), hreads.ident ident (by simp)⟩
  | .call ident arguments =>
    .node (.token (.cons
      (whole_of_isFree rfl (exprElements_whole arguments).separated.enclosed) .nil))
      fun _ info pieces hinfo hreads _ => by
        simp only [Piece.ofNode, hinfo]
        exact hreads.ident ident (by simp)
  | .countAll =>
    .node (.token (AllWhole.token .nil).enclosed) fun _ info pieces hinfo hreads _ => by
      simp only [Piece.ofNode, hinfo]
      exact hreads.ident _ List.mem_cons_self
  | .cast operand target => by
    have htarget : (Element.node .typeReference [.identifier target]).Whole :=
      .node (.token .nil) fun _ info pieces hinfo hreads _ => by
        simp only [Piece.ofNode, hinfo]
        exact hreads.ident _ List.mem_cons_self
    refine .node (.token (AllWhole.cons operand.whole (.token (.cons htarget .nil))).enclosed)
      fun _ info pieces hinfo hreads hpieces => ?_
    simp only [Piece.ofNode, hinfo]
    exact ⟨hreads.expression? operand (by simp [enclosed]),
      isSome_target hreads hpieces target (by simp [enclosed])⟩
  | .isNull operand negated =>
    .node (.cons operand.whole (.words _)) fun _ info pieces hinfo hreads _ => by
      simp only [Piece.ofNode, hinfo]
      exact hreads.expression? operand (by simp)
  | .cases input labels otherwise => by
    refine .node (.append (.append (.append (.token (clauseIfAny_whole [] input))
      (labelElements_whole labels)) (clauseIfAny_whole _ otherwise)) (.words _))
      fun hlabelled info pieces hinfo hreads _ => ?_
    simp only [Piece.ofNode, hinfo]
    exact filterMap_caseLabel?_ne_nil hreads (Bool.and_eq_true_iff.1 hlabelled).1
  | .subselect query => whole_of_isFree rfl (AllWhole.cons query.whole .nil).enclosed
  | .existence query => whole_of_isFree rfl (.token (AllWhole.cons query.whole .nil).enclosed)
  | .quantified left operator quantifier query => by
    refine .node (.append (.cons left.whole (.words _)) (AllWhole.cons query.whole .nil).enclosed)
      fun _ info pieces hinfo hreads _ => ?_
    simp only [Piece.ofNode, hinfo]
    refine ⟨hreads.expression? left (by simp), ?_⟩
    rw [words, List.map_append, ← List.cons_append, List.append_assoc] at hreads
    exact isSome_comparison hreads

/-- The trees of expressions are whole. -/
theorem exprElements_whole : (items : List Expr) → AllWhole (exprElements items)
  | [] => .nil
  | it :: rest => .cons it.whole (exprElements_whole rest)

/-- The tree of an expression that need not be there is whole. -/
theorem clauseIfAny_whole (leading : List Kind) : (it : Option Expr) → AllWhole (clauseIfAny leading it)
  | none => .nil
  | some it => (AllWhole.words leading).append (.cons it.whole .nil)

/-- The trees of labels are whole. -/
theorem labelElements_whole : (labels : List CaseLabel) → AllWhole (labelElements labels)
  | [] => .nil
  | .mk condition result :: rest =>
    .cons (.node (.token (.cons condition.whole (.token (.cons result.whole .nil))))
      fun _ info pieces hinfo hreads _ => by
        simp only [Piece.ofNode, hinfo]
        exact ⟨hreads.expression? condition (by simp),
          hreads.secondExpression? condition result (by simp)⟩)
      (labelElements_whole rest)

/-- The tree of a condition that need not be there is whole. -/
theorem conditionElements_whole {kind leading : Kind}
    (hkind : kind = .whereClause ∨ kind = .havingClause ∨ kind = .joinCondition) :
    (it : Option Expr) → AllWhole (conditionElements kind leading it)
  | none => .nil
  | some it =>
    .cons (.node (.token (.cons it.whole .nil)) fun _ info pieces hinfo hreads _ => by
      have hfilled := hreads.expression? it (by simp)
      rcases hkind with rfl | rfl | rfl <;> simp only [Piece.ofNode, hinfo] <;> exact hfilled) .nil

/-- The trees of select list entries are whole. -/
theorem columnElements_whole : (columns : List Column) → AllWhole (columnElements columns)
  | [] => .nil
  | .value it none :: rest =>
    .cons (.node (.cons it.whole .nil) fun _ info pieces hinfo hreads _ => by
      simp only [Piece.ofNode, hinfo]
      exact hreads.expression? it (by simp)) (columnElements_whole rest)
  | .value it (some label) :: rest =>
    .cons (.node (.cons it.whole (.cons (whole_of_isFree rfl (.token (.token .nil))) .nil))
      fun _ info pieces hinfo hreads _ => by
        simp only [Piece.ofNode, hinfo]
        exact hreads.expression? it (by simp)) (columnElements_whole rest)
  | .star :: rest => .cons (whole_of_isFree rfl (.token .nil)) (columnElements_whole rest)
  | .starOf name :: rest =>
    .cons (whole_of_isFree rfl (.token (.token (.token .nil)))) (columnElements_whole rest)

/-- **The tree of a table reference** is whole. -/
theorem Table.whole : (it : Table) → it.element.Whole
  | .byName ident none =>
    .node (.token .nil) fun _ info pieces hinfo hreads _ => by
      simp only [Piece.ofNode, hinfo]
      exact hreads.ident _ List.mem_cons_self
  | .byName ident (some label) =>
    .node (.token (.cons (whole_of_isFree rfl (.token .nil)) .nil))
      fun _ info pieces hinfo hreads _ => by
        simp only [Piece.ofNode, hinfo]
        exact hreads.ident _ List.mem_cons_self
  | .derived query label =>
    whole_of_isFree rfl ((AllWhole.cons query.whole .nil).enclosed.append (.token (.token .nil)))
  | .joined left kind right condition =>
    .node (.append (.cons left.whole (.words _))
      (.cons right.whole (conditionElements_whole (.inr (.inr rfl)) condition)))
      fun _ info pieces hinfo hreads _ => by
        simp only [Piece.ofNode, hinfo]
        exact ⟨hreads.table? left (by simp), hreads.secondTable? left right (by simp)⟩
  | .parenthesized inner =>
    .node (AllWhole.cons inner.whole .nil).enclosed fun _ info pieces hinfo hreads _ => by
      simp only [Piece.ofNode, hinfo]
      exact hreads.table? inner (by simp [enclosed])

/-- The trees of table references are whole. -/
theorem tableElements_whole : (items : List Table) → AllWhole (tableElements items)
  | [] => .nil
  | it :: rest => .cons it.whole (tableElements_whole rest)

/-- The trees of `ORDER BY` entries are whole. -/
theorem orderElements_whole : (items : List OrderItem) → AllWhole (orderElements items)
  | [] => .nil
  | .mk key direction :: rest => by
    have hdirection : AllWhole direction.elements := by
      cases direction with
      | unwritten => exact .nil
      | ascending | descending => exact .words _
    refine .cons (.node (.cons key.whole hdirection) fun _ info pieces hinfo hreads _ => ?_)
      (orderElements_whole rest)
    simp only [Piece.ofNode, hinfo]
    exact hreads.expression? key (by simp)

/-- The trees of definitions are whole. -/
theorem definitionElements_whole :
    (definitions : List Definition) → AllWhole (definitionElements definitions)
  | [] => .nil
  | .mk _ columns query :: rest =>
    .cons (whole_of_isFree rfl (.token ((columnNames_whole columns).append
      (.token (AllWhole.cons query.whole .nil).enclosed)))) (definitionElements_whole rest)

/-- **The tree of a query** is whole. -/
theorem Query.whole : (it : Query) → it.element.Whole
  | .select distinct top columns tables filter grouping having => by
    have htop : AllWhole (top.toList.map limitElement) := by
      cases top with
      | none => exact .nil
      | some limit => exact .cons (limitElement_whole limit) .nil
    have hhead : AllWhole (words (if distinct then [.selectKeyword, .distinctKeyword]
        else [.selectKeyword]) ++ top.toList.map limitElement ++ separated (columnElements columns)) :=
      ((AllWhole.words _).append htop).append (columnElements_whole columns).separated
    refine whole_of_isFree rfl ((((AllWhole.cons (whole_of_isFree rfl hhead) ?_).append ?_).append
      ?_).append ?_)
    · exact clauseElements_whole rfl (tableElements_whole tables)
    · exact conditionElements_whole (.inl rfl) filter
    · exact clauseElements_whole rfl (exprElements_whole grouping)
    · exact conditionElements_whole (.inr (.inl rfl)) having
  | .combined left operator right =>
    whole_of_isFree rfl ((AllWhole.cons left.whole (.words _)).append (.cons right.whole .nil))
  | .ordered input items =>
    whole_of_isFree rfl ((AllWhole.cons input.whole (.words _)).append
      (orderElements_whole items).separated)
  | .withTables definitions body =>
    whole_of_isFree rfl ((AllWhole.token (definitionElements_whole definitions).separated).append
      (.cons body.whole .nil))
  | .parenthesized inner => whole_of_isFree rfl (AllWhole.cons inner.whole .nil).enclosed

end

/-- The tree of a draft is whole. -/
theorem Whole.whole : (it : Whole) → it.element.Whole
  | .query it => it.whole
  | .expr it => it.whole

/-- **A draft is read as a complete piece**, if every `CASE` in it has a label. -/
theorem Whole.complete {draft : Whole} (h : draft.element.isLabelled = true) (id : Nat) :
    (draft.tree id).root.piece.Complete := by
  have hunit : (Element.node .compilationUnit [draft.element]).Whole :=
    whole_of_isFree rfl (.cons draft.whole .nil)
  refine hunit ?_ _ ⟨none, 0, 0, rfl⟩
  simp [isLabelled, areLabelled, h]

end Draft

end QuerySemantics
