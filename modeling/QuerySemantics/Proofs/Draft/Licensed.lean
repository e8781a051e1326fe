import QuerySemantics.Proofs.Draft.Fitting

/-!
# Drafts are licensed

The nodes of a draft license all of their children: there is never one piece too many for the accessors
of a node, and each has at most one identifier of its own, apart from the list of column names behind the
name of a common table.

## Main definitions

* `Draft.AllLicensed`: licensed elements, one after the other.

## Main results

* `Draft.Expr.licensed`, `Draft.Table.licensed`, `Draft.Query.licensed`: the trees of drafts are licensed.
* `Draft.Whole.licensed`: so is the located tree of a whole draft.
-/

set_option autoImplicit false

namespace QuerySemantics

open Element

namespace Draft

/-! ## Licensed elements -/

/-- **Licensed elements**, one after the other. -/
def AllLicensed (elements : List Element) : Prop :=
  ∀ element ∈ elements, element.Licensed

section Licensed

variable {element : Element} {elements others : List Element}

/-- No elements are licensed. -/
@[simp] theorem allLicensed_nil : AllLicensed [] :=
  fun _ h => nomatch h

/-- Elements are licensed if the first and the rest are. -/
@[simp] theorem allLicensed_cons :
    AllLicensed (element :: elements) ↔ element.Licensed ∧ AllLicensed elements :=
  List.forall_mem_cons

/-- Elements are licensed behind others if both lists are. -/
@[simp] theorem allLicensed_append :
    AllLicensed (elements ++ others) ↔ AllLicensed elements ∧ AllLicensed others :=
  List.forall_mem_append

/-- A token is licensed. -/
@[simp] theorem licensed_token (kind : Kind) (text : String) : (Element.token kind text).Licensed :=
  .token kind text

/-- A fixed word is licensed. -/
@[simp] theorem licensed_fixed (kind : Kind) : (Element.fixed kind).Licensed :=
  .token kind _

/-- An identifier is licensed. -/
@[simp] theorem licensed_identifier (text : String) : (Element.identifier text).Licensed :=
  .token .identifier text

/-- Fixed words are licensed. -/
@[simp] theorem allLicensed_words (kinds : List Kind) : AllLicensed (words kinds) := by
  intro element helement
  obtain ⟨kind, -, rfl⟩ := List.mem_map.1 helement
  exact licensed_fixed kind

/-- Parentheses do not matter. -/
@[simp] theorem allLicensed_enclosed : AllLicensed (enclosed elements) ↔ AllLicensed elements := by
  simp [enclosed]

/-- Commas do not matter. -/
theorem allLicensed_separated (h : AllLicensed elements) : AllLicensed (separated elements) := by
  induction elements with
  | nil => exact h
  | cons first rest ih =>
    cases rest with
    | nil => exact h
    | cons second rest =>
      rw [allLicensed_cons] at h
      rw [separated_cons_cons, allLicensed_cons, allLicensed_cons]
      exact ⟨h.1, licensed_fixed .comma, ih h.2⟩

/-- A node is licensed if its children are and it fits. -/
theorem licensed_node {kind : Kind} (h : AllLicensed elements) (hfits : Fits kind elements) :
    (Element.node kind elements).Licensed :=
  .node h hfits

/-- A clause is licensed if its entries are and it fits. -/
theorem allLicensed_clauseElements (kind : Kind) (leading : List Kind) (h : AllLicensed elements)
    (hfits : Fits kind (words leading ++ separated elements)) :
    AllLicensed (clauseElements kind leading elements) := by
  cases elements with
  | nil => exact allLicensed_nil
  | cons first rest =>
    have hentries := allLicensed_append.2 ⟨allLicensed_words leading, allLicensed_separated h⟩
    exact allLicensed_cons.2 ⟨licensed_node hentries hfits, allLicensed_nil⟩

end Licensed

/-! ## Trees of drafts -/

/-- A literal is licensed. -/
theorem literal_licensed {kind : Kind} (text : String) (hkind : kind ≠ .identifier) :
    (literal (.token kind text)).Licensed :=
  licensed_node (by simp) (.leaf (by simp [hkind]) rfl)

/-- A row limit is licensed. -/
theorem limitElement_licensed (limit : Limit) : (limitElement limit).Licensed := by
  cases hties : limit.withTies <;> simp only [limitElement, hties] <;>
    exact licensed_node (by simp) (.leaf (by simp) (by simp))

/-- A list of column names is licensed. -/
theorem columnNames_licensed (idents : Option (List String)) : AllLicensed (columnNames idents) := by
  cases idents with
  | none => exact allLicensed_nil
  | some idents =>
    have hidents : AllLicensed (idents.map Element.identifier) := by
      intro element helement
      obtain ⟨ident, -, rfl⟩ := List.mem_map.1 helement
      exact licensed_identifier ident
    refine allLicensed_cons.2 ⟨licensed_node ?_ (fits_columnNames idents), allLicensed_nil⟩
    exact allLicensed_enclosed.2 (allLicensed_separated hidents)

/-- A list of arguments is licensed if the arguments are. -/
theorem argumentList_licensed {items : List Expr} (h : AllLicensed (exprElements items)) :
    (Element.node .argumentList (enclosed (separated (exprElements items)))).Licensed :=
  licensed_node (allLicensed_enclosed.2 (allLicensed_separated h))
    (fits_exprElements items (by simp) (by simp [(exprElements_read items).inner])
      (by simp [(exprElements_read items).identCount]))

mutual

/-- **The tree of an expression** is licensed. -/
theorem Expr.licensed : (it : Expr) → it.element.Licensed
  | .name ident => licensed_node (by simp) (fits_ident (by simp) rfl (by simp))
  | .parameter ident => licensed_node (by simp) (fits_ident (by simp) rfl (by simp))
  | .number text => literal_licensed text (by decide)
  | .string value => literal_licensed _ (by decide)
  | .boolean value => literal_licensed _ (by cases value <;> decide)
  | .null => literal_licensed _ (by decide)
  | .parenthesized grouped =>
    licensed_node (by simp [grouped.licensed]) (fits_expr grouped (by simp) (by simp) (by simp))
  | .unary operator operand =>
    licensed_node (by simp [operand.licensed])
      (fits_expr operand (by simp) (by simp) (by cases operator <;> simp [UnaryOperator.kind]))
  | .binary left operator right =>
    licensed_node (by simp [left.licensed, right.licensed])
      (fits_exprs left right (by simp) (by simp) (by cases operator <;> simp [BinaryOperator.kinds]))
  | .property target ident =>
    licensed_node (by simp [target.licensed]) (fits_property target ident)
  | .method target ident arguments =>
    licensed_node (by simp [target.licensed, argumentList_licensed (exprElements_licensed arguments)])
      (fits_method target ident _)
  | .call ident arguments =>
    licensed_node (by simp [argumentList_licensed (exprElements_licensed arguments)]) (fits_call ident _)
  | .countAll => licensed_node (by simp) (fits_ident (by simp) (by simp) (by simp [enclosed]))
  | .cast operand target => by
    have htarget : (Element.node .typeReference [.identifier target]).Licensed :=
      licensed_node (by simp) (fits_ident (by simp) rfl (by simp))
    exact licensed_node (by simp [operand.licensed, htarget]) (fits_cast operand _)
  | .isNull operand negated =>
    licensed_node (by simp [operand.licensed])
      (fits_expr operand (by simp) (by simp) (by cases negated <;> simp))
  | .cases input labels otherwise =>
    licensed_node (by simp [clauseIfAny_licensed [] input, labelElements_licensed labels,
      clauseIfAny_licensed [.elseKeyword] otherwise]) (fits_cases input labels otherwise)
  | .subselect query =>
    licensed_node (by simp [query.licensed]) (fits_query query (by simp) (by simp) (by simp))
  | .existence query =>
    licensed_node (by simp [query.licensed]) (fits_query query (by simp) (by simp) (by simp))
  | .quantified left operator quantifier query =>
    licensed_node (by simp [left.licensed, query.licensed])
      (fits_quantified left operator quantifier query)

/-- The trees of expressions are licensed. -/
theorem exprElements_licensed : (items : List Expr) → AllLicensed (exprElements items)
  | [] => allLicensed_nil
  | it :: rest => allLicensed_cons.2 ⟨it.licensed, exprElements_licensed rest⟩

/-- The tree of an expression that need not be there is licensed. -/
theorem clauseIfAny_licensed (leading : List Kind) : (it : Option Expr) →
    AllLicensed (clauseIfAny leading it)
  | none => allLicensed_nil
  | some it =>
    allLicensed_append.2 ⟨allLicensed_words leading, allLicensed_cons.2 ⟨it.licensed, allLicensed_nil⟩⟩

/-- The trees of labels are licensed. -/
theorem labelElements_licensed : (labels : List CaseLabel) → AllLicensed (labelElements labels)
  | [] => allLicensed_nil
  | .mk condition result :: rest =>
    allLicensed_cons.2 ⟨licensed_node (by simp [condition.licensed, result.licensed])
      (fits_exprs condition result (by simp) (by simp) (by simp)), labelElements_licensed rest⟩

/-- The tree of a condition that need not be there is licensed. -/
theorem conditionElements_licensed (kind leading : Kind)
    (hkind : kind ∈ [Kind.whereClause, .havingClause, .joinCondition])
    (hleading : leading ≠ .identifier) :
    (it : Option Expr) → AllLicensed (conditionElements kind leading it)
  | none => allLicensed_nil
  | some it => by
    refine allLicensed_cons.2 ⟨licensed_node (by simp [it.licensed])
      (fits_expr it ?_ (by simp) (by simp [hleading])), allLicensed_nil⟩
    simp only [List.mem_cons, List.not_mem_nil, or_false] at hkind ⊢
    rcases hkind with rfl | rfl | rfl <;> simp

/-- The trees of select list entries are licensed. -/
theorem columnElements_licensed : (columns : List Column) → AllLicensed (columnElements columns)
  | [] => allLicensed_nil
  | .value it none :: rest =>
    allLicensed_cons.2 ⟨licensed_node (by simp [it.licensed])
      (fits_expr it (by simp) (by simp) (by simp)), columnElements_licensed rest⟩
  | .value it (some label) :: rest => by
    have hlabel : (Element.node .aliasClause [.fixed .asKeyword, .identifier label]).Licensed :=
      licensed_node (by simp) (fits_ident (by simp) rfl (by simp))
    exact allLicensed_cons.2 ⟨licensed_node (by simp [it.licensed, hlabel]) (fits_aliased it _),
      columnElements_licensed rest⟩
  | .star :: rest =>
    allLicensed_cons.2 ⟨licensed_node (by simp) (.leaf (by simp) rfl), columnElements_licensed rest⟩
  | .starOf name :: rest =>
    allLicensed_cons.2 ⟨licensed_node (by simp) (fits_ident (by simp) rfl (by simp)),
      columnElements_licensed rest⟩

/-- **The tree of a table reference** is licensed. -/
theorem Table.licensed : (it : Table) → it.element.Licensed
  | .byName ident none => licensed_node (by simp) (fits_ident (by simp) rfl (by simp))
  | .byName ident (some label) => by
    have hlabel : (Element.node .aliasClause [.identifier label]).Licensed :=
      licensed_node (by simp) (fits_ident (by simp) rfl (by simp))
    exact licensed_node (by simp [hlabel]) (fits_labelled ident _)
  | .derived query label =>
    licensed_node (by simp [query.licensed]) (fits_derived query label)
  | .joined left kind right condition =>
    licensed_node (by simp [left.licensed, right.licensed,
      conditionElements_licensed .joinCondition .onKeyword (by simp) (by decide) condition])
      (fits_joined left right kind condition)
  | .parenthesized grouped => licensed_node (by simp [grouped.licensed]) (fits_table grouped)

/-- The trees of table references are licensed. -/
theorem tableElements_licensed : (items : List Table) → AllLicensed (tableElements items)
  | [] => allLicensed_nil
  | it :: rest => allLicensed_cons.2 ⟨it.licensed, tableElements_licensed rest⟩

/-- The trees of `ORDER BY` entries are licensed. -/
theorem orderElements_licensed : (items : List OrderItem) → AllLicensed (orderElements items)
  | [] => allLicensed_nil
  | .mk key direction :: rest => by
    refine allLicensed_cons.2 ⟨licensed_node ?_ (fits_expr key (by simp) ?_ ?_),
      orderElements_licensed rest⟩ <;> cases direction <;> simp [Direction.elements, key.licensed]

/-- The trees of definitions are licensed. -/
theorem definitionElements_licensed :
    (definitions : List Definition) → AllLicensed (definitionElements definitions)
  | [] => allLicensed_nil
  | .mk ident columns query :: rest =>
    allLicensed_cons.2 ⟨licensed_node (by simp [columnNames_licensed columns, query.licensed])
      (fits_definition ident columns query), definitionElements_licensed rest⟩

/-- **The tree of a query** is licensed. -/
theorem Query.licensed : (it : Query) → it.element.Licensed
  | .select distinct top columns tables filter grouping having => by
    have htop : AllLicensed (top.toList.map limitElement) := by
      cases top with
      | none => exact allLicensed_nil
      | some limit => exact allLicensed_cons.2 ⟨limitElement_licensed limit, allLicensed_nil⟩
    have hhead : (Element.node .selectClause (words (if distinct then [.selectKeyword, .distinctKeyword]
        else [.selectKeyword]) ++ top.toList.map limitElement ++
          separated (columnElements columns))).Licensed :=
      licensed_node (by simp [htop, allLicensed_separated (columnElements_licensed columns)])
        (fits_selectClause _ top columns (by cases distinct <;> rfl))
    have hsource := allLicensed_clauseElements .fromClause [.fromKeyword]
      (tableElements_licensed tables) (fits_tableElements tables
        (by simp [(tableElements_read tables).inner]) (by simp [(tableElements_read tables).identCount]))
    have hgrouping := allLicensed_clauseElements .groupByClause [.groupKeyword, .byKeyword]
      (exprElements_licensed grouping) (fits_exprElements grouping (by simp)
        (by simp [(exprElements_read grouping).inner]) (by simp [(exprElements_read grouping).identCount]))
    have hfilter := conditionElements_licensed .whereClause .whereKeyword (by simp) (by decide) filter
    have hhaving := conditionElements_licensed .havingClause .havingKeyword (by simp) (by decide) having
    refine licensed_node ?_ (fits_select _ tables filter grouping having)
    simp only [allLicensed_append, allLicensed_cons]
    exact ⟨⟨⟨⟨hhead, hsource⟩, hfilter⟩, hgrouping⟩, hhaving⟩
  | .combined left operator right =>
    licensed_node (by simp [left.licensed, right.licensed]) (fits_combined left right operator)
  | .ordered input items =>
    licensed_node (by simp [input.licensed, allLicensed_separated (orderElements_licensed items)])
      (fits_ordered input items)
  | .withTables definitions body =>
    licensed_node
      (by simp [body.licensed, allLicensed_separated (definitionElements_licensed definitions)])
      (fits_withTables definitions body)
  | .parenthesized grouped =>
    licensed_node (by simp [grouped.licensed]) (fits_query grouped (by simp) (by simp) (by simp))

end

/-- The tree of a draft is licensed. -/
theorem Whole.element_licensed : (it : Whole) → it.element.Licensed
  | .query it => it.licensed
  | .expr it => it.licensed

/-- The unit around a draft fits. -/
theorem fits_unit (draft : Whole) : Fits .compilationUnit [draft.element] := by
  cases draft with
  | query it =>
    refine .plain (by simp [Whole.element]) fun info pieces hinfo hreads => ?_
    refine hreads.licenses_single (by simp [Whole.element]) it.isRead fun read hread => .visited ?_
    have hquery : pieces.findSome? Piece.query? = some read :=
      Piece.findSome?_of_inner hread fun _ => rfl
    simp [Piece.ofNode, hinfo, Piece.visited, Piece.early, Piece.late, hquery]
  | expr it =>
    refine .plain (by simp [Whole.element]) fun info pieces hinfo hreads => ?_
    refine hreads.licenses_single (by simp [Whole.element]) it.isRead fun read hread => .visited ?_
    have hexpr : Piece.expression? pieces = some read := Piece.expression?_of_inner hread
    have hquery : pieces.findSome? Piece.query? = none := Piece.findSome?_of_inner hread fun _ => rfl
    simp [Piece.ofNode, hinfo, Piece.visited, Piece.early, Piece.late, hexpr, hquery]

/-- **The tree of a draft** is licensed. -/
theorem Whole.licensed (draft : Whole) (id : Nat) : (draft.tree id).root.Licensed := by
  have hunit := licensed_node (by simp [draft.element_licensed]) (fits_unit draft)
  exact hunit none 0 0

end Draft

end QuerySemantics
