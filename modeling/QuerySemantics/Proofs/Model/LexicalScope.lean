import QuerySemantics.Proofs.Binding.Lexical
import QuerySemantics.Proofs.Binding.Traversal

/-!
# Lexical scoping of models

Where in a tree a name may refer to a table or to a common table: a name that was bound to one stands
in a part of the tree that the table or the definition governs, so that no name ever refers to rows
that are not at hand when it is evaluated.

## Main definitions

* `Located.Holds`: a tree that a node stands in.
* `TableInScope`, `DefinitionInScope`: a node stands where a table, or a definition, may be used.

## Main results

* `SemanticModel.lexical_scoping`: whatever is bound to a table instance or a common table stands where
  it may be used.
-/

set_option autoImplicit false

namespace QuerySemantics

open Ast Binding

/-! ## Parts of a tree -/

/-- A tree that the node with the given information stands in. -/
def Located.Holds (part : Located) (info : NodeInfo) : Prop :=
  ∃ node ∈ part.nodes, node.info? = some info

/-- **Where a table may be used**: the node `use` stands

* in a `SELECT` with the table in its `FROM`, but outside of this `FROM`;
* or in an entry of an `ORDER BY` directly behind such a `SELECT`;
* or in the condition of a join with the table on one of its sides;
* or on the right side of an inner or left join with the table on its left side. -/
inductive TableInScope (root : Located) (source use : NodeInfo) : Prop where
  | select {node : Located} {info : NodeInfo} {head : Option SelectClause} {clause : FromClause}
      {filter having : Option Condition} {grouping : Option GroupByClause} :
      node ∈ root.nodes →
      node.piece = .query (.select info head (some clause) filter grouping having) →
      (Piece.fromClause clause).HasTable source → node.Holds use →
      (∀ child ∈ node.children, child.piece = .fromClause clause → ¬ child.Holds use) →
      TableInScope root source use
  | ordered {node child : Located} {own info : NodeInfo} {head : Option SelectClause}
      {clause : FromClause} {filter having : Option Condition} {grouping : Option GroupByClause}
      {items : List OrderItem} {item : OrderItem} :
      node ∈ root.nodes →
      node.piece = .query (.ordered own
        (some (.select info head (some clause) filter grouping having)) items) →
      (Piece.fromClause clause).HasTable source → item ∈ items →
      child ∈ node.children → child.piece = .orderItem item → child.Holds use →
      TableInScope root source use
  | condition {node child : Located} {info : NodeInfo} {left right : Option TableRef}
      {kind : JoinKind} {clause : Condition} {table : TableRef} :
      node ∈ root.nodes → node.piece = .table (.joined info left kind right (some clause)) →
      left = some table ∨ right = some table → (Piece.table table).HasTable source →
      child ∈ node.children → child.piece = .condition clause → child.Holds use →
      TableInScope root source use
  | lateral {node child : Located} {info : NodeInfo} {left right : TableRef} {kind : JoinKind}
      {clause : Option Condition} :
      node ∈ root.nodes → node.piece = .table (.joined info (some left) kind (some right) clause) →
      kind = .inner ∨ kind = .leftOuter → (Piece.table left).HasTable source →
      child ∈ node.children → child.piece = .table right → child.Holds use →
      TableInScope root source use

/-- **Where a definition may be used**: the node `use` stands in the main query of its `WITH`, or in a
later definition. -/
inductive DefinitionInScope (root : Located) (source use : NodeInfo) : Prop where
  | body {node child : Located} {info : NodeInfo} {tables : List Ast.CommonTable}
      {table : Ast.CommonTable} {body : Query} :
      node ∈ root.nodes → node.piece = .query (.withTables info tables (some body)) →
      table ∈ tables → table.info = source →
      child ∈ node.children → child.piece = .query body → child.Holds use →
      DefinitionInScope root source use
  | later {node child : Located} {info : NodeInfo} {before behind : List Ast.CommonTable}
      {table later : Ast.CommonTable} {body : Option Query} :
      node ∈ root.nodes →
      node.piece = .query (.withTables info (before ++ later :: behind) body) →
      table ∈ before → table.info = source →
      child ∈ node.children → child.piece = .commonTable later → child.Holds use →
      DefinitionInScope root source use

/-! ## Governed nodes of a tree -/

/-- A governed part is visited. -/
theorem Piece.Governs.mem_visited {outer part : Piece} {source : NodeInfo} {key : Declared}
    (h : outer.Governs source key part) : part ∈ outer.visited := by
  cases h with
  | select _ hpart => exact List.mem_filterMap.2 ⟨_, List.mem_append_right _ hpart, rfl⟩
  | _ => simp_all [visited, early, late]

/-- Nodes that govern a part are no tokens. -/
theorem Piece.Governs.exists_info {outer part : Piece} {source : NodeInfo} {key : Declared}
    (h : outer.Governs source key part) : ∃ info, outer.info? = some info := by
  cases h <;> exact ⟨_, rfl⟩

namespace Located

variable {root : Located} {index offset next : Nat} {outer part : Piece} {source use : NodeInfo}

/-- A governed part is read from a child, which holds what the part reaches. -/
theorem exists_governed {node : Located} {key : Declared} (h : node.piece.Governs source key part)
    (huse : part.ReachesNode use) : ∃ child ∈ node.children, child.piece = part ∧ child.Holds use := by
  obtain ⟨child, hchild, rfl⟩ :=
    exists_child_of_mem_parts (Piece.mem_parts_of_mem_visited h.mem_visited)
  obtain ⟨inner, hreached, hinfo⟩ := huse
  obtain ⟨found, hfound, rfl⟩ := exists_node_of_reached hreached hinfo
  exact ⟨child, hchild, rfl, found, hfound, found.info?_piece ▸ hinfo⟩

/-- Two children do not hold one node. -/
theorem Placed.eq_of_holds {node child other : Located} (h : node.Placed index offset next)
    (hchild : child ∈ node.children) (hother : other ∈ node.children) (h₁ : child.Holds use)
    (h₂ : other.Holds use) : child = other := by
  cases node with
  | token leaf => simp [children] at hchild
  | node info parts =>
    obtain ⟨-, -, h⟩ := h
    obtain ⟨found, hfound, hinfo⟩ := h₁
    obtain ⟨found', hfound', hinfo'⟩ := h₂
    have hnumber : found.index? = some use.index := by rw [index?, hinfo, Option.map_some]
    have hnumber' : found'.index? = some use.index := by rw [index?, hinfo', Option.map_some]
    exact h.eq_of_index hchild hother hfound hfound' hnumber hnumber'

/-- **Tables govern where they may be used.** -/
theorem Placed.tableInScope (h : root.Placed index offset next) {node : Located}
    (hnode : node ∈ root.nodes) {own : SymbolId}
    (hgoverns : node.piece.Governs source (.tableInstance own) part)
    (huse : part.ReachesNode use) : TableInScope root source use := by
  obtain ⟨child, hchild, hpart, hholds⟩ := exists_governed hgoverns huse
  generalize hpiece : node.piece = outer at hgoverns
  cases hgoverns with
  | select htable hlate =>
    have hinside : node.Holds use :=
      hholds.imp fun found ⟨hfound, hinfo⟩ => ⟨mem_nodes_of_child hchild hfound, hinfo⟩
    refine .select hnode hpiece htable hinside fun other hother hclause hholds' => ?_
    obtain ⟨_, _, hplaced, -⟩ := h.placed_of_mem hnode
    obtain rfl := hplaced.eq_of_holds hchild hother hholds hholds'
    -- the `FROM` is not among the parts that are bound behind it
    rw [← hpart, hclause] at hlate
    simp only [Piece.late, List.mem_cons, List.not_mem_nil, or_false] at hlate
    rcases hlate with hlate | hlate | hlate | hlate <;>
      obtain ⟨_, _, heq⟩ := Option.map_eq_some_iff.1 hlate.symm <;> cases heq
  | ordered htable hitem => exact .ordered hnode hpiece htable hitem hchild hpart hholds
  | condition hside htable => exact .condition hnode hpiece hside htable hchild hpart hholds
  | lateral hlateral htable =>
    refine .lateral hnode hpiece ?_ htable hchild hpart hholds
    unfold isLateral at hlateral
    split at hlateral <;> simp_all

/-- **Definitions govern where they may be used.** -/
theorem definitionInScope {node : Located} (hnode : node ∈ root.nodes) {own : SymbolId}
    (hgoverns : node.piece.Governs source (.commonTable own) part)
    (huse : part.ReachesNode use) : DefinitionInScope root source use := by
  obtain ⟨child, hchild, hpart, hholds⟩ := exists_governed hgoverns huse
  generalize hpiece : node.piece = outer at hgoverns
  cases hgoverns with
  | body htable => exact .body hnode hpiece htable rfl hchild hpart hholds
  | later htable => exact .later hnode hpiece htable rfl hchild hpart hholds

end Located

namespace SemanticModel

variable {analysis : Analysis} {next : SymbolId}

/-- **Lexical scoping.** Let the pass record what a node was bound to.

* If the node refers to a table instance or to a column of one, and the pass bound another node to this
  instance, then the first node stands where this table may be used.
* If the node refers to a common table, then the pass bound a definition to the common table, and the
  node stands where the definition may be used.

**Proof sketch.** The scope of the catalog declares nothing. So what a node refers to was declared on the
way from the root down to it, by something that governs the node. -/
theorem lexical_scoping {use : Record} (huse : use ∈ (analysis.model next).1.result.records) :
    (∀ table, use.node.used? = some (.ofInstance table) →
      ∀ source ∈ (analysis.model next).1.result.records,
        source.node.introduced? = some (.ofInstance table) →
          TableInScope analysis.tree.root source.info use.info) ∧
      ∀ table, use.node.used? = some (.ofCommonTable table) →
        (∃ source ∈ (analysis.model next).1.result.records,
          source.node.introduced? = some (.ofCommonTable table)) ∧
          ∀ source ∈ (analysis.model next).1.result.records,
            source.node.introduced? = some (.ofCommonTable table) →
              DefinitionInScope analysis.tree.root source.info use.info := by
  obtain ⟨outcome, first, last, log, hvisit, hrecords, -⟩ :=
    analysis.tree.bind_visits analysis.options analysis.catalog next
  have hlog : (analysis.model next).1.result.records = log.records := hrecords
  rw [hlog] at huse ⊢
  let root : Scope := ⟨next, analysis.catalog, []⟩
  change Visit (analysis.tree.steps root outcome) first last log at hvisit
  have hwithin : ∀ key, use.node.used? = some key →
      Visit.Within (analysis.tree.steps root outcome) first last log use.info key := by
    intro key hkey
    refine (hvisit.governed huse hkey).resolve_left ?_
    rintro ⟨step, hstep, hdeclares, -⟩
    unfold SyntaxTree.steps at hstep
    split at hstep
    · obtain rfl := List.mem_singleton.1 hstep
      exact absurd hdeclares List.not_mem_nil
    · exact absurd hstep List.not_mem_nil
  have hgoverns : ∀ key, use.node.used? = some key → ∀ source, log.Introduces source key →
      ∃ node ∈ analysis.tree.root.nodes, ∃ part, node.piece.Governs source key part ∧
        part.ReachesNode use.info := by
    intro key hkey source hsource
    obtain ⟨outer, part, houter, hgoverns, hreaches⟩ := (hwithin key hkey).governed source hsource
    obtain ⟨info, hinfo⟩ := hgoverns.exists_info
    obtain ⟨node, hnode, rfl⟩ :=
      Located.exists_node_of_reached (SyntaxTree.comes_steps.1 houter).2 hinfo
    exact ⟨node, hnode, part, hgoverns, hreaches⟩
  refine ⟨fun table htable source hsource hintroduced => ?_, fun table htable => ⟨?_, ?_⟩⟩
  · obtain ⟨node, hnode, part, hgoverns, hreaches⟩ :=
      hgoverns _ htable source.info ⟨source, hsource, rfl, hintroduced⟩
    exact analysis.tree.placed_root.tableInScope hnode hgoverns hreaches
  · obtain ⟨source, record, hrecord, -, hintroduced⟩ := (hwithin _ htable).introduced _ rfl
    exact ⟨record, hrecord, hintroduced⟩
  · intro source hsource hintroduced
    obtain ⟨node, hnode, part, hgoverns, hreaches⟩ :=
      hgoverns _ htable source.info ⟨source, hsource, rfl, hintroduced⟩
    exact Located.definitionInScope hnode hgoverns hreaches

/-- The analysis of a query that selects the rows of the table that it lists. -/
def selectedTable : Analysis :=
  ⟨⟨0, .node .compilationUnit [.node .selectQuery [
    .node .selectClause [.token .selectKeyword "SELECT", .token .whitespace " ",
      .node .expressionSelectColumn [.node .nameExpression [.token .identifier "t"]]],
    .token .whitespace " ",
    .node .fromClause [.token .fromKeyword "FROM", .token .whitespace " ",
      .node .namedTableReference [.token .identifier "t"]]]]⟩,
    { (Catalog.empty 0).1 with tables := [⟨1, "t", []⟩] }, {}⟩

/-- The selected name refers to the table in the list, and stands where it may be used. -/
theorem selectedTable_in_scope : ∃ use ∈ (selectedTable.model 2).1.result.records,
    ∃ source ∈ (selectedTable.model 2).1.result.records, use.info.index = 4 ∧
      source.info.index = 6 ∧ use.node.used? = source.node.introduced? ∧
        TableInScope selectedTable.tree.root source.info use.info := by
  have hrecords : (selectedTable.model 2).1.result.records.map
      (fun record => (record.info.index, record.node.used?, record.node.introduced?)) =
        [(1, none, none), (3, none, none), (4, some (.tableInstance 3), none),
          (6, none, some (.tableInstance 3))] := by
    decide +kernel
  have hmem : ∀ entry ∈ [(1, none, none), (3, none, none), (4, some (.tableInstance 3), none),
      (6, none, some (.tableInstance 3))], ∃ record ∈ (selectedTable.model 2).1.result.records,
        (record.info.index, record.node.used?, record.node.introduced?) = entry := by
    intro entry hentry
    rw [← hrecords] at hentry
    exact List.mem_map.1 hentry
  obtain ⟨use, huse, hkey⟩ := hmem _ (.tail _ (.tail _ (.head _)))
  obtain ⟨source, hsource, hkey'⟩ := hmem _ (.tail _ (.tail _ (.tail _ (.head _))))
  simp only [Prod.mk.injEq] at hkey hkey'
  let table : TableInstance := { (default : TableInstance) with id := 3 }
  exact ⟨use, huse, source, hsource, hkey.1, hkey'.1, by rw [hkey.2.1, hkey'.2.2],
    (lexical_scoping huse).1 table hkey.2.1 source hsource hkey'.2.2⟩

end SemanticModel

end QuerySemantics
