import QuerySemantics.Proofs.Binding.Sources
import QuerySemantics.Proofs.Model.Account
import QuerySemantics.Proofs.Model.Coverage
import QuerySemantics.Proofs.Model.Lookup
import QuerySemantics.Proofs.Tree.Shift

/-!
# Views of a FROM clause

A model shows the instances of a `FROM` clause in three ways: by the scope that the `SELECT` enters, by
the bound `FROM` list, and by the symbols that the table references of the tree declare. All of these
are the same list, and `*` stands for its columns.

## Main definitions

* `SemanticModel.Declares`: the sources of table references declare a list of instances.

## Main results

* `SemanticModel.boundNode?_of_reached`: the model knows what was reached and recorded.
* `Analysis.model_sources`: the views agree.
-/

set_option autoImplicit false

namespace QuerySemantics

open Binding

namespace SemanticModel

/-- **Declaring** instances: they are declared by the sources of the table references, in order. -/
def Declares (model : SemanticModel) (items : List Ast.TableRef) (instances : List TableInstance) :
    Prop :=
  instances.map (fun it => some (Symbol.tableInstance it)) =
    (items.flatMap Ast.TableRef.sources).map fun source =>
      model.declared? (model.analysis.tree.ref source)

variable {analysis : Analysis} {next : SymbolId}

/-- **The model knows** what was reached and recorded. -/
theorem boundNode?_of_reached {piece : Piece} {info : NodeInfo}
    (hreached : analysis.tree.root.piece.Reached piece) (hrecorded : piece.isRecorded = true)
    (hinfo : piece.info? = some info) : (analysis.model next).1.boundNode? (analysis.tree.ref info) =
      (analysis.tree.bind analysis.options analysis.catalog next).1.boundNode? info.index := by
  obtain ⟨node, hnode, rfl⟩ := Located.exists_node_of_reached hreached hinfo
  rw [node.info?_piece] at hinfo
  rw [boundNode?_ref hnode hinfo, Located.coreInfo_eq hinfo (Piece.core_of_isRecorded hrecorded)]

/-- A source is reached, and it is recorded. -/
theorem exists_of_mem_sources : ∀ (it : Ast.TableRef) {source : NodeInfo}, source ∈ it.sources →
    ∃ piece, (Piece.table it).Reached piece ∧ piece.isRecorded = true ∧ piece.info? = some source
  | .named info _ _, source, h | .derived info _ _, source, h => by
    obtain rfl := List.mem_singleton.1 h
    exact ⟨_, .refl _, rfl, rfl⟩
  | .joined info (some left) kind (some right) condition, source, h => by
    have hpart : ∀ part ∈ [left, right], Piece.table part ∈
        (Piece.table (.joined info (some left) kind (some right) condition)).visited := by
      simp [Piece.visited, Piece.early, Piece.late]
    rcases List.mem_append.1 h with h | h
    · obtain ⟨piece, hreached, hpiece⟩ := exists_of_mem_sources left h
      exact ⟨piece, .step (hpart left (by simp)) hreached, hpiece⟩
    · obtain ⟨piece, hreached, hpiece⟩ := exists_of_mem_sources right h
      exact ⟨piece, .step (hpart right (by simp)) hreached, hpiece⟩
  | .parenthesized info (some inner), source, h => by
    have hpart : Piece.table inner ∈ (Piece.table (.parenthesized info (some inner))).visited := by
      simp [Piece.visited, Piece.early, Piece.late]
    obtain ⟨piece, hreached, hpiece⟩ := exists_of_mem_sources inner h
    exact ⟨piece, .step hpart hreached, hpiece⟩
  | .joined _ none _ _ _, _, h | .joined _ (some _) _ none _, _, h | .parenthesized _ none, _, h => by
    cases h

/-- The declared instances by the numbers of the sources. -/
theorem declares_eq {items : List Ast.TableRef} {instances : List TableInstance} {numbers : List Nat}
    (h : (analysis.model next).1.Declares items instances)
    (hnumbers : (items.flatMap Ast.TableRef.sources).map NodeInfo.index = numbers) :
    instances.map (fun it => some (Symbol.tableInstance it)) =
      numbers.map fun number => (analysis.model next).1.declared? ⟨analysis.tree.id, number⟩ := by
  rw [← hnumbers, List.map_map]
  exact h

/-- What the log knows of the sources, the model knows too, if nodes are distinct. -/
theorem declares_of_log {items : List Ast.TableRef} {instances : List TableInstance}
    (hdistinct : analysis.tree.Distinct) (hreached : ∀ it ∈ items, analysis.tree.root.piece.Reached (.table it))
    (h : instances.map (fun it => some (Symbol.tableInstance it)) =
      (items.flatMap Ast.TableRef.sources).map fun source =>
        ((analysis.tree.bind analysis.options analysis.catalog next).1.log.record? source.index).bind
          (·.node.declared?)) : (analysis.model next).1.Declares items instances := by
  refine h.trans (List.map_congr_left fun source hsource => ?_)
  obtain ⟨it, hit, hsource⟩ := List.mem_flatMap.1 hsource
  obtain ⟨piece, hpiece, hrecorded, hinfo⟩ := exists_of_mem_sources it hsource
  have hnode : (analysis.model next).1.boundNode? (analysis.tree.ref source) = _ :=
    boundNode?_of_reached ((hreached it hit).trans hpiece) hrecorded hinfo
  change _ = ((analysis.model next).1.boundNode? (analysis.tree.ref source)).bind Bound.Node.declared?
  rw [hnode, BindingResult.boundNode?_eq rfl (hdistinct.alone _), BindingResult.latest?, Option.bind_map]
  rfl

end SemanticModel

namespace SyntaxTree

variable {tree : SyntaxTree} {options : Options} {catalog : Catalog} {next : SymbolId}

/-- **The views of a `FROM` clause**: a `SELECT` that is bound is one of its tables, enters a scope of
their instances, and the sources declare these. A list of only `*` stands for all their columns. -/
theorem views_of_select {info : NodeInfo} {head : Option Ast.SelectClause}
    {source : Option Ast.FromClause} {filter : Option Ast.Condition}
    {grouping : Option Ast.GroupByClause} {having : Option Ast.Condition} {node : Bound.Node}
    (hreached : tree.root.piece.Reached (.query (.select info head source filter grouping having)))
    (hwhole : ∀ it ∈ source.toList.flatMap Ast.FromClause.items, it.isWhole = true)
    (hnode : (tree.bind options catalog next).1.latest? info.index = some node) :
    ∃ query tables items, node = .query query ∧ query.Selects tables items ∧
      (∃ (outer : Scope) (id : SymbolId), (tree.bind options catalog next).1.log.scope? info.index =
        some (outer.push id (.tables (tables.flatMap Bound.TableRef.instances)))) ∧
      (tables.flatMap Bound.TableRef.instances).map (fun it => some (Symbol.tableInstance it)) =
        ((source.toList.flatMap Ast.FromClause.items).flatMap Ast.TableRef.sources).map
          (fun source => ((tree.bind options catalog next).1.log.record? source.index).bind
            (·.node.declared?)) ∧
      ∀ own distinct top star, head = some (.mk own distinct top [.wildcard star none]) →
        ∃ columns, items = [.wildcard none columns] ∧ query.output = columns.map (·.output) ∧
          Bound.ExpandedColumn.Pairs (tables.flatMap Bound.TableRef.instances) columns := by
  obtain ⟨record, hrecord, rfl⟩ := Option.map_eq_some_iff.1 hnode
  have hroot := isRoot_of_record (List.mem_of_find?_eq_some hrecord)
  obtain ⟨yield, own, entries, hmakes, hown, hentries⟩ := certified hroot hreached
  cases hmakes with
  | plain hplain => cases hplain
  | @select _ _ _ _ _ _ tables items query scope outer id hsource hnone _ _ hselects hstands =>
    have hfound := hown _ (List.mem_singleton_self _)
    obtain rfl := Option.some.inj (hrecord.symm.trans hfound)
    refine ⟨query, tables, items, rfl, hselects, ⟨outer, id, ?_⟩, ?_, ?_⟩
    · exact hentries _ (List.mem_singleton_self _)
    · cases source with
      | none =>
        rw [hnone rfl]
        rfl
      | some clause =>
        obtain ⟨own, its⟩ := clause
        have hitems : (some (Ast.FromClause.mk own its)).toList.flatMap Ast.FromClause.items = its :=
          List.flatMap_singleton _ _
        have htables : List.Forall₂ (TableIs (tree.bind options catalog next).1.log) its tables :=
          hsource _ rfl
        have hclause : Piece.fromClause (.mk own its) ∈ (Piece.query
            (.select info head (some (.mk own its)) filter grouping having)).visited := by
          simp [Piece.visited, Piece.early, Piece.late]
        have hcertified : ∀ it ∈ its, ∀ piece, (Piece.table it).Reached piece →
            Certified options.caseSensitive (tree.bind options catalog next).1.log piece := by
          intro it hit piece hpiece
          have hitem : Piece.table it ∈ (Piece.fromClause (.mk own its)).visited := by
            simpa [Piece.visited, Piece.early, Piece.late] using hit
          exact certified hroot (hreached.trans (.step hclause (.step hitem hpiece)))
        rw [hitems] at hwhole ⊢
        exact declares_of_tablesAre hwhole hcertified htables
    · rintro own distinct top star rfl
      cases hstands _ _ _ _ rfl with
      | cons hstand hrest =>
        cases hrest
        obtain ⟨columns, rfl, hpairs⟩ := hstand
        exact ⟨columns, rfl, by rw [hselects.output, List.flatMap_singleton]; rfl, hpairs⟩

/-- **The views of the operands of a join**: it enters a scope of their instances for its condition,
and the sources of both declare these. -/
theorem views_of_join {info : NodeInfo} {left right : Ast.TableRef} {kind : JoinKind}
    {condition : Option Ast.Condition} {node : Bound.Node}
    (hreached : tree.root.piece.Reached (.table (.joined info (some left) kind (some right) condition)))
    (hwhole : left.isWhole = true ∧ right.isWhole = true)
    (hnode : (tree.bind options catalog next).1.latest? info.index = some node) :
    ∃ left' right' condition', node = .table (.joined left' kind right' condition') ∧
      (∃ (outer : Scope) (id : SymbolId), (tree.bind options catalog next).1.log.scope? info.index =
        some (outer.push id (.tables (left'.instances ++ right'.instances)))) ∧
      (left'.instances ++ right'.instances).map (fun it => some (Symbol.tableInstance it)) =
        ([left, right].flatMap Ast.TableRef.sources).map fun source =>
          ((tree.bind options catalog next).1.log.record? source.index).bind (·.node.declared?) := by
  obtain ⟨record, hrecord, rfl⟩ := Option.map_eq_some_iff.1 hnode
  have hroot := isRoot_of_record (List.mem_of_find?_eq_some hrecord)
  obtain ⟨yield, own, entries, hmakes, hown, hentries⟩ := certified hroot hreached
  cases hmakes with
  | plain hplain => cases hplain
  | @joined _ _ _ _ _ left' right' condition' scope outer id hleft hright =>
    have hfound := hown _ (List.mem_singleton_self _)
    obtain rfl := Option.some.inj (hrecord.symm.trans hfound)
    refine ⟨left', right', condition', rfl, ⟨outer, id, ?_⟩, ?_⟩
    · exact hentries _ (List.mem_singleton_self _)
    have htables : List.Forall₂ (TableIs (tree.bind options catalog next).1.log) [left, right]
        [left', right'] := .cons (hleft _ rfl) (.cons (hright _ rfl) .nil)
    have hcertified : ∀ it ∈ [left, right], ∀ piece, (Piece.table it).Reached piece →
        Certified options.caseSensitive (tree.bind options catalog next).1.log piece := by
      intro it hit piece hpiece
      have hpart : Piece.table it ∈
          (Piece.table (.joined info (some left) kind (some right) condition)).visited := by
        rcases List.mem_pair.1 hit with rfl | rfl <;> simp [Piece.visited, Piece.early, Piece.late]
      exact certified hroot (hreached.trans (.step hpart hpiece))
    have hdeclares := declares_of_tablesAre (by simpa using hwhole) hcertified htables
    simpa using hdeclares

end SyntaxTree

namespace SemanticModel

variable {analysis : Analysis} {next : SymbolId}

/-- **Sharing** instances between the scope that a node enters and the sources of table references. -/
def Shares (model : SemanticModel) (info : NodeInfo) (items : List Ast.TableRef)
    (instances : List TableInstance) : Prop :=
  (∃ (outer : Scope) (id : SymbolId),
    model.result.scope? info.index = some (outer.push id (.tables instances))) ∧
  model.Declares items instances

/-- A node that is bound is reached, and the log has what the model shows of it, if nodes are distinct. -/
theorem reached_of_boundNode? {node : Located} {info : NodeInfo} {bound : Bound.Node}
    (hdistinct : analysis.tree.Distinct) (hnode : node ∈ analysis.tree.root.nodes)
    (hinfo : node.piece.info? = some info) (hcore : node.piece.core = node.piece)
    (hbound : (analysis.model next).1.boundNode? (analysis.tree.ref info) = some bound) :
    analysis.tree.root.piece.Reached node.piece ∧
      (analysis.tree.bind analysis.options analysis.catalog next).1.latest? info.index = some bound := by
  have hinfo' := node.info?_piece ▸ hinfo
  rw [boundNode?_ref hnode hinfo', Located.coreInfo_eq hinfo' hcore] at hbound
  have halone := hdistinct.alone info.index
  refine ⟨((isSome_result_of_alone hnode hinfo' halone).1 (by rw [hbound]; rfl)).2.1, ?_⟩
  rw [← BindingResult.boundNode?_eq analysis.tree.coincidences_bind halone, hbound]

/-- What the log knows of the scope of a node, the model shows, if nodes are distinct. -/
theorem Shares.of_log {info : NodeInfo} {items : List Ast.TableRef} {instances : List TableInstance}
    (hdistinct : analysis.tree.Distinct)
    (hscope : ∃ (outer : Scope) (id : SymbolId),
      (analysis.tree.bind analysis.options analysis.catalog next).1.log.scope? info.index =
        some (outer.push id (.tables instances)))
    (hdeclares : (analysis.model next).1.Declares items instances) :
    (analysis.model next).1.Shares info items instances := by
  obtain ⟨outer, id, hscope⟩ := hscope
  refine ⟨⟨outer, id, ?_⟩, hdeclares⟩
  rw [← hscope]
  exact BindingResult.scope?_eq rfl (hdistinct.alone _)

end SemanticModel

namespace Analysis

/-- **The views of a `FROM` clause agree**, where nodes are distinct. If its joins have both operands and
its parentheses are not empty, then the instances of the bound `FROM` list are those of the scope that the
`SELECT` enters and those that the tables and queries of the clause declare, in order; and `*` puts out
all of their columns. It is the same for the operands of each join and the scope of its condition. In the
same place, over the same `FROM` clause with instances whose names differ, a list of a qualified `*` for
each of them puts out the same names and types as `*`. -/
theorem model_sources (analysis : Analysis) (hdistinct : analysis.tree.Distinct) (next : SymbolId) :
    let model := (analysis.model next).1
    (∀ node ∈ analysis.tree.root.nodes, ∀ info head source filter grouping having,
      node.piece = .query (.select info head source filter grouping having) →
      (∀ it ∈ source.toList.flatMap Ast.FromClause.items, it.isWhole = true) →
      ∀ bound, model.boundNode? (analysis.tree.ref info) = some bound →
        ∃ query tables items, bound = .query query ∧ query.Selects tables items ∧
          model.Shares info (source.toList.flatMap Ast.FromClause.items)
            (tables.flatMap Bound.TableRef.instances) ∧
          ∀ own distinct top star, head = some (.mk own distinct top [.wildcard star none]) →
            ∃ columns, items = [.wildcard none columns] ∧ query.output = columns.map (·.output) ∧
              Bound.ExpandedColumn.Pairs (tables.flatMap Bound.TableRef.instances) columns) ∧
    (∀ node ∈ analysis.tree.root.nodes, ∀ info left kind right condition,
      node.piece = .table (.joined info (some left) kind (some right) condition) →
      left.isWhole = true ∧ right.isWhole = true →
      ∀ bound, model.boundNode? (analysis.tree.ref info) = some bound →
        ∃ left' right' condition', bound = .table (.joined left' kind right' condition') ∧
          model.Shares info [left, right] (left'.instances ++ right'.instances)) ∧
    ∀ (like : Likeness) (source source' : Option Ast.FromClause),
      Option.Rel (Ast.FromClause.Alike like) source source' → ∀ (env : Env) (pass pass' : Pass),
      pass'.next = pass.next → pass'.members = pass.members →
      ((fromInstances source env pass).map TableInstance.name).Pairwise
        (fun name other => Matching.equalIgnoringCase name other = false) →
      ∀ (entries : List Ast.SelectItem), entries.map starName? =
        (fromInstances source env pass).map (fun table => some table.name) →
      ∀ info own distinct top star filter grouping having info' own' distinct' top' filter' grouping'
        having', QueryColumn.shape (query (.select info' (some (.mk own' distinct' top' entries))
            source' filter' grouping' having') env pass').1.query.output =
          QueryColumn.shape (query (.select info (some (.mk own distinct top [.wildcard star none]))
            source filter grouping having) env pass).1.query.output := by
  intro model
  refine ⟨?_, ?_, ?_⟩
  · intro node hnode info head source filter grouping having hpiece hwhole bound hbound
    obtain ⟨hreached, hfound⟩ :=
      SemanticModel.reached_of_boundNode? hdistinct hnode (by rw [hpiece]; rfl) (by rw [hpiece]; rfl) hbound
    rw [hpiece] at hreached
    obtain ⟨query, tables, items, rfl, hselects, hscope, hdeclares, hstar⟩ :=
      SyntaxTree.views_of_select hreached hwhole hfound
    refine ⟨query, tables, items, rfl, hselects, .of_log hdistinct hscope ?_, hstar⟩
    refine SemanticModel.declares_of_log hdistinct (fun it hit => hreached.trans ?_) hdeclares
    obtain ⟨clause, hclause, hit⟩ := List.mem_flatMap.1 hit
    obtain rfl := Option.mem_toList.1 hclause
    have hclause : Piece.fromClause clause ∈
        (Piece.query (.select info head (some clause) filter grouping having)).visited := by
      simp [Piece.visited, Piece.early, Piece.late]
    have hitem : Piece.table it ∈ (Piece.fromClause clause).visited := by
      obtain ⟨own, items⟩ := clause
      simpa [Piece.visited, Piece.early, Piece.late, Ast.FromClause.items] using hit
    exact .step hclause (.step hitem (.refl _))
  · intro node hnode info left kind right condition hpiece hwhole bound hbound
    obtain ⟨hreached, hfound⟩ :=
      SemanticModel.reached_of_boundNode? hdistinct hnode (by rw [hpiece]; rfl) (by rw [hpiece]; rfl) hbound
    rw [hpiece] at hreached
    obtain ⟨left', right', condition', rfl, hscope, hdeclares⟩ :=
      SyntaxTree.views_of_join hreached hwhole hfound
    refine ⟨left', right', condition', rfl, .of_log hdistinct hscope ?_⟩
    refine SemanticModel.declares_of_log hdistinct (fun it hit => hreached.trans (.step ?_ (.refl _)))
      hdeclares
    rcases List.mem_pair.1 hit with rfl | rfl <;> simp [Piece.visited, Piece.early, Piece.late]
  · intro like source source' halike env pass pass' hnext hmembers hdiffer entries hnames
    intros
    have hsame : fromInstances source' env pass' = fromInstances source env pass := by
      rw [fromInstances, fromClause_alike halike env hnext hmembers, fromInstances]
    rw [shape_star, shape_each (hsame ▸ hdiffer) (hsame ▸ hnames), hsame]

/-- The analysis of a query over a join of two tables. -/
def joinedTables : Analysis :=
  ⟨⟨0, .node .compilationUnit [.node .selectQuery [
    .node .selectClause [.token .selectKeyword "SELECT", .token .whitespace " ",
      .node .wildcardSelectColumn [.token .star "*"]],
    .token .whitespace " ",
    .node .fromClause [.token .fromKeyword "FROM", .token .whitespace " ",
      .node .joinedTableReference [.node .namedTableReference [.token .identifier "t"],
        .token .whitespace " ", .token .crossKeyword "CROSS", .token .whitespace " ",
        .token .joinKeyword "JOIN", .token .whitespace " ",
        .node .namedTableReference [.token .identifier "u"]]]]]⟩,
    { (Catalog.empty 0).1 with
      tables := [⟨1, "t", [⟨2, "x", .boolean, 0⟩]⟩, ⟨3, "u", [⟨4, "y", .boolean, 0⟩]⟩] }, {}⟩

/-- The `FROM` clause of both tables. -/
def bothTables : Ast.FromClause :=
  .mk ⟨.fromClause, 4, 9, 13, some 9⟩ [
    .named ⟨.namedTableReference, 5, 14, 15, some 14⟩ (some ⟨.identifier, "t", 14⟩) none,
    .named ⟨.namedTableReference, 6, 16, 17, some 16⟩ (some ⟨.identifier, "u", 16⟩) none]

/-- The select list of a `*` for each of both tables. -/
def eachTable : List Ast.SelectItem := [
  .wildcard ⟨.wildcardSelectColumn, 3, 7, 10, some 7⟩ (some ⟨.identifier, "t", 7⟩),
  .wildcard ⟨.wildcardSelectColumn, 4, 11, 14, some 11⟩ (some ⟨.identifier, "u", 11⟩)]

/-- The query that selects `*` or a list of entries from both tables. -/
def selectBoth (entries : List Ast.SelectItem) : Ast.Query :=
  .select ⟨.selectQuery, 1, 0, 17, some 0⟩ (some (.mk ⟨.selectClause, 2, 0, 8, some 0⟩ false none entries))
    (some bothTables) none none none

/-- Whether a piece is a `SELECT` at the first node of a tree, from a whole `FROM` clause with sources of
the given numbers. -/
def selectsFrom (numbers : List Nat) : Piece → Bool
  | .query (.select info _ source _ _ _) => info.index == 1 &&
    (source.toList.flatMap Ast.FromClause.items).all Ast.TableRef.isWhole &&
    ((source.toList.flatMap Ast.FromClause.items).flatMap Ast.TableRef.sources).map
      NodeInfo.index == numbers
  | _ => false

/-- The operands of a join declare the instances that its query selects from, one by one; and it makes
no difference whether one `*` stands for both tables, or one for each. -/
theorem model_sources_joinedTables :
    joinedTables.tree.Distinct ∧
    (∃ (outer : Scope) (id : SymbolId) (instances : List TableInstance),
      (joinedTables.model 5).1.result.scope? 1 = some (outer.push id (.tables instances)) ∧
      instances.map (fun it => some (Symbol.tableInstance it)) =
        [6, 7].map fun index => (joinedTables.model 5).1.declared? ⟨joinedTables.tree.id, index⟩) ∧
    QueryColumn.shape (query (selectBoth eachTable) ⟨{}, ⟨5, joinedTables.catalog, []⟩⟩
        (.start 6)).1.query.output =
      QueryColumn.shape (query (selectBoth [.wildcard ⟨.wildcardSelectColumn, 3, 7, 8, some 7⟩ none])
        ⟨{}, ⟨5, joinedTables.catalog, []⟩⟩ (.start 6)).1.query.output := by
  have hdistinct : joinedTables.tree.Distinct := by decide +kernel
  obtain ⟨hselects, -, hshape⟩ := model_sources joinedTables hdistinct 5
  refine ⟨hdistinct, ?_, ?_⟩
  · have hnode : (joinedTables.tree.root.nodes.any fun node => selectsFrom [6, 7] node.piece) = true := by
      decide +kernel
    have hbound : ((joinedTables.model 5).1.boundNode? ⟨joinedTables.tree.id, 1⟩).isSome = true := by
      decide +kernel
    obtain ⟨node, hnode, hmatch⟩ := List.any_eq_true.1 hnode
    unfold selectsFrom at hmatch
    split at hmatch
    · rename_i info head source filter grouping having hpiece
      simp only [Bool.and_eq_true, beq_iff_eq, List.all_eq_true] at hmatch
      obtain ⟨⟨hindex, hwhole⟩, hsources⟩ := hmatch
      obtain ⟨bound, hbound⟩ := Option.isSome_iff_exists.1 hbound
      rw [← hindex] at hbound ⊢
      obtain ⟨query, tables, items, -, -, ⟨⟨outer, id, hscope⟩, hdeclares⟩, -⟩ :=
        hselects node hnode info head source filter grouping having hpiece hwhole bound hbound
      exact ⟨outer, id, _, hscope, SemanticModel.declares_eq hdeclares hsources⟩
    · cases hmatch
  · have halike : Option.Rel (Ast.FromClause.Alike (.shift 0 0)) (some bothTables)
        (some bothTables) :=
      .some (.mk rfl (.cons (.named rfl (.some rfl) .none) (.cons (.named rfl (.some rfl) .none) .nil)))
    have hdiffer : ((fromInstances (some bothTables) ⟨{}, ⟨5, joinedTables.catalog, []⟩⟩
        (.start 6)).map TableInstance.name).Pairwise
          (fun name other => Matching.equalIgnoringCase name other = false) := by
      decide +kernel
    have hnames : eachTable.map starName? =
        (fromInstances (some bothTables) ⟨{}, ⟨5, joinedTables.catalog, []⟩⟩ (.start 6)).map
          (fun table => some table.name) := by
      decide +kernel
    unfold selectBoth
    have heach := hshape (.shift 0 0) _ _ halike _ (.start 6) (.start 6) rfl rfl hdiffer eachTable hnames
    apply heach

/-- The analysis of a query from two tables without names, which have no text. -/
def unnamedTables : Analysis :=
  ⟨⟨0, .node .compilationUnit [.node .selectQuery [.node .fromClause [.token .fromKeyword "FROM",
    .node .namedTableReference [], .node .namedTableReference []]]]⟩, (Catalog.empty 0).1, {}⟩

/-- **Tables without text** coincide. Both are bound to the table that was bound last, and declare its
instance only, where the scope of the `SELECT` has an instance of either. -/
theorem not_declares_unnamedTables :
    (unnamedTables.tree.root.nodes.any fun node => selectsFrom [3, 4] node.piece) = true ∧
    ((unnamedTables.model 5).1.boundNode? ⟨unnamedTables.tree.id, 1⟩).isSome = true ∧
    ¬∃ (outer : Scope) (id : SymbolId) (instances : List TableInstance),
      (unnamedTables.model 5).1.result.scope? 1 = some (outer.push id (.tables instances)) ∧
      instances.map (fun it => some (Symbol.tableInstance it)) =
        [3, 4].map fun index => (unnamedTables.model 5).1.declared? ⟨unnamedTables.tree.id, index⟩ := by
  refine ⟨by decide +kernel, by decide +kernel, ?_⟩
  rintro ⟨outer, id, instances, hscope, hdeclares⟩
  have hscopes : ((unnamedTables.model 5).1.result.scope? 1).all (fun scope =>
      decide (scope.localSymbols.map Symbol.id).Nodup) = true := by
    decide +kernel
  have hdeclared : ¬([3, 4].map fun index => ((unnamedTables.model 5).1.declared?
      ⟨unnamedTables.tree.id, index⟩).map Symbol.id).Nodup := by
    decide +kernel
  rw [hscope, Option.all_some, decide_eq_true_iff] at hscopes
  change ((instances.map Symbol.tableInstance).map Symbol.id).Nodup at hscopes
  have hids := congrArg (List.map (Option.map Symbol.id)) hdeclares
  rw [List.map_map, List.map_map] at hids
  refine hdeclared (hids ▸ ?_)
  have hsome := hscopes.map (fun _ _ => Option.some.inj)
  rwa [List.map_map, List.map_map] at hsome

end Analysis

end QuerySemantics
