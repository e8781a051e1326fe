import QuerySemantics.Proofs.Binding.AccountRules
import QuerySemantics.Proofs.Binding.LockstepWalk

/-!
# Sources of a query

A `FROM` clause is a list of table references, joined and in parentheses. Its sources are the tables by
name and the queries that stand in it, from left to right. Each of them declares one instance, and these
are the instances of the clause: nothing gets lost, and nothing is doubled.

## Main definitions

* `Ast.TableRef.sources`: the nodes of the tables and queries of a table reference.
* `Ast.TableRef.isWhole`: no operand of a join is missing and no parentheses are empty.

## Main results

* `Binding.TableIs.declares`: the sources declare the instances, in order.
* `Binding.select_stands`: what the entries of a select list stand for, after any `FROM` clause.
* `Binding.shape_qualified`: `*` and the list of all qualified ones put out the same.
-/

set_option autoImplicit false

namespace QuerySemantics

namespace Ast

/-- **Sources** of a table reference: the nodes of tables by name and of queries in their place. -/
def TableRef.sources : TableRef → List NodeInfo
  | .named info _ _ | .derived info _ _ => [info]
  | .joined _ (some left) _ (some right) _ => left.sources ++ right.sources
  | .parenthesized _ (some inner) => inner.sources
  | _ => []

/-- **Whole**: the joins have both operands, and there is something in the parentheses. -/
def TableRef.isWhole : TableRef → Bool
  | .named _ _ _ | .derived _ _ _ => true
  | .joined _ (some left) _ (some right) _ => left.isWhole && right.isWhole
  | .parenthesized _ (some inner) => inner.isWhole
  | _ => false

/-- The table references of a `FROM` clause. -/
def FromClause.items : FromClause → List TableRef
  | .mk _ items => items

end Ast

namespace Binding

variable {cased : Bool} {log : Log}

/-- **Sources declare the instances** of a table reference, one by one.

**Proof sketch.** By induction on the table reference. A join has the instances of its operands, and
parentheses have those of what is inside them; a source is recorded with the instance that it
declares. -/
theorem TableIs.declares : ∀ (it : Ast.TableRef) {table : Bound.TableRef}, it.isWhole = true →
    (∀ piece, (Piece.table it).Reached piece → Certified cased log piece) → TableIs log it table →
      table.instances.map (fun it => some (Symbol.tableInstance it)) =
        it.sources.map fun info => (log.record? info.index).bind (·.node.declared?)
  | .named info ident correlation, table, _, hcertified, htable => by
    obtain ⟨yield, own, entries, hmakes, hown, -⟩ := hcertified _ (.refl _)
    cases hmakes with
    | plain hplain => cases hplain
    | named =>
      have hfound := hown _ (List.mem_singleton_self _)
      rcases htable with ⟨info, hcore⟩ | ⟨scope, hrecord⟩
      · cases hcore
      · cases hrecord.symm.trans hfound
        simp [Ast.TableRef.sources, hfound, Bound.Node.declared?, Bound.TableRef.instances]
  | .derived info body ident, table, _, hcertified, htable => by
    obtain ⟨yield, own, entries, hmakes, hown, -⟩ := hcertified _ (.refl _)
    cases hmakes with
    | plain hplain => cases hplain
    | derived hsource hlists =>
      have hfound := hown _ (List.mem_singleton_self _)
      rcases htable with ⟨info, hcore⟩ | ⟨scope, hrecord⟩
      · cases hcore
      · cases hrecord.symm.trans hfound
        simp [Ast.TableRef.sources, hfound, Bound.Node.declared?, Bound.TableRef.instances]
  | .joined info (some left) kind (some right) condition, table, hwhole, hcertified, htable => by
    obtain ⟨hleft, hright⟩ := (Bool.and_eq_true _ _).mp hwhole
    obtain ⟨yield, own, entries, hmakes, hown, -⟩ := hcertified _ (.refl _)
    cases hmakes with
    | plain hplain => cases hplain
    | joined hvalued hvalued' =>
      have hfound := hown _ (List.mem_singleton_self _)
      have hpart : ∀ part ∈ [left, right],
          Piece.table part ∈ (Piece.table (.joined info (some left) kind (some right) condition)).visited := by
        simp [Piece.visited, Piece.early, Piece.late]
      rcases htable with ⟨info, hcore⟩ | ⟨scope, hrecord⟩
      · cases hcore
      · cases hrecord.symm.trans hfound
        rw [Bound.TableRef.instances, List.map_append, Ast.TableRef.sources, List.map_append]
        congr 1
        · exact declares left hleft (fun piece hreached =>
            hcertified piece (.step (hpart left (by simp)) hreached)) (hvalued left rfl)
        · exact declares right hright (fun piece hreached =>
            hcertified piece (.step (hpart right (by simp)) hreached)) (hvalued' right rfl)
  | .joined _ none _ _ _, _, hwhole, _, _ => by cases hwhole
  | .joined _ (some _) _ none _, _, hwhole, _, _ => by cases hwhole
  | .parenthesized info (some inner), table, hwhole, hcertified, htable => by
    have hpart : Piece.table inner ∈ (Piece.table (.parenthesized info (some inner))).visited := by
      simp [Piece.visited, Piece.early, Piece.late]
    exact declares inner hwhole (fun piece hreached => hcertified piece (.step hpart hreached)) htable
  | .parenthesized _ none, _, hwhole, _, _ => by cases hwhole

/-- **The sources of a `FROM` clause** declare its instances. -/
theorem declares_of_tablesAre {items : List Ast.TableRef} {tables : List Bound.TableRef}
    (hwhole : ∀ it ∈ items, it.isWhole = true)
    (hcertified : ∀ it ∈ items, ∀ piece, (Piece.table it).Reached piece → Certified cased log piece)
    (htables : List.Forall₂ (TableIs log) items tables) :
    (tables.flatMap Bound.TableRef.instances).map (fun it => some (Symbol.tableInstance it)) =
      (items.flatMap Ast.TableRef.sources).map fun info =>
        (log.record? info.index).bind (·.node.declared?) := by
  induction htables with
  | nil => rfl
  | cons htable _ ih =>
    rw [List.flatMap_cons, List.map_append, List.flatMap_cons, List.map_append]
    congr 1
    · exact htable.declares _ (hwhole _ List.mem_cons_self) (hcertified _ List.mem_cons_self)
    · exact ih (fun it hit => hwhole it (List.mem_cons_of_mem _ hit))
        fun it hit => hcertified it (List.mem_cons_of_mem _ hit)

/-! ## Select lists -/

/-- **A wildcard stands** for the columns of the instances at hand, or of the one that qualifies it. -/
theorem wildcard_stands (info : NodeInfo) (instances : List TableInstance) (token : Option Token)
    (env : Env) (pass : Pass) : Ends env pass (wildcard info instances token) fun item _ =>
      Stands env.options.caseSensitive instances (.wildcard info token) item := by
  have hexpand : ∀ (chosen : List TableInstance) (pass : Pass), Ends env pass (supply (expand chosen))
      fun columns _ => Bound.ExpandedColumn.Pairs chosen columns := by
    intro chosen pass
    obtain ⟨-, numbers, ⟨-, hpairs⟩, -⟩ := Supply.Takes.expand chosen pass.next
    exact hpairs
  have hitem : Ends env pass (wildcardItem instances token) fun item _ =>
      Stands env.options.caseSensitive instances (.wildcard info token) item := by
    unfold wildcardItem
    split
    · exact (hexpand instances pass).bind fun columns _ hpairs => .pure ⟨columns, rfl, hpairs⟩
    · refine (Quiet.qualifier_qualifying instances _ pass).bind fun qualifier pass' ⟨_, heq⟩ => ?_
      subst heq
      exact (hexpand _ pass').bind fun columns _ hpairs => .pure ⟨columns, rfl, hpairs⟩
  exact hitem.bind fun item _ h => h

/-- **Each entry of a select list stands** for what it says. -/
theorem selectItems_stands (instances : List TableInstance) (items : List Ast.SelectItem) (env : Env)
    (pass : Pass) : Ends env pass (selectItems instances items) fun values _ =>
      List.Forall₂ (Stands env.options.caseSensitive instances) items values := by
  induction items generalizing pass with
  | nil =>
    rw [selectItems]
    exact .pure .nil
  | cons it rest ih =>
    cases it with
    | column info value correlation =>
      rw [selectItems]
      have hany : Ends env pass (optionalExpr value) fun _ _ => True := trivial
      refine hany.bind fun bound pass' _ => ?_
      have hcolumn : Ends env pass' (selectColumn info value correlation bound) fun item _ =>
          ∃ value column, item = .column value column := ⟨bound, _, rfl⟩
      exact hcolumn.bind fun item pass' hitem => (ih pass').bind fun _ _ h => .pure (.cons hitem h)
    | wildcard info token =>
      rw [selectItems]
      exact (wildcard_stands info instances token env pass).bind fun item pass' hitem =>
        (ih pass').bind fun _ _ h => .pure (.cons hitem h)

/-- **A `SELECT`** with a list is one of its `FROM` clause, each entry of which stands for what it says. -/
theorem select_stands (info own : NodeInfo) (distinct : Bool) (top : Option Ast.Top)
    (entries : List Ast.SelectItem) (source : Option Ast.FromClause) (filter : Option Ast.Condition)
    (grouping : Option Ast.GroupByClause) (having : Option Ast.Condition) (env : Env) (pass : Pass) :
    Ends env pass
      (query (.select info (some (.mk own distinct top entries)) source filter grouping having))
      fun bound _ => ∃ items, bound.query.Selects (fromClause source env pass).1 items ∧
        List.Forall₂ (Stands env.options.caseSensitive
          ((fromClause source env pass).1.flatMap Bound.TableRef.instances)) entries items := by
  rw [query]
  have hsource : Ends env pass (fromClause source) fun tables _ =>
      tables = (fromClause source env pass).1 := rfl
  refine hsource.bind fun tables pass₁ htables => ?_
  rw [← htables]
  refine (Quiet.childScope _ pass₁).bind fun inner pass₂ _ => ?_
  have hbody : Ends { env with scope := inner } pass₂ (do
      recordScope info
      let filter ← conditionIfAny .filter filter
      let grouping ← groupByClause grouping
      let having ← conditionIfAny .having having
      let items ← selectClause (tables.flatMap Bound.TableRef.instances)
        (some (.mk own distinct top entries))
      return Bound.Query.select (isDistinct (some (.mk own distinct top entries))) tables filter
        grouping having items)
      fun bound _ => ∃ distinct filter grouping having items,
        bound = .select distinct tables filter grouping having items ∧
          List.Forall₂ (Stands env.options.caseSensitive (tables.flatMap Bound.TableRef.instances))
            entries items := by
    have hany : ∀ {α : Type} (body : BindM α) (pass : Pass),
        Ends { env with scope := inner } pass body fun _ _ => True := fun _ _ => trivial
    refine (hany _ _).bind fun _ pass₃ _ => (hany _ _).bind fun filter' pass₄ _ => ?_
    refine (hany _ _).bind fun grouping' pass₅ _ => (hany _ _).bind fun having' pass₆ _ => ?_
    rw [selectClause]
    refine (selectItems_stands _ entries _ pass₆).bind fun items _ h => .pure ?_
    exact ⟨_, filter', grouping', having', items, rfl, h⟩
  refine (Ends.within hbody).bind fun bound pass₃ ⟨distinct', filter', grouping', having', items, h⟩ => ?_
  obtain ⟨rfl, hstands⟩ := h
  refine (Quiet.limit_query _ _ pass₃).bind fun limited pass₄ ⟨_, hlimited⟩ => ?_
  refine ⟨items, ⟨distinct', filter', grouping', having', ?_⟩, hstands⟩
  exact hlimited.imp id fun ⟨rows, ties, heq⟩ => ⟨rows, ties, heq⟩

/-! ## Shapes of wildcards -/

/-- Paired columns have the names and types of the columns of the instances. -/
theorem shape_of_pairs {instances : List TableInstance} {columns : List Bound.ExpandedColumn}
    (h : Bound.ExpandedColumn.Pairs instances columns) :
    QueryColumn.shape (columns.map (·.output)) = instances.flatMap TableInstance.shape := by
  have hinputs := congrArg (List.map fun pair : TableInstance × InstanceColumn =>
    (pair.2.name, pair.2.type)) h.inputs
  rw [List.map_map, List.map_flatMap] at hinputs
  have hshape : QueryColumn.shape (columns.map (·.output)) =
      columns.map fun column => (column.input.name, column.input.type) := by
    rw [QueryColumn.shape, List.map_map]
    refine List.map_congr_left fun column hcolumn => ?_
    obtain ⟨hname, htype⟩ := h.outputs column hcolumn
    exact Prod.ext hname htype
  refine hshape.trans (hinputs.trans (List.flatMap_congr fun table _ => ?_))
  rw [TableInstance.shape, Column.shape, List.map_map, List.map_map]
  rfl

/-- The only instance of a name is the one that it is the name of. -/
theorem qualifying?_eq {instances : List TableInstance} {table : TableInstance} {token : Token}
    (hnodup : (instances.map TableInstance.name).Nodup) (htable : table ∈ instances)
    (htoken : token.ident = table.name) : qualifying? cased instances token = some table := by
  have hfilter : instances.filter (TableInstance.name · == token.ident) = [table] := by
    rw [htoken]
    induction instances with
    | nil => cases htable
    | cons it rest ih =>
      obtain ⟨hfirst, hrest⟩ := List.nodup_cons.1 hnodup
      rcases List.mem_cons.1 htable with rfl | htable
      · have hnone : rest.filter (TableInstance.name · == table.name) = [] :=
          List.filter_eq_nil_iff.2 fun other hother heq =>
            hfirst (eq_of_beq heq ▸ List.mem_map_of_mem hother)
        simp only [List.filter_cons, beq_self_eq_true, if_true, hnone]
      · have hne : ¬(it.name == table.name) = true := fun heq =>
          hfirst (eq_of_beq heq ▸ List.mem_map_of_mem htable)
        simp only [List.filter_cons, if_neg hne]
        exact ih hrest htable
  unfold qualifying? Matching.select
  rw [hfilter]

/-- The name that qualifies an entry of a select list, if it is a qualified `*`. -/
def starName? : Ast.SelectItem → Option String
  | .wildcard _ (some token) => some token.ident
  | _ => none

/-- An entry with such a name is a qualified `*`. -/
theorem eq_of_starName? {it : Ast.SelectItem} {name : String} (h : starName? it = some name) :
    ∃ info token, it = .wildcard info (some token) ∧ token.ident = name := by
  unfold starName? at h
  split at h
  · exact ⟨_, _, rfl, Option.some.inj h⟩
  · cases h

/-- **A qualified `*` for each instance** puts out the columns of all of them. -/
theorem shape_qualified {instances chosen : List TableInstance} {entries : List Ast.SelectItem}
    {items : List Bound.SelectItem} (hnodup : (instances.map TableInstance.name).Nodup)
    (hchosen : ∀ table ∈ chosen, table ∈ instances)
    (hnames : entries.map starName? = chosen.map fun table => some table.name)
    (hstands : List.Forall₂ (Stands cased instances) entries items) :
    QueryColumn.shape (items.flatMap Bound.SelectItem.output) =
      chosen.flatMap TableInstance.shape := by
  induction hstands generalizing chosen with
  | nil =>
    rw [List.map_eq_nil_iff.1 hnames.symm]
    rfl
  | @cons it item entries items hstand hstands ih =>
    cases chosen with
    | nil => cases hnames
    | cons table chosen =>
      obtain ⟨hname, hothers⟩ := List.cons.inj hnames
      obtain ⟨info, token, rfl, htoken⟩ := eq_of_starName? hname
      obtain ⟨columns, rfl, hpairs⟩ := hstand
      rw [qualifying?_eq hnodup (hchosen _ List.mem_cons_self) htoken] at hpairs
      have hfirst := shape_of_pairs hpairs
      rw [Option.toList_some, List.flatMap_singleton] at hfirst
      have hrest := ih (fun table htable => hchosen table (List.mem_cons_of_mem _ htable)) hothers
      rw [List.flatMap_cons, List.flatMap_cons, ← hrest, ← hfirst, QueryColumn.shape, List.map_append]
      rfl

/-! ## The same clause under two lists -/

/-- The coupling of passes of which only the identities matter. -/
def Coupling.loose (like : Likeness) (options : Options) : Coupling :=
  .still like options (fun _ _ => True) (fun _ _ => True) (fun _ _ => True) (fun _ _ => True)
    (fun _ => trivial) (fun _ => trivial) (fun _ _ _ _ => trivial) (fun _ _ _ => trivial)
    fun _ _ _ => trivial

/-- **Alike `FROM` clauses** in the same place declare the same tables. -/
theorem fromClause_alike {like : Likeness} {source source' : Option Ast.FromClause}
    (h : Option.Rel (Ast.FromClause.Alike like) source source') (env : Env) {pass pass' : Pass}
    (hnext : pass'.next = pass.next) (hmembers : pass'.members = pass.members) :
    (fromClause source' env pass').1 = (fromClause source env pass).1 := by
  have hlockstep : Lockstep (.loose like env.options) env.scope (fromClause source)
      (fromClause source') id := fromClause_lockstep source h
  obtain ⟨-, hcoupled⟩ := hlockstep pass ⟨fun _ _ => trivial, False.elim⟩
  exact (hcoupled pass' ⟨hnext, hmembers, trivial, trivial, trivial⟩).1

/-- The instances that a `FROM` clause declares. -/
def fromInstances (source : Option Ast.FromClause) (env : Env) (pass : Pass) : List TableInstance :=
  (fromClause source env pass).1.flatMap Bound.TableRef.instances

/-- Names that differ even ignoring case are different. -/
theorem nodup_of_differ {names : List String}
    (h : names.Pairwise fun name other => Matching.equalIgnoringCase name other = false) :
    names.Nodup :=
  h.imp fun hdiffer heq => by
    rw [heq, Matching.equalIgnoringCase, beq_self_eq_true] at hdiffer
    cases hdiffer

variable {info own : NodeInfo} {distinct : Bool} {top : Option Ast.Top}
  {source : Option Ast.FromClause} {filter : Option Ast.Condition}
  {grouping : Option Ast.GroupByClause} {having : Option Ast.Condition} {env : Env} {pass : Pass}

/-- **`SELECT *`** puts out the columns of all instances of its `FROM` clause. -/
theorem shape_star (node : NodeInfo) :
    QueryColumn.shape (query (.select info (some (.mk own distinct top [.wildcard node none])) source
      filter grouping having) env pass).1.query.output =
        (fromInstances source env pass).flatMap TableInstance.shape := by
  obtain ⟨items, hselects, hstands⟩ := select_stands info own distinct top [.wildcard node none]
    source filter grouping having env pass
  rw [hselects.output]
  cases hstands with
  | cons hstand hrest =>
    cases hrest
    obtain ⟨columns, rfl, hpairs⟩ := hstand
    rw [List.flatMap_singleton]
    exact shape_of_pairs hpairs

/-- **A list of all qualified ones** puts out the same. -/
theorem shape_each {entries : List Ast.SelectItem}
    (hdiffer : ((fromInstances source env pass).map TableInstance.name).Pairwise
      fun name other => Matching.equalIgnoringCase name other = false)
    (hnames : entries.map starName? =
      (fromInstances source env pass).map fun table => some table.name) :
    QueryColumn.shape (query (.select info (some (.mk own distinct top entries)) source filter
      grouping having) env pass).1.query.output =
        (fromInstances source env pass).flatMap TableInstance.shape := by
  obtain ⟨items, hselects, hstands⟩ := select_stands info own distinct top entries source filter
    grouping having env pass
  rw [hselects.output]
  exact shape_qualified (nodup_of_differ hdiffer) (fun _ htable => htable) hnames hstands

end Binding

end QuerySemantics
