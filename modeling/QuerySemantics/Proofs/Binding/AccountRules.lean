import QuerySemantics.Proofs.Binding.Account

/-!
# Rules that keep account

What the rules of binding make and log, where they do more than look names up: tables by name and
queries in their place are recorded with an instance of their own, entries of a select list and set
operations make output columns, and a definition makes a common table.

## Main results

* `Binding.Accounts.namedTable`, `Binding.Accounts.derivedTable`, `Binding.Accounts.missingTable`: new
  instances.
* `Binding.Accounts.selectColumn`, `Binding.Accounts.wildcard`, `Binding.Accounts.combine`: new output
  columns.
* `Binding.Accounts.define`: new common tables.
* `Binding.Accounts.qualified`: a qualifier that decides what a name is.
-/

set_option autoImplicit false

namespace QuerySemantics

/-- The first common table of a name is declared by a link. -/
theorem Scope.mem_linked_of_commonTable? {scope : Scope} {cased : Bool} {name : String}
    {table : CommonTable} (h : scope.commonTable? cased name = some table) :
    .commonTable table ∈ scope.linked := by
  obtain ⟨link, hlink, hmem⟩ := exists_of_mem_nearest (List.mem_of_head? h)
  refine List.mem_flatMap.2 ⟨link, hlink, ?_⟩
  unfold Frame.commonTablesNamed at hmem
  split at hmem
  · rename_i defined hframe
    exact hframe ▸ List.mem_map_of_mem (Matching.mem_of_mem_select hmem)
  · cases hmem

/-- **Found** by name: a table of a `WITH` or of the catalog, or one that is not there. -/
inductive TableSource.Found (scope : Scope) : TableSource → Prop where
  | common {table : CommonTable} : .commonTable table ∈ scope.linked → Found scope (.common table)
  | schema {table : SchemaTable} : table ∈ scope.catalog.tables → Found scope (.schema table)
  | bad (table : BadTable) : Found scope (.bad table)

namespace Binding

namespace Quiet

variable {env : Env}

/-- **The table of a name** is found, or else there is none. -/
theorem tableNamed_found (token : Token) :
    Quiet env (Binding.tableNamed token) (TableSource.Found env.scope) := by
  refine currentScope.bind fun scope hscope => caseSensitive.bind fun cased _ => ?_
  subst hscope
  split
  · rename_i found hfound
    exact .pure (.common (Scope.mem_linked_of_commonTable? hfound))
  · split
    · rename_i found hfound
      exact .pure (.schema (Matching.mem_of_mem_select (List.mem_of_head? hfound)))
    · exact (report _ _).bind fun _ _ => (badInstance _).mono fun _ ⟨id, h⟩ => h ▸ .bad _

/-- **The qualifier of a `*`** is the only instance with its name. -/
theorem qualifier_qualifying (instances : List TableInstance) (token : Token) :
    Quiet env (Binding.qualifier instances token)
      (· = qualifying? env.options.caseSensitive instances token) := by
  refine caseSensitive.bind fun cased hcased => ?_
  subst hcased
  unfold qualifying?
  split
  · rename_i heq
    exact .pure (by rw [heq])
  · rename_i heq
    exact (report _ _).bind fun _ _ => .pure (by rw [heq])
  · rename_i hone _
    refine (report _ _).bind fun _ _ => .pure ?_
    split
    · rename_i heq
      exact absurd heq (hone _)
    · rfl

/-- A row limit is put around the query, if there is one. -/
theorem limit_query (top : Option Ast.Top) (query : Bound.Query) :
    Quiet env (Binding.limit top query) fun result =>
      result = query ∨ ∃ rows ties, result = .top query rows ties := by
  unfold Binding.limit
  split
  · exact .pure (.inl rfl)
  · exact (limitValue _).bind fun rows _ => .pure (.inr ⟨rows, _, rfl⟩)

end Quiet

namespace Accounts

variable {env : Env} {root : Catalog} {stock : List Symbol}

/-! ### Tables -/

/-- A new instance of a table that is found. -/
theorem backed_of_found {scope : Scope} {symbols : List Symbol} {records : List Record}
    {table : TableInstance} (hscope : scope.Drawn root stock) (hfits : table.Fits)
    (hsource : table.source.Found scope) :
    (Symbol.tableInstance table).Backed root (symbols ++ stock) records := by
  refine ⟨hfits, ?_⟩
  cases hcase : table.source with
  | derived it =>
    rw [hcase] at hsource
    cases hsource
  | common it =>
    rw [hcase] at hsource
    cases hsource with
    | common hlinked => exact List.mem_append_right symbols (hscope.subset _ hlinked)
  | schema it =>
    rw [hcase] at hsource
    cases hsource with
    | schema hmem => exact hscope.catalog ▸ hmem
  | bad it => trivial

/-- A new instance brings its identities along. -/
theorem newInstance_brings (name : String) (source : TableSource) (pass : Pass) :
    Ends env pass (supply (TableInstance.create name source)) fun table after =>
      pass.Brings after [.tableInstance table] ∧ table.Fits ∧ table.source = source := by
  refine brings_of_takes ((Supply.Takes.tableInstance name source).mono fun table numbers h => ?_) pass
  obtain ⟨hnumbers, hfits, hsource, -⟩ := h
  exact ⟨by simp [hnumbers], hfits, hsource⟩

/-- **A table that is not there** has an instance of its own. -/
theorem missingTable (hscope : env.scope.Drawn root stock) :
    Accounts env root stock missingTable fun made log it =>
      log = .empty ∧ Holds made it.instanceSymbols := by
  intro pass hpass
  refine (Quiet.badInstance "" pass).bind fun source middle ⟨hagrees, id, hsource⟩ => ?_
  refine (newInstance_brings "" source middle).bind fun table after ⟨hbrings, hfits, heq⟩ => .pure ?_
  replace hbrings := hbrings.behind hagrees
  refine ⟨[.tableInstance table], .empty, hpass.step hbrings []
    (fun _ hmem => absurd hmem List.not_mem_nil) List.nodup_nil
    (fun _ hmem => absurd hmem List.not_mem_nil) (fun symbol hsymbol => ?_), hbrings.agrees.records,
    hbrings.agrees.scopes, rfl, .self (List.nodup_singleton _)⟩
  rw [List.mem_singleton.1 hsymbol]
  exact backed_of_found hscope hfits ((heq.trans hsource) ▸ .bad _)

/-- A recorded table reference declares a new instance. -/
theorem recorded_instance {pass after : Pass} {info : NodeInfo} {it : Bound.TableRef}
    {table : TableInstance} (hpass : Kept root stock pass) (hscope : env.scope.Drawn root stock)
    (hbrings : pass.Brings after [.tableInstance table]) (hit : it.instances = [table])
    (hdeclares : (Bound.Node.table it).instance? = some table)
    (hbacked : (Symbol.tableInstance table).Backed root ([.tableInstance table] ++ stock)
      (⟨info, .table it, env.scope⟩ :: pass.records)) :
    Ends env after (recordTable info it) fun value last => ∃ (made : List Symbol) (log : Log),
      Kept root (made ++ stock) last ∧ last.records = log.records ++ pass.records ∧
        last.scopes = log.scopes ++ pass.scopes ∧ value = it ∧
        log = ⟨[⟨info, .table it, env.scope⟩], []⟩ ∧ Holds made it.instanceSymbols := by
  have hsymbols : it.instanceSymbols = [.tableInstance table] := by
    rw [Bound.TableRef.instanceSymbols, hit]
    rfl
  have hholds : Holds [.tableInstance table] it.instanceSymbols := by
    rw [hsymbols]
    exact .self (List.nodup_singleton _)
  have hone : [(⟨info, .table it, env.scope⟩ : Record)].filterMap (·.node.instance?) = [table] := by
    simp [hdeclares]
  refine ⟨[.tableInstance table], ⟨[⟨info, .table it, env.scope⟩], []⟩,
    hpass.step hbrings [⟨info, .table it, env.scope⟩] ?_ (hone ▸ List.nodup_singleton _) ?_ ?_,
    congrArg (_ :: ·) hbrings.agrees.records, hbrings.agrees.scopes, rfl, rfl, hholds⟩
  · intro record hrecord
    rw [List.mem_singleton.1 hrecord]
    refine ⟨hscope.mono, fun symbol hsymbol => List.mem_append_left _ ?_⟩
    exact hsymbols ▸ hsymbol
  · rw [hone]
    exact fun _ hmem => List.mem_singleton.1 hmem ▸ List.mem_singleton_self _
  · exact fun _ hmem => List.mem_singleton.1 hmem ▸ hbacked

/-- **A table by name** is recorded with an instance of its own. -/
theorem namedTable {info : NodeInfo} {ident : Option Token} {correlation : Option Ast.Alias}
    (hscope : env.scope.Drawn root stock) :
    Accounts env root stock (do recordTable info (← namedTable ident correlation)) fun made log it =>
      (∃ table, it = .named table) ∧ log = ⟨[⟨info, .table it, env.scope⟩], []⟩ ∧
        Holds made it.instanceSymbols := by
  intro pass hpass
  have hnew : Ends env pass (Binding.namedTable ident correlation) fun it after => ∃ table,
      it = .named table ∧ pass.Brings after [.tableInstance table] ∧ table.Fits ∧
        table.source.Found env.scope := by
    unfold Binding.namedTable
    split
    · refine (Quiet.badInstance "" pass).bind fun source middle ⟨hagrees, id, hsource⟩ => ?_
      refine (newInstance_brings "" source middle).bind fun table after ⟨hbrings, hfits, heq⟩ => ?_
      exact .pure ⟨table, rfl, hbrings.behind hagrees, hfits, (heq.trans hsource) ▸ .bad _⟩
    · refine (Quiet.tableNamed_found _ pass).bind fun source middle ⟨hagrees, hsource⟩ => ?_
      refine (newInstance_brings _ source middle).bind fun table after ⟨hbrings, hfits, heq⟩ => ?_
      exact .pure ⟨table, rfl, hbrings.behind hagrees, hfits, heq ▸ hsource⟩
  refine hnew.bind fun it after ⟨table, hit, hbrings, hfits, hsource⟩ => ?_
  subst hit
  refine (recorded_instance hpass hscope hbrings rfl rfl
    (backed_of_found hscope hfits hsource)).mono fun value last h => ?_
  obtain ⟨made, log, hkept, hrecords, hscopes, rfl, hlog, hholds⟩ := h
  exact ⟨made, log, hkept, hrecords, hscopes, ⟨table, rfl⟩, hlog, hholds⟩

/-- **A query in place of a table** is recorded with an instance of a table of its shape. -/
theorem derivedTable {info : NodeInfo} {ident : Option Token} {query : Bound.Query}
    (hscope : env.scope.Drawn root stock) :
    Accounts env root stock (do recordTable info (← derivedTable ident query)) fun made log it =>
      (∃ table source, it = .derived table query ∧ table.source = .derived source ∧
        Column.Lists (QueryColumn.shape query.output) source.columns) ∧
        log = ⟨[⟨info, .table it, env.scope⟩], []⟩ ∧ Holds made it.instanceSymbols := by
  intro pass hpass
  have hshape : Ends env pass
      (supply (DerivedTable.create ((ident.map Token.ident).getD "") (QueryColumn.shape query.output)))
      fun source after => pass.Agrees after ∧
        Column.Lists (QueryColumn.shape query.output) source.columns := by
    obtain ⟨hle, numbers, ⟨-, hlists⟩, -⟩ :=
      Supply.Takes.derivedTable ((ident.map Token.ident).getD "") (QueryColumn.shape query.output)
        pass.next
    exact ⟨⟨rfl, rfl, hle⟩, hlists⟩
  have hnew : Ends env pass (Binding.derivedTable ident query) fun it after => ∃ table source,
      it = .derived table query ∧ pass.Brings after [.tableInstance table] ∧ table.Fits ∧
        table.source = .derived source ∧
        Column.Lists (QueryColumn.shape query.output) source.columns := by
    refine hshape.bind fun source middle ⟨hagrees, hlists⟩ => ?_
    refine (newInstance_brings _ (.derived source) middle).bind fun table after h => ?_
    exact .pure ⟨table, source, rfl, h.1.behind hagrees, h.2.1, h.2.2, hlists⟩
  refine hnew.bind fun it after ⟨table, source, hit, hbrings, hfits, hsource, hlists⟩ => ?_
  subst hit
  have hbacked : (Symbol.tableInstance table).Backed root ([.tableInstance table] ++ stock)
      (⟨info, .table (.derived table query), env.scope⟩ :: pass.records) := by
    refine ⟨hfits, ?_⟩
    rw [hsource]
    exact ⟨_, List.mem_cons_self, query, rfl⟩
  refine (recorded_instance hpass hscope hbrings rfl rfl hbacked).mono fun value last h => ?_
  obtain ⟨made, log, hkept, hrecords, hscopes, rfl, hlog, hholds⟩ := h
  exact ⟨made, log, hkept, hrecords, hscopes, ⟨table, source, rfl, hsource, hlists⟩, hlog, hholds⟩

/-! ### Select lists -/

/-- **An entry with an expression** makes one output column. -/
theorem selectColumn {info : NodeInfo} {written : Option Ast.Expr} {correlation : Option Ast.Alias}
    {value : Bound.Expr} (hscope : env.scope.Drawn root stock) :
    Accounts env root stock (selectColumn info written correlation value) fun made log item =>
      (∃ column, item = .column value column) ∧
        log = ⟨[⟨info, .selectItem item, env.scope⟩], []⟩ ∧
        Holds made (item.output.map .queryColumn) := by
  have hcolumn : (QueryColumn.create (columnName written correlation) value.type).Takes
      fun column numbers =>
        numbers = (([column] : List QueryColumn).map Symbol.queryColumn).flatMap Symbol.numbers ∧
          True :=
    (Supply.Takes.queryColumn _ _).mono fun column numbers h => ⟨by simp [h.1], trivial⟩
  refine (columns hcolumn).bind fun column made log _ ⟨hlog, hholds, _⟩ => ?_
  refine behind ((record hscope.mono ?_ rfl).mono fun made' log' _ _ ⟨hmade', hlog'⟩ => ?_)
  · intro symbol hsymbol
    rw [List.mem_singleton.1 hsymbol]
    exact List.mem_append_left _ (hholds.subset _ (List.mem_singleton_self _))
  · subst hlog hlog' hmade'
    exact ⟨⟨column, rfl⟩, Log.append_empty _, hholds⟩

/-- The instances that paired columns come from. -/
theorem owner_mem_of_pairs {instances : List TableInstance} {columns : List Bound.ExpandedColumn}
    (h : Bound.ExpandedColumn.Pairs instances columns) {it : Bound.ExpandedColumn} (hit : it ∈ columns) :
    it.owner ∈ instances ∧ it.input ∈ it.owner.columns := by
  have hmem : (it.owner, it.input) ∈ columns.map (fun column => (column.owner, column.input)) :=
    List.mem_map.2 ⟨it, hit, rfl⟩
  rw [h.inputs] at hmem
  obtain ⟨table, htable, hcolumn⟩ := List.mem_flatMap.1 hmem
  obtain ⟨column, hcolumn, heq⟩ := List.mem_map.1 hcolumn
  obtain ⟨rfl, rfl⟩ := Prod.mk.inj heq
  exact ⟨htable, hcolumn⟩

/-- **A wildcard** makes an output column for each column that it stands for. -/
theorem wildcard {info : NodeInfo} {instances : List TableInstance} {token : Option Token}
    (hscope : env.scope.Drawn root stock)
    (hinstances : ∀ table ∈ instances, .tableInstance table ∈ stock) :
    Accounts env root stock (wildcard info instances token) fun made log item =>
      Stands env.options.caseSensitive instances (.wildcard info token) item ∧
        log = ⟨[⟨info, .selectItem item, env.scope⟩], []⟩ ∧
        Holds made (item.output.map .queryColumn) := by
  -- the columns of some of the instances
  have hexpand : ∀ chosen : List TableInstance, Accounts env root stock (supply (expand chosen))
      fun made log columns => log = .empty ∧
        Holds made (columns.map fun it => .queryColumn it.output) ∧
        Bound.ExpandedColumn.Pairs chosen columns := by
    intro chosen
    have htakes : (expand chosen).Takes fun made numbers =>
        numbers = ((made.map (·.output)).map Symbol.queryColumn).flatMap Symbol.numbers ∧
          Bound.ExpandedColumn.Pairs chosen made :=
      (Supply.Takes.expand chosen).mono fun made numbers ⟨hnumbers, hpairs⟩ =>
        ⟨by rw [hnumbers, List.map_map]; rfl, hpairs⟩
    refine (columns htakes).mono fun made log value _ ⟨hlog, hholds, hpairs⟩ => ⟨hlog, ?_, hpairs⟩
    rwa [List.map_map] at hholds
  have hitem : Accounts env root stock (wildcardItem instances token) fun made log item =>
      ∃ qualifier columns, item = .wildcard qualifier columns ∧ log = .empty ∧
        Holds made (columns.map fun it => .queryColumn it.output) ∧
        (∀ table ∈ qualifier, table ∈ instances) ∧ (∀ it ∈ columns, it.owner ∈ instances) ∧
        Stands env.options.caseSensitive instances (.wildcard info token) item := by
    unfold wildcardItem
    split
    · refine behind ((hexpand instances).mono fun made log columns _ ⟨hlog, hholds, hpairs⟩ => ?_)
      exact ⟨none, columns, rfl, hlog, hholds, fun _ hmem => absurd hmem nofun,
        fun it hit => (owner_mem_of_pairs hpairs hit).1, columns, rfl, hpairs⟩
    · rename_i token
      refine before (Quiet.qualifier_qualifying instances token) fun qualifier hqualifier => ?_
      subst hqualifier
      have hmem : ∀ table ∈ qualifying? env.options.caseSensitive instances token,
          table ∈ instances := by
        intro table htable
        unfold qualifying? at htable
        split at htable
        · rename_i heq
          obtain rfl := Option.some.inj htable
          exact Matching.mem_of_mem_select (heq ▸ List.mem_singleton_self _)
        · cases htable
      refine behind ((hexpand _).mono fun made log columns _ ⟨hlog, hholds, hpairs⟩ => ?_)
      refine ⟨_, columns, rfl, hlog, hholds, hmem, fun it hit => ?_, columns, rfl, hpairs⟩
      exact hmem _ (Option.mem_toList.1 (owner_mem_of_pairs hpairs hit).1)
  refine hitem.bind fun item made log _ h => ?_
  obtain ⟨qualifier, columns, rfl, hlog, hholds, hqualifier, howners, hstands⟩ := h
  refine behind ((record hscope.mono ?_ rfl).mono fun made' log' _ _ ⟨hmade', hlog'⟩ => ?_)
  · intro symbol hsymbol
    simp only [Bound.Node.symbols, List.mem_append, List.mem_map] at hsymbol
    rcases hsymbol with (⟨table, htable, rfl⟩ | ⟨it, hit, rfl⟩) | ⟨it, hit, rfl⟩
    · exact List.mem_append_right _ (hinstances _ (hqualifier _ (Option.mem_toList.1 htable)))
    · exact List.mem_append_right _ (hinstances _ (howners it hit))
    · exact List.mem_append_left _ (hholds.subset _ (List.mem_map.2 ⟨it, hit, rfl⟩))
  · subst hlog hlog' hmade'
    refine ⟨hstands, Log.append_empty _, ?_⟩
    rw [Bound.SelectItem.output, List.map_map]
    exact hholds

/-! ### Set operations and definitions -/

/-- New output columns for pairs of columns. -/
theorem mergePairs (span : Span) (pairs : List (QueryColumn × QueryColumn)) (ordinal : Nat)
    (stock : List Symbol) :
    Accounts env root stock (mergePairs span ordinal pairs) fun made log columns =>
      log = .empty ∧ Holds made (columns.map .queryColumn) := by
  induction pairs generalizing ordinal stock with
  | nil => exact .pure ⟨rfl, .nil⟩
  | cons pair rest ih =>
    have hcolumn : ∀ type, (QueryColumn.create pair.1.name type).Takes fun column numbers =>
        numbers = (([column] : List QueryColumn).map Symbol.queryColumn).flatMap Symbol.numbers ∧
          True := fun type =>
      (Supply.Takes.queryColumn _ _).mono fun column numbers h => ⟨by simp [h.1], trivial⟩
    refine before (Quiet.mergeType _ _ _ _) fun type _ => ?_
    refine (columns (hcolumn type)).bind fun column made log _ ⟨hlog, hholds, _⟩ => ?_
    refine behind ((ih _ _).mono fun made' log' others hdistinct ⟨hlog', hholds'⟩ => ?_)
    subst hlog hlog'
    exact ⟨rfl, hholds.append hholds' hdistinct⟩

/-- **A set operation** makes new output columns. -/
theorem combine {info : NodeInfo} {operator : Option SetOperator} {left right : Bound.Query} :
    Accounts env root stock (combine info operator left right) fun made log query =>
      log = .empty ∧ Holds made query.columnSymbols := by
  refine behind ?_
  unfold mergeColumns
  split
  · exact mergePairs _ _ _ _
  · refine before (Quiet.report _ _) fun _ _ => ?_
    have htakes : (copyColumns left.output).Takes fun made numbers =>
        numbers = (made.map Symbol.queryColumn).flatMap Symbol.numbers ∧ True :=
      (Supply.Takes.copyColumns left.output).mono fun _ _ h => ⟨h, trivial⟩
    exact (columns htakes).mono fun made log value _ ⟨hlog, hholds, _⟩ => ⟨hlog, hholds⟩

/-- A new common table brings its identity along. -/
theorem newCommonTable_brings (name : String) (shape : List (String × SqlType))
    (kind : Bound.NodeKind) (output : List QueryColumn) (pass : Pass) :
    Ends env pass (supply (CommonTable.create name shape kind output)) fun table after =>
      pass.Brings after [.commonTable table] ∧ Column.Lists shape table.columns ∧
        table.output = output := by
  refine brings_of_takes
    ((Supply.Takes.commonTable name shape kind output).mono fun table numbers h => ?_) pass
  obtain ⟨hnumbers, hrest⟩ := h
  exact ⟨by simp [hnumbers], hrest⟩

/-- **A definition** makes a common table of the shape of its query, with the names of the list. -/
theorem define {info : NodeInfo} {ident : Option Token} {names : Option Ast.ColumnNames}
    {query : Bound.Query} (hscope : env.scope.Drawn root stock) :
    Accounts env root stock (define info ident names query) fun made log definition =>
      (∃ table, definition = .mk table query ∧ table.output = query.output ∧
        Column.Lists (renamed ((names.toList.flatMap Ast.ColumnNames.idents).map Token.ident)
          (QueryColumn.shape query.output)) table.columns) ∧
        log = ⟨[⟨info, .definition definition, env.scope⟩], []⟩ ∧
        Holds made [.commonTable definition.symbol] := by
  refine before (Quiet.checkNames names query) fun _ _ pass hpass => ?_
  refine (newCommonTable_brings _ _ _ _ pass).bind fun table after ⟨hbrings, hlists, houtput⟩ => ?_
  have hnone : [(⟨info, .definition (.mk table query), env.scope⟩ : Record)].filterMap
      (·.node.instance?) = [] := rfl
  refine ⟨[.commonTable table], ⟨[⟨info, .definition (.mk table query), env.scope⟩], []⟩,
    hpass.step hbrings [⟨info, .definition (.mk table query), env.scope⟩] ?_ (hnone ▸ List.nodup_nil)
    (hnone ▸ fun _ hmem => absurd hmem List.not_mem_nil) ?_,
    congrArg (_ :: ·) hbrings.agrees.records, hbrings.agrees.scopes,
    ⟨table, rfl, houtput, hlists⟩, rfl, .self (List.nodup_singleton _)⟩
  · intro record hrecord
    rw [List.mem_singleton.1 hrecord]
    exact ⟨hscope.mono, fun symbol hsymbol => List.mem_append_left _ hsymbol⟩
  · intro symbol hsymbol
    rw [List.mem_singleton.1 hsymbol]
    exact ⟨_, List.mem_cons_self, query, rfl⟩

/-! ### Qualified names -/

/-- **A qualifier that decides** what a name is, is recorded. -/
theorem qualified {info : NodeInfo} {token member : Token} (hscope : env.scope.Drawn root stock) :
    Accounts env root stock (qualified info token member) fun _ log decided =>
      match decided with
      | some _ => ∃ value, log = ⟨[⟨info, .expr value, env.scope⟩], []⟩
      | none => log = .empty := by
  have hbad : ∀ problem, Accounts env root stock
      (propertyOfBad info token.ident token.span problem member.ident) fun _ log _ =>
        ∃ value, log = ⟨[⟨info, .expr value, env.scope⟩], []⟩ := by
    intro problem
    refine before (Quiet.report _ _) fun _ _ => before (Quiet.badName _) fun value _ => ?_
    refine (recordExpr hscope).bind fun target made log _ ⟨_, hlog, _⟩ => ?_
    refine before (Quiet.badSymbol _) fun symbol _ => .pure ⟨value, ?_⟩
    exact (Log.empty_append log).trans hlog
  refine before Quiet.currentScope fun scope hsame => before Quiet.caseSensitive fun cased _ => ?_
  subst hsame
  dsimp only
  split
  · rename_i table hfound
    have htable := Scope.mem_visible_of_resolveInstance hfound
    refine (recordExpr hscope).bind fun _ made log _ ⟨_, hlog, _⟩ => ?_
    refine before (Quiet.columnOf member htable) fun symbol _ =>
      .pure ⟨.name (.tableInstance table), ?_⟩
    exact (Log.empty_append log).trans hlog
  · exact behind ((hbad _).mono fun _ _ _ _ h => h)
  · split
    · exact behind ((hbad _).mono fun _ _ _ _ h => h)
    · exact .pure rfl

end Accounts

end Binding

end QuerySemantics
