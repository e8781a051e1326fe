import QuerySemantics.Proofs.Binding.AccountRules
import QuerySemantics.Proofs.Binding.RemarkWalk

/-!
# The account of binding

The walk through a query, form by form: binding an expression, a table reference or a query keeps
account of the symbols that it makes, and files all that it comes to. What a table reference and a
query make is named, each symbol once, so that the scopes that are entered with it are drawn.

## Main definitions

* `Binding.Booked`: pieces that are filed and stand for nothing.
* `Binding.Rows`: entries of a list that are filed with what they stand for.
* `Binding.Settled`: a query that is bound, with its output columns and the scope for `ORDER BY`.
* `Binding.Listed`: the list of a `SELECT`, with the entries that it is bound to.
* `Binding.accounts`: the judgment that binding a node keeps account of what it makes.

## Main results

* `Binding.accounts_closed`: binding keeps account.
* `SyntaxTree.bind_accounts`: the account of a whole tree.
-/

set_option autoImplicit false

namespace QuerySemantics

namespace Binding

/-! ## Pieces that stand for nothing -/

/-- **Booked**: pieces are filed one after the other, and stand for nothing. -/
def Booked (cased : Bool) (pieces : List Piece) (log : Log) : Prop :=
  Filed cased (pieces.map (⟨·, .nothing⟩)) log

namespace Booked

variable {cased : Bool} {pieces pieces' : List Piece} {log log' below : Log}

/-- No pieces and no records. -/
theorem nil : Booked cased [] .empty :=
  Filed.nil

/-- Pieces that are bound behind others. -/
theorem append (h : Booked cased pieces log) (h' : Booked cased pieces' log') :
    Booked cased (pieces ++ pieces') (log' ++ log) := by
  unfold Booked
  rw [List.map_append]
  exact Filed.append h h'

/-- The pieces of filings that stand for nothing. -/
theorem map_piece (pieces : List Piece) :
    (pieces.map (fun piece => (⟨piece, .nothing⟩ : Filing))).map Filing.piece = pieces := by
  rw [List.map_map]
  exact List.map_id _

/-- **Booking a piece** behind all that is visited of it. -/
theorem node (piece : Piece) {own : List Record} (h : Booked cased piece.visited below)
    (hplain : isPlain piece = true) (henters : piece.enters = false)
    (hnodes : own.all (·.node.isPlain) = true)
    (hown : own.map Record.info = if piece.isRecorded then piece.info?.toList else []) :
    Booked cased [piece] (⟨own, []⟩ ++ below) :=
  Filed.node (map_piece _) h (.plain hplain hnodes hown (by rw [henters]; rfl))

/-- Booking a piece behind its parts. -/
theorem closing (piece : Piece) {own : List Record} (h : Booked cased piece.parts below)
    (hpartial : piece.isPartial = false) (hplain : isPlain piece = true)
    (henters : piece.enters = false) (hnodes : own.all (·.node.isPlain) = true)
    (hown : own.map Record.info = if piece.isRecorded then piece.info?.toList else []) :
    Booked cased [piece] (⟨own, []⟩ ++ below) :=
  node piece (Piece.visited_eq_of_isPartial hpartial ▸ h) hplain henters hnodes hown

/-- Booking a piece that enters a scope between its parts. -/
theorem entering (piece : Piece) {own : List Record} {entries : List (NodeInfo × Scope)}
    {early late : List Piece} {later : Log} (h : Booked cased early below)
    (h' : Booked cased late later) (hparts : early ++ late = piece.visited)
    (hplain : isPlain piece = true) (hnodes : own.all (·.node.isPlain) = true)
    (hown : own.map Record.info = if piece.isRecorded then piece.info?.toList else [])
    (hentries : entries.map Prod.fst = if piece.enters then piece.info?.toList else []) :
    Booked cased [piece] (⟨own, []⟩ ++ (later ++ (⟨[], entries⟩ ++ below))) :=
  Filed.entering (by rw [map_piece, map_piece, hparts]) h h' (.plain hplain hnodes hown hentries)

/-- Booking a piece that leaves no record. -/
theorem passed (piece : Piece) (h : Booked cased piece.visited log) (hplain : isPlain piece = true)
    (henters : piece.enters = false) (hrecorded : piece.isRecorded = false) :
    Booked cased [piece] log :=
  node piece h hplain henters rfl (show ([] : List Record).map Record.info = _ by rw [hrecorded]; rfl)

/-- Booking a piece that is looked through. -/
theorem through (piece : Piece) (h : Booked cased piece.parts log)
    (hpartial : piece.isPartial = false) (hplain : isPlain piece = true)
    (henters : piece.enters = false) (hrecorded : piece.isRecorded = false) :
    Booked cased [piece] log :=
  passed piece (Piece.visited_eq_of_isPartial hpartial ▸ h) hplain henters hrecorded

/-- Booking an expression behind its parts. -/
theorem expr (it : Ast.Expr) {value : Bound.Expr} {scope : Scope}
    (h : Booked cased (Piece.expr it).visited below) (hrecorded : (Piece.expr it).isRecorded = true) :
    Booked cased [.expr it] (⟨[⟨it.info, .expr value, scope⟩], []⟩ ++ below) :=
  node (.expr it) h rfl rfl rfl (by rw [hrecorded]; rfl)

end Booked

/-! ## Entries of lists -/

/-- **Rows**: the entries of a list are filed, each with what it stands for. -/
def Rows {α β : Type} (cased : Bool) (wrap : α → Piece) (yield : β → Yield) (items : List α)
    (bound : List β) (log : Log) : Prop :=
  ∃ filings, filings.map Filing.piece = items.map wrap ∧ Filed cased filings log ∧
    List.Forall₂ (fun it value => ⟨wrap it, yield value⟩ ∈ filings) items bound

namespace Rows

variable {α β : Type} {cased : Bool} {wrap : α → Piece} {yield : β → Yield}

/-- No row of a list. -/
theorem nil : Rows cased wrap yield [] [] .empty :=
  ⟨[], rfl, .nil, .nil⟩

/-- One more row in front of a list. -/
theorem cons {it : α} {value : β} {items : List α} {bound : List β} {log log' : Log}
    (hone : Filed cased [⟨wrap it, yield value⟩] log) (hrest : Rows cased wrap yield items bound log') :
    Rows cased wrap yield (it :: items) (value :: bound) (log' ++ log) := by
  obtain ⟨filings, hpieces, hfiled, hvalued⟩ := hrest
  refine ⟨⟨wrap it, yield value⟩ :: filings, congrArg (wrap it :: ·) hpieces, hone.append hfiled, ?_⟩
  exact .cons List.mem_cons_self (hvalued.imp fun _ _ hmem => List.mem_cons_of_mem _ hmem)

end Rows

/-! ## Bound queries -/

/-- **Settled**: the query is booked, its output columns are new, and an `ORDER BY` directly behind
it looks into the scope around or into the one with its tables. -/
structure Settled (env : Env) (pieces : List Piece) (made : List Symbol) (log : Log)
    (bound : ScopedQuery) : Prop where
  booked : Booked env.options.caseSensitive pieces log
  output : Holds made bound.query.columnSymbols
  inner : bound.inner = env.scope ∨ ∃ id instances,
    bound.inner = env.scope.push id (.tables instances) ∧ Holds made (instances.map .tableInstance)

/-- **The scope of an `ORDER BY`** is drawn, with the output columns in front. -/
theorem Settled.ordering {env : Env} {root : Catalog} {stock made : List Symbol} {pieces : List Piece}
    {log : Log} {bound : ScopedQuery} (h : Settled env pieces made log bound)
    (hscope : env.scope.Drawn root stock)
    (hdistinct : Symbol.Distinct (made ++ stock)) (id : SymbolId) :
    (bound.inner.push id (.queryColumns bound.query.output)).Drawn root (made ++ stock) := by
  have hlinked : ∀ (scope : Scope) (number : SymbolId) (frame : Frame),
      (scope.push number frame).linked = frame.symbols ++ scope.linked :=
    fun _ _ _ => rfl
  -- the output columns are new, and no tables
  have hapart : ∀ symbol ∈ bound.query.columnSymbols, symbol ∉ bound.inner.linked := by
    intro symbol hsymbol hmem
    have hold : symbol ∉ env.scope.linked := fun hmem =>
      hdistinct.disjoint (h.output.subset symbol hsymbol) (hscope.subset symbol hmem)
    rcases h.inner with heq | ⟨number, instances, heq, -⟩
    · exact hold (heq ▸ hmem)
    · rw [heq, hlinked] at hmem
      refine (List.mem_append.1 hmem).elim (fun hmem => ?_) hold
      obtain ⟨column, -, rfl⟩ := List.mem_map.1 hsymbol
      obtain ⟨table, -, heq⟩ := List.mem_map.1 hmem
      cases heq
  have hinner : bound.inner.Drawn root (made ++ stock) := by
    rcases h.inner with heq | ⟨number, instances, heq, hholds⟩
    · exact heq ▸ hscope.mono
    · exact heq ▸ hholds.push hscope hdistinct number
  refine ⟨?_, ?_, hinner.catalog⟩
  · rw [hlinked, List.nodup_append]
    exact ⟨h.output.nodup, hinner.nodup, fun symbol hsymbol other hother heq =>
      hapart symbol hsymbol (heq ▸ hother)⟩
  · rw [hlinked]
    exact List.forall_mem_append.2
      ⟨fun symbol hsymbol => List.mem_append_left _ (h.output.subset symbol hsymbol), hinner.subset⟩

namespace Accounts

variable {α : Type} {env : Env} {root : Catalog} {stock : List Symbol}

/-- **Settling an expression** behind its parts: its rule is quiet, and it is recorded. -/
theorem expr {cased : Bool} (it : Ast.Expr) {rule : BindM Bound.Expr}
    {described : Bound.Expr → Prop} {below : Log} (hscope : env.scope.Drawn root stock)
    (hrule : Quiet env rule described)
    (hpartial : (Piece.expr it).isPartial = false) (hrecorded : (Piece.expr it).isRecorded = true)
    (hbelow : Booked cased (Piece.expr it).parts below) :
    Accounts env root stock (do Binding.recordExpr it.info (← rule)) fun _ log _ =>
      Booked cased [.expr it] (log ++ below) := by
  refine before hrule fun value _ => (recordExpr hscope).mono fun _ log _ _ ⟨_, hlog, _⟩ => ?_
  subst hlog
  exact .expr it (Piece.visited_eq_of_isPartial hpartial ▸ hbelow) hrecorded

/-- Settling an expression that nothing is visited of. -/
theorem leaf {cased : Bool} (it : Ast.Expr) {rule : BindM Bound.Expr} {described : Bound.Expr → Prop}
    (hscope : env.scope.Drawn root stock) (hrule : Quiet env rule described)
    (hrecorded : (Piece.expr it).isRecorded = true) (hnone : (Piece.expr it).visited = []) :
    Accounts env root stock (do Binding.recordExpr it.info (← rule)) fun _ log _ =>
      Booked cased [.expr it] log := by
  refine before hrule fun value _ => (recordExpr hscope).mono fun _ log _ _ ⟨_, hlog, _⟩ => ?_
  subst hlog
  have hbelow : Booked cased (Piece.expr it).visited .empty := by
    rw [hnone]
    exact .nil
  exact .expr it hbelow hrecorded

/-- An expression without rule of its own. -/
theorem plainExpr {cased : Bool} (it : Ast.Expr) {value : Bound.Expr} {below : Log}
    (hscope : env.scope.Drawn root stock) (hpartial : (Piece.expr it).isPartial = false)
    (hrecorded : (Piece.expr it).isRecorded = true)
    (hbelow : Booked cased (Piece.expr it).parts below) :
    Accounts env root stock (Binding.recordExpr it.info value) fun _ log _ =>
      Booked cased [.expr it] (log ++ below) :=
  (recordExpr hscope).mono fun _ log _ _ ⟨_, hlog, _⟩ => by
    subst hlog
    exact .expr it (Piece.visited_eq_of_isPartial hpartial ▸ hbelow) hrecorded

/-- **Settling a query**: it is recorded with output columns that are there. -/
theorem recordQuery {info : NodeInfo} {query : Bound.Query} {inner : Scope}
    (hscope : env.scope.Drawn root stock) (houtput : ∀ symbol ∈ query.columnSymbols, symbol ∈ stock) :
    Accounts env root stock (recordQuery info query inner) fun made log bound =>
      made = [] ∧ log = ⟨[⟨info, .query query, env.scope⟩], []⟩ ∧ bound = ⟨query, inner⟩ := by
  have hrecord : Accounts env root stock (Binding.record info (.query query)) fun made log _ =>
      made = [] ∧ log = ⟨[⟨info, .query query, env.scope⟩], []⟩ := record hscope houtput rfl
  exact behind (hrecord.mono fun _ _ _ _ ⟨hmade, hlog⟩ => ⟨hmade, hlog, rfl⟩)

/-- **Entering a scope**: the log begins with it, and what is bound in it follows. -/
theorem entered {info : NodeInfo} {inner : Scope} {body : BindM α}
    {post : List Symbol → Log → α → Prop} (hinner : inner.Drawn root stock)
    (hbody : Accounts { env with scope := inner } root stock body post) :
    Accounts env root stock (Binding.within inner do
        Binding.recordScope info
        body) fun made log value =>
      ∃ log', log = log' ++ ⟨[], [(info, inner)]⟩ ∧ post made log' value := by
  refine .within ((Accounts.recordScope hinner).bind fun _ made log hdistinct ⟨hmade, hlog⟩ => ?_)
  subst hmade hlog
  refine hbody.mono fun made log' value _ h => ⟨log', rfl, ?_⟩
  rwa [List.append_nil]

end Accounts

/-! ## Selections -/

/-- **Listed**: the list of a `SELECT` is filed with its entries, which put out new columns and stand for
what was written. -/
structure Listed (cased : Bool) (instances : List TableInstance) (head : Option Ast.SelectClause)
    (made : List Symbol) (log : Log) (items : List Bound.SelectItem) : Prop where
  filed : Filed cased (head.toList.map fun part => ⟨.selectClause part, .entries items⟩) log
  missing : head = none → items = []
  output : Holds made (items.flatMap fun it => it.output.map .queryColumn)
  stands : ∀ info distinct top entries, head = some (.mk info distinct top entries) →
    List.Forall₂ (Stands cased instances) entries items

/-- What a row limit is put around selects the same, and puts out the same columns. -/
theorem selects_of_limited {limited : Bound.Query} {distinct : Bool} {tables : List Bound.TableRef}
    {filter : Option Bound.Expr} {grouping : List Bound.Expr} {having : Option Bound.Expr}
    {items : List Bound.SelectItem}
    (h : limited = .select distinct tables filter grouping having items ∨ ∃ rows ties,
      limited = .top (.select distinct tables filter grouping having items) rows ties) :
    limited.Selects tables items ∧
      limited.columnSymbols = items.flatMap fun it => it.output.map .queryColumn := by
  have hselects : limited.Selects tables items := ⟨distinct, filter, grouping, having, h⟩
  exact ⟨hselects, by rw [Bound.Query.columnSymbols, hselects.output, List.map_flatMap]⟩

/-- **Filing a `SELECT`** behind its tables, its clauses and its list. -/
theorem Booked.select {cased : Bool} {info : NodeInfo} {head : Option Ast.SelectClause}
    {source : Option Ast.FromClause} {filter having : Option Ast.Condition}
    {grouping : Option Ast.GroupByClause} {tables : List Bound.TableRef}
    {items : List Bound.SelectItem} {query : Bound.Query} {made : List Symbol}
    {below clauses list : Log} {scope outer : Scope} {id : SymbolId}
    (hsource : Filed cased (source.toList.map fun part => ⟨.fromClause part, .tables tables⟩) below)
    (hnone : source = none → tables = [])
    (hclauses : Booked cased (filter.toList.map .condition ++ grouping.toList.map .groupBy ++
      having.toList.map .condition) clauses)
    (hlist : Listed cased (tables.flatMap Bound.TableRef.instances) head made list items)
    (hselects : query.Selects tables items) :
    Booked cased [.query (.select info head source filter grouping having)]
      (⟨[⟨info, .query query, scope⟩], []⟩ ++ ((list ++ clauses) ++
        (⟨[], [(info, outer.push id (.tables (tables.flatMap Bound.TableRef.instances)))]⟩ ++
          below))) := by
  refine Filed.entering ?_ hsource (Filed.append hclauses hlist.filed)
    (.select (fun part hpart => ?_) hnone (fun part hpart => ?_) hlist.missing hselects hlist.stands)
  · cases source <;> cases filter <;> cases grouping <;> cases having <;> cases head <;> rfl
  · simp [hpart]
  · simp [hpart]

/-! ## Parts -/

/-- **Keeping account** of pieces that stand for nothing, in a drawn scope. -/
def Books {α : Type} (pieces : List Piece) (body : BindM α) : Prop :=
  ∀ ⦃env : Env⦄ ⦃root : Catalog⦄ ⦃stock : List Symbol⦄, env.scope.Drawn root stock →
    Accounts env root stock body fun _ log _ => Booked env.options.caseSensitive pieces log

namespace Books

variable {α β : Type} {wrap : α → Piece}

/-- A part that may be missing, if nothing is recorded in its place. -/
theorem calledFor {instead body : BindM β} {it : Option α}
    (h : CalledFor (fun it => Books [wrap it]) instead it body) (hmissing : Books [] instead) :
    Books (it.toList.map wrap) body := by
  intro env root stock hscope
  cases h with
  | given h => exact h hscope
  | missing => exact hmissing hscope

/-- A part in the place of which nothing is done. -/
theorem ifGiven {value : β} {body : BindM β} {it : Option α}
    (h : CalledFor (fun it => Books [wrap it]) (return value) it body) :
    Books (it.toList.map wrap) body :=
  calledFor h fun _ _ _ _ => .pure .nil

/-- A part that need not be there. -/
theorem ifAny {body : BindM (Option β)} {it : Option α}
    (h : IfAny (fun it => Books [wrap it]) it body) : Books (it.toList.map wrap) body := by
  intro env root stock hscope
  cases h with
  | given h => exact .behind (h hscope)
  | missing => exact .pure .nil

/-- Parts one after the other. -/
theorem inTurn {body : BindM (List β)} {items : List α}
    (h : InTurn (fun it => Books [wrap it]) items body) : Books (items.map wrap) body := by
  intro env root stock hscope
  induction h generalizing stock with
  | nil => exact .pure .nil
  | cons hfirst _ ih =>
    refine (hfirst hscope).bind fun _ _ _ _ h₁ => ?_
    exact .behind ((ih hscope.mono).mono fun _ _ _ _ h₂ => h₁.append h₂)

end Books

/-! ## The judgment -/

/-- **Binding a node keeps account.** The instances of tables, the output columns of queries and select
lists, and common tables are new. -/
def accounts : Judgment where
  Expr it := Books [.expr it]
  Arguments it := Books [.arguments it]
  Label _ it := Books [.caseLabel it]
  Condition _ it := Books [.condition it]
  Table it body := ∀ ⦃env : Env⦄ ⦃root stock⦄, env.scope.Drawn root stock →
    Accounts env root stock body fun made log value =>
      Filed env.options.caseSensitive [⟨.table it, .table value⟩] log ∧ Holds made value.instanceSymbols
  Source it body := ∀ ⦃env : Env⦄ ⦃root stock⦄, env.scope.Drawn root stock →
    Accounts env root stock body fun made log values =>
      Filed env.options.caseSensitive [⟨.fromClause it, .tables values⟩] log ∧
        Holds made (values.flatMap Bound.TableRef.instanceSymbols)
  Grouping it := Books [.groupBy it]
  Item instances it body := ∀ ⦃env : Env⦄ ⦃root stock outer id⦄, env.scope.Drawn root stock →
    env.scope = Scope.push outer id (.tables instances) →
      Accounts env root stock body fun made log value =>
        Filed env.options.caseSensitive [⟨.selectItem it, .entry value⟩] log ∧
          Holds made (value.output.map .queryColumn) ∧
          Stands env.options.caseSensitive instances it value
  Head instances it body := ∀ ⦃env : Env⦄ ⦃root stock outer id⦄, env.scope.Drawn root stock →
    env.scope = Scope.push outer id (.tables instances) →
      Accounts env root stock body (Listed env.options.caseSensitive instances (some it))
  Key _ it := Books [.expr it]
  Entry _ it := Books [.orderItem it]
  Definition earlier it body := ∀ ⦃env : Env⦄ ⦃root stock before⦄, env.scope.Drawn root stock →
    Symbol.Distinct (before ++ stock) → Holds before (earlier.map .commonTable) →
      Accounts env root (before ++ stock) body fun made log definition =>
        Booked env.options.caseSensitive [.commonTable it] log ∧
          Holds (made ++ before) ((earlier ++ [definition.symbol]).map .commonTable)
  Query it body := ∀ ⦃env : Env⦄ ⦃root stock⦄, env.scope.Drawn root stock →
    Accounts env root stock body (Settled env [.query it])

section Parts

variable {env : Env} {root : Catalog} {stock : List Symbol}

/-- Expressions that are called for. -/
theorem Books.optionalExpr {it : Option Ast.Expr} {body : BindM Bound.Expr}
    (h : accounts.OptionalExpr it body) : Books (Piece.ofExpr? it) body :=
  calledFor h fun _ _ _ _ => .quiet Quiet.missingExpr fun _ _ => .nil

/-- Queries that are called for. -/
theorem Accounts.optionalQuery {it : Option Ast.Query} {body : BindM ScopedQuery}
    (h : accounts.OptionalQuery it body) (hscope : env.scope.Drawn root stock) :
    Accounts env root stock body (Settled env (Piece.ofQuery? it)) := by
  cases h with
  | given h => exact h hscope
  | missing => exact .before Quiet.currentScope fun _ hsame => .pure ⟨.nil, .nil, .inl hsame⟩

/-- Table references that are called for. -/
theorem Accounts.optionalTable {it : Option Ast.TableRef} {body : BindM Bound.TableRef}
    (h : accounts.OptionalTable it body) (hscope : env.scope.Drawn root stock) :
    Accounts env root stock body fun made log value =>
      Filed env.options.caseSensitive (it.toList.map fun part => ⟨.table part, .table value⟩) log ∧
        Holds made value.instanceSymbols := by
  cases h with
  | given h => exact h hscope
  | missing =>
    exact (Accounts.missingTable hscope).mono fun _ _ _ _ ⟨hlog, hholds⟩ => ⟨hlog ▸ .nil, hholds⟩

/-- Table references one after the other. -/
theorem Accounts.tables {items : List Ast.TableRef} {body : BindM (List Bound.TableRef)}
    (h : InTurn accounts.Table items body) (hscope : env.scope.Drawn root stock) :
    Accounts env root stock body fun made log values =>
      Rows env.options.caseSensitive .table .table items values log ∧
        Holds made (values.flatMap Bound.TableRef.instanceSymbols) := by
  induction h generalizing stock with
  | nil => exact .pure ⟨.nil, .nil⟩
  | cons hfirst _ ih =>
    refine (hfirst hscope).bind fun _ _ _ _ ⟨h₁, hholds₁⟩ => ?_
    refine .behind ((ih hscope.mono).mono fun _ _ _ hdistinct ⟨h₂, hholds₂⟩ => ?_)
    exact ⟨.cons h₁ h₂, hholds₁.append hholds₂ hdistinct⟩

/-- The tables of a `FROM` that may be missing. -/
theorem Accounts.fromClause {it : Option Ast.FromClause} {body : BindM (List Bound.TableRef)}
    (h : CalledFor accounts.Source (return []) it body) (hscope : env.scope.Drawn root stock) :
    Accounts env root stock body fun made log values =>
      Filed env.options.caseSensitive (it.toList.map fun part => ⟨.fromClause part, .tables values⟩)
          log ∧
        (it = none → values = []) ∧ Holds made (values.flatMap Bound.TableRef.instanceSymbols) := by
  cases h with
  | given h => exact (h hscope).mono fun _ _ _ _ ⟨h, hholds⟩ => ⟨h, nofun, hholds⟩
  | missing => exact .pure ⟨.nil, fun _ => rfl, .nil⟩

/-- The entries of a select list make new output columns, and a `*` is about the tables at hand. -/
theorem Accounts.selectItems {instances : List TableInstance} {items : List Ast.SelectItem}
    {body : BindM (List Bound.SelectItem)} (h : InTurn (accounts.Item instances) items body)
    {outer : Scope} {id : SymbolId} (hscope : env.scope.Drawn root stock)
    (houter : env.scope = outer.push id (.tables instances)) :
    Accounts env root stock body fun made log values =>
      Rows env.options.caseSensitive .selectItem .entry items values log ∧
        Holds made (values.flatMap fun it => it.output.map .queryColumn) ∧
        List.Forall₂ (Stands env.options.caseSensitive instances) items values := by
  induction h generalizing stock with
  | nil => exact .pure ⟨.nil, .nil, .nil⟩
  | cons hfirst _ ih =>
    refine (hfirst hscope houter).bind fun _ _ _ _ ⟨h₁, hholds₁, hstands⟩ => ?_
    refine .behind ((ih hscope.mono).mono fun _ _ _ hdistinct ⟨h₂, hholds₂, hrest⟩ => ?_)
    exact ⟨.cons h₁ h₂, hholds₁.append hholds₂ hdistinct, .cons hstands hrest⟩

/-- The list of a `SELECT` that may be missing. -/
theorem Accounts.selectClause {instances : List TableInstance} {it : Option Ast.SelectClause}
    {body : BindM (List Bound.SelectItem)}
    (h : CalledFor (accounts.Head instances) (return []) it body) {outer : Scope} {id : SymbolId}
    (hscope : env.scope.Drawn root stock) (houter : env.scope = outer.push id (.tables instances)) :
    Accounts env root stock body (Listed env.options.caseSensitive instances it) := by
  cases h with
  | given h => exact h hscope houter
  | missing => exact .pure ⟨.nil, fun _ => rfl, .nil, fun _ _ _ _ heq => by cases heq⟩

/-- Definitions make new common tables. Those before them are not named again. -/
theorem Accounts.definitions {earlier : List CommonTable} {items : List Ast.CommonTable}
    {body : BindM (List Bound.Definition)} (h : DefinedInTurn accounts.Definition earlier items body)
    {before : List Symbol} (hscope : env.scope.Drawn root stock)
    (hdistinct : Symbol.Distinct (before ++ stock)) (hearlier : Holds before (earlier.map .commonTable)) :
    Accounts env root (before ++ stock) body fun made log definitions =>
      Booked env.options.caseSensitive (items.map .commonTable) log ∧
        Holds (made ++ before)
          ((earlier ++ definitions.map Bound.Definition.symbol).map .commonTable) := by
  induction h generalizing before with
  | nil => exact .pure ⟨.nil, by simpa using hearlier⟩
  | @cons earlier it rest _ _ hfirst _ ih =>
    refine (hfirst hscope hdistinct hearlier).bind fun definition made log hdistinct₁ ⟨h₁, hsofar⟩ => ?_
    rw [← List.append_assoc] at hdistinct₁ ⊢
    refine .behind ((ih definition hdistinct₁ hsofar).mono fun made' _ definitions _ ⟨h₂, hholds⟩ => ?_)
    rw [List.append_assoc, List.singleton_append] at hholds
    exact ⟨h₁.append h₂, by rwa [List.append_assoc]⟩

end Parts

/-! ## The rules -/

/-- Account of expressions without parts. -/
theorem accounts_leaves : accounts.Leaves where
  name info ident _ _ _ hscope := .leaf (.name info ident) hscope (Quiet.name ident) rfl rfl
  parameter info ident _ _ _ hscope :=
    .leaf (.parameter info ident) hscope (Quiet.hostVariable info ident) rfl rfl
  literal info token _ _ _ hscope := .leaf (.literal info token) hscope (Quiet.literal token) rfl rfl
  countAll info ident _ _ _ hscope :=
    .leaf (.countAll info ident) hscope (Quiet.countAll info ident) rfl rfl
  nameless info target ident hnone _ _ _ hscope := by
    have hvisited : (Piece.expr (.property info target ident)).visited = [] := by
      rcases hnone with rfl | rfl
      · cases ident <;> rfl
      · cases target <;> rfl
    exact .leaf (.property info target ident) hscope Quiet.missingExpr rfl hvisited

/-- Account of operators and of the conditions of clauses. -/
theorem accounts_operations : accounts.Operations where
  parenthesized info inner _ h _ _ _ hscope := (Books.optionalExpr h hscope).mono fun _ _ _ _ h =>
    .through (.expr (.parenthesized info inner)) h rfl rfl rfl rfl
  unary info operator operand _ h _ _ _ hscope :=
    (Books.optionalExpr h hscope).bind fun value _ _ _ h =>
      .expr (.unary info operator operand) hscope.mono (Quiet.unary info operator value) rfl rfl h
  binary info operator negated left right _ _ h₁ h₂ _ _ _ hscope := by
    refine (Books.optionalExpr h₁ hscope).bind fun _ _ _ _ h₁ => ?_
    refine (Books.optionalExpr h₂ hscope.mono).bind fun _ _ _ _ h₂ => ?_
    simp only [Log.append_assoc]
    exact .expr (.binary info left operator negated right) hscope.mono.mono
      (Quiet.binary info operator negated _ _) rfl rfl (h₁.append h₂)
  cast info type operand _ h _ _ _ hscope := (Books.optionalExpr h hscope).bind fun _ _ _ _ h =>
    .expr (.cast info operand type) hscope.mono (Quiet.cast info _ type) rfl rfl h
  isNull info negated operand _ h _ _ _ hscope := (Books.optionalExpr h hscope).bind fun _ _ _ _ h =>
    .plainExpr (.isNull info operand negated) hscope.mono rfl rfl h
  condition info place predicate _ h _ _ _ hscope := by
    refine (Books.optionalExpr h hscope).bind fun bound _ _ _ h => ?_
    refine .before (Quiet.checkCondition info.span place bound) fun _ _ => .pure ?_
    exact .through (.condition (.mk info predicate)) h rfl rfl rfl rfl

/-- Account of a `CASE` and its labels. -/
theorem accounts_branches : accounts.Branches where
  label input info condition result _ _ h₁ h₂ env _ _ hscope := by
    refine (Books.optionalExpr h₁ hscope).bind fun bound _ _ _ h₁ => ?_
    refine .before (Quiet.checkLabel input condition bound) fun _ _ => ?_
    refine (Books.optionalExpr h₂ hscope.mono).bind fun result' _ _ _ h₂ => ?_
    refine .behind ((Accounts.record hscope.mono.mono (fun _ hmem => absurd hmem List.not_mem_nil)
      rfl).mono fun made log _ _ ⟨_, hlog⟩ => ?_)
    subst hlog
    exact .closing (.caseLabel (.mk info condition result)) (h₁.append h₂) rfl rfl rfl rfl
      (rfl : [(⟨info, .caseLabel (.mk bound result'), env.scope⟩ : Record)].map Record.info = _)
  cases info input otherwise labels _ _ _ h₁ h₂ h₃ _ _ _ hscope := by
    refine (Books.ifAny h₁ hscope).bind fun input' _ _ _ h₁ => ?_
    refine (Books.inTurn (h₂ input') hscope.mono).bind fun _ _ _ _ h₂ => ?_
    refine (Books.ifAny h₃ hscope.mono.mono).bind fun _ _ _ _ h₃ => ?_
    simp only [Log.append_assoc]
    refine .expr (.cases info input labels otherwise) hscope.mono.mono.mono
      (Quiet.caseOf info _ _ _) rfl rfl ?_
    exact (Log.append_assoc _ _ _) ▸ ((h₁.append h₂).append h₃)

/-- Account of properties, methods and calls. -/
theorem accounts_members : accounts.Members where
  property info ident target _ _ h _ _ _ hscope := (h hscope).bind fun value _ _ _ h =>
    .expr (.property info (some target) (some ident)) hscope.mono (Quiet.property value ident) rfl rfl h
  qualified info node token ident _ h env _ _ hscope := by
    refine (Accounts.qualified hscope).bind fun decided made log _ hdecided => ?_
    cases decided with
    | some it =>
      obtain ⟨value, rfl⟩ := hdecided
      refine (Accounts.recordExpr hscope.mono).mono fun _ log _ _ ⟨_, hlog, _⟩ => ?_
      subst hlog
      exact .expr (.property info (some (.name node (some token))) (some ident))
        (.expr (.name node (some token)) .nil rfl) rfl
    | none =>
      cases hdecided
      refine (h hscope.mono).bind fun value _ _ _ h => ?_
      simp only [Log.append_empty]
      exact .expr (.property info (some (.name node (some token))) (some ident)) hscope.mono.mono
        (Quiet.property value ident) rfl rfl h
  method info ident target arguments _ _ h₁ h₂ _ _ _ hscope := by
    refine (Books.optionalExpr h₁ hscope).bind fun _ _ _ _ h₁ => ?_
    refine (Books.ifGiven h₂ hscope.mono).bind fun _ _ _ _ h₂ => ?_
    simp only [Log.append_assoc]
    exact .expr (.method info target ident arguments) hscope.mono.mono (Quiet.method info ident _ _)
      rfl rfl (h₁.append h₂)
  call info ident arguments _ h _ _ _ hscope := (Books.ifGiven h hscope).bind fun _ _ _ _ h =>
    .expr (.call info ident arguments) hscope.mono (Quiet.call info ident _) rfl rfl h
  arguments info items _ h _ _ _ hscope := (Books.inTurn h hscope).mono fun _ _ _ _ h =>
    .through (.arguments (.mk info items)) h rfl rfl rfl rfl

/-- Account of expressions with a query in them. -/
theorem accounts_subqueries : accounts.Subqueries where
  subselect info body _ h _ _ _ hscope := (Accounts.optionalQuery h hscope).bind fun _ _ _ _ h =>
    .expr (.subselect info body) hscope.mono (Quiet.subselect info _) rfl rfl h.booked
  existence info body _ h _ _ _ hscope := (Accounts.optionalQuery h hscope).bind fun _ _ _ _ h =>
    .plainExpr (.existence info body) hscope.mono rfl rfl h.booked
  quantified info operator quantifier left body _ _ h₁ h₂ _ _ _ hscope := by
    refine (Books.optionalExpr h₁ hscope).bind fun _ _ _ _ h₁ => ?_
    refine (Accounts.optionalQuery h₂ hscope.mono).bind fun _ _ _ _ h₂ => ?_
    simp only [Log.append_assoc]
    exact .expr (.quantified info left operator quantifier body) hscope.mono.mono
      (Quiet.quantified info operator quantifier _ _) rfl rfl (h₁.append h₂.booked)

/-- Account of table references. -/
theorem accounts_tables : accounts.Tables where
  parenthesizedTable info inner _ h env _ _ hscope := by
    refine (Accounts.optionalTable h hscope).mono fun _ log value _ ⟨h, hholds⟩ => ⟨?_, hholds⟩
    have hnested : Makes env.options.caseSensitive (fun part yield => ⟨part, yield⟩ ∈
        inner.toList.map fun part => (⟨.table part, .table value⟩ : Filing))
        (.table (.parenthesized info inner)) (.table value) [] [] :=
      .nested fun part hpart => by simp [hpart]
    exact Filed.node (by cases inner <;> rfl) h hnested
  named _ _ _ _ _ _ hscope := by
    refine (Accounts.namedTable hscope).mono fun _ log value _ ⟨⟨named, hvalue⟩, hlog, hholds⟩ =>
      ⟨?_, hholds⟩
    subst hvalue hlog
    exact Filed.node rfl .nil .named
  derived _ _ body _ h _ _ _ hscope := by
    refine (Accounts.optionalQuery h hscope).bind fun bound _ _ _ h => ?_
    refine (Accounts.derivedTable hscope.mono).mono fun _ log value _ ⟨hvalue, hlog, hholds⟩ =>
      ⟨?_, hholds.behind⟩
    obtain ⟨derived, source, rfl, hsource, hlists⟩ := hvalue
    subst hlog
    exact Filed.node (Booked.map_piece _ |>.trans (by cases body <;> rfl)) h.booked
      (.derived hsource hlists)
  joined info kind left right condition _ _ _ h₁ h₂ h₃ env root stock hscope := by
    refine (Accounts.optionalTable h₁ hscope).bind
      fun left' made₁ log₁ hdistinct₁ ⟨h₁, hholds₁⟩ => ?_
    refine .before (lateralScope_quiet kind left' env) fun lateral hlateral => ?_
    have hdrawn : lateral.Drawn root (made₁ ++ stock) := by
      rcases hlateral with rfl | ⟨-, id, rfl⟩
      · exact hscope.mono
      · exact hholds₁.push hscope hdistinct₁ id
    refine (Accounts.within (Accounts.optionalTable h₂ hdrawn)).bind
      fun right' made₂ log₂ hdistinct₂ ⟨h₂, hholds₂⟩ => ?_
    refine .before (Quiet.childScope _) fun both ⟨id, hboth⟩ => ?_
    -- the condition sees the tables of both sides, in front of the scope around the join
    have hholds : Holds (made₂ ++ made₁)
        ((left'.instances ++ right'.instances).map Symbol.tableInstance) := by
      rw [List.map_append]
      exact hholds₁.append hholds₂ hdistinct₂
    have hdrawn' : both.Drawn root (made₂ ++ (made₁ ++ stock)) := by
      rw [hboth, ← List.append_assoc]
      exact hholds.push hscope (List.append_assoc .. ▸ hdistinct₂) id
    refine (Accounts.entered hdrawn' (Books.ifGiven h₃ hdrawn')).bind
      fun condition' made₃ log₃ _ ⟨log, hlog, h₃⟩ => ?_
    have hrecord : Accounts env root (made₃ ++ (made₂ ++ (made₁ ++ stock)))
        (record info (.table (.joined left' kind right' condition'))) fun made log _ => made = [] ∧
          log = ⟨[⟨info, .table (.joined left' kind right' condition'), env.scope⟩], []⟩ := by
      refine .record hscope.mono.mono.mono (fun symbol hsymbol => List.mem_append_right _ ?_) rfl
      rw [← List.append_assoc]
      exact List.mem_append_left _ (hholds.subset symbol hsymbol)
    refine .behind (hrecord.mono fun made own _ _ ⟨_, hown⟩ => ⟨?_, ?_⟩)
    · subst hlog hown hboth
      simp only [Log.append_assoc]
      refine Filed.entering ?_ (h₁.append h₂) h₃
        (.joined (fun part hpart => ?_) fun part hpart => ?_)
      · cases left <;> cases right <;> cases condition <;> rfl
      · simp [hpart]
      · simp [hpart]
    · rw [List.append_assoc, List.append_assoc]
      exact hholds.mono.mono
  source info items _ h _ _ _ hscope := by
    refine (Accounts.tables h hscope).mono
      fun _ _ values _ ⟨⟨filings, hpieces, h, hvalued⟩, hholds⟩ => ⟨?_, hholds⟩
    have hvisited : (Piece.fromClause (.mk info items)).visited = items.map .table :=
      Piece.visited_eq_of_isPartial rfl
    exact Filed.node (hpieces.trans hvisited.symm) h (.fromClause hvalued)

/-- **The clauses of a `SELECT`**, in the scope with the tables of its `FROM`. -/
theorem Accounts.clauses {env : Env} {root : Catalog} {stock : List Symbol}
    {head : Option Ast.SelectClause} {filter having : Option Ast.Condition}
    {grouping : Option Ast.GroupByClause} {references : List Bound.TableRef}
    {second fourth : BindM (Option Bound.Expr)} {third : BindM (List Bound.Expr)}
    {fifth : BindM (List Bound.SelectItem)} {instances : List TableInstance} {outer : Scope}
    {id : SymbolId} (hscope : env.scope.Drawn root stock)
    (houter : env.scope = outer.push id (.tables instances))
    (h₂ : CalledFor (accounts.Condition .filter) (return none) filter second)
    (h₃ : CalledFor accounts.Grouping (return []) grouping third)
    (h₄ : CalledFor (accounts.Condition .having) (return none) having fourth)
    (h₅ : CalledFor (accounts.Head instances) (return []) head fifth) :
    Accounts env root stock (do
        let filter ← second
        let grouping ← third
        let having ← fourth
        let items ← fifth
        return Bound.Query.select (isDistinct head) references filter grouping having items)
      fun made log bound => ∃ clauses made' list items filter' grouping' having',
        log = list ++ clauses ∧ Booked env.options.caseSensitive (filter.toList.map .condition ++
          grouping.toList.map .groupBy ++ having.toList.map .condition) clauses ∧
        Listed env.options.caseSensitive instances head made' list items ∧
        (∀ symbol ∈ made', symbol ∈ made) ∧
        bound = .select (isDistinct head) references filter' grouping' having' items := by
  refine (Books.ifGiven h₂ hscope).bind fun filter' _ _ _ h₂ => ?_
  refine (Books.ifGiven h₃ hscope.mono).bind fun grouping' _ _ _ h₃ => ?_
  refine (Books.ifGiven h₄ hscope.mono.mono).bind fun having' _ _ _ h₄ => ?_
  refine .behind ((Accounts.selectClause h₅ hscope.mono.mono.mono houter).mono
    fun made' list items _ hlist => ?_)
  refine ⟨_, made', list, items, filter', grouping', having', ?_, (h₂.append h₃).append h₄, hlist,
    fun symbol hsymbol => ?_, rfl⟩
  · simp only [Log.append_assoc]
  · simp only [List.mem_append, hsymbol, true_or]

/-- Account of a `SELECT` and its clauses. -/
theorem accounts_selects : accounts.Selects where
  column instances info correlation value _ h env _ _ outer id hscope _ := by
    refine (Books.optionalExpr h hscope).bind fun bound _ _ _ h₁ => ?_
    refine (Accounts.selectColumn hscope.mono).mono
      fun _ _ item _ ⟨⟨column, hitem⟩, hlog, hholds⟩ => ?_
    subst hitem hlog
    have hvisited : (Piece.selectItem (.column info value correlation)).visited = Piece.ofExpr? value :=
      Piece.visited_eq_of_isPartial rfl
    have hone := Filed.node ((Booked.map_piece _).trans hvisited.symm) h₁ (.column : Makes _ _
      (.selectItem (.column info value correlation)) (.entry (.column bound column))
      [⟨info, _, env.scope⟩] _)
    exact ⟨hone, hholds.behind, bound, column, rfl⟩
  wildcard instances info token env _ stock outer id hscope houter := by
    have hinstances : ∀ table ∈ instances, Symbol.tableInstance table ∈ stock := by
      intro table htable
      refine hscope.subset _ (houter ▸ List.mem_append_left _ ?_)
      exact List.mem_map_of_mem htable
    refine (Accounts.wildcard hscope hinstances).mono fun _ _ item _ ⟨hstands, hlog, hholds⟩ => ?_
    subst hlog
    have hmakes : ∀ valued, Makes env.options.caseSensitive valued (.selectItem (.wildcard info token))
        (.entry item) [⟨info, .selectItem item, env.scope⟩] [] := by
      intro valued
      rw [houter]
      cases token with
      | none =>
        obtain ⟨columns, rfl, hpairs⟩ := hstands
        exact .wildcard hpairs
      | some token =>
        obtain ⟨columns, rfl, hpairs⟩ := hstands
        exact .qualified hpairs
    have hone := Filed.node rfl .nil (hmakes _)
    rw [Log.append_empty] at hone
    exact ⟨hone, hholds, hstands⟩
  head instances info distinct top items _ h _ _ _ _ _ hscope houter := by
    refine (Accounts.selectItems h hscope houter).mono
      fun _ _ values _ ⟨⟨filings, hpieces, h, hvalued⟩, hholds, hstands⟩ => ⟨?_, nofun, hholds, ?_⟩
    swap
    · rintro _ _ _ _ ⟨⟩
      exact hstands
    have hvisited : (Piece.selectClause (.mk info distinct top items)).visited =
        items.map .selectItem := Piece.visited_eq_of_isPartial rfl
    exact Filed.node (hpieces.trans hvisited.symm) h (.selectClause hvalued)
  grouping info keys _ h _ _ _ hscope := (Books.inTurn h hscope).mono fun _ _ _ _ h =>
    .through (.groupBy (.mk info keys)) h rfl rfl rfl rfl
  select info head source filter having grouping _ _ _ _ _ h₁ h₂ h₃ h₄ h₅ _ root stock hscope := by
    refine (Accounts.fromClause h₁ hscope).bind
      fun references made₁ log₁ hdistinct₁ ⟨h₁, hnone₁, hholds₁⟩ => ?_
    refine .before (Quiet.childScope _) fun inner ⟨id, hinner⟩ => ?_
    have hinstances : Holds made₁
        ((references.flatMap Bound.TableRef.instances).map .tableInstance) := by
      rw [List.map_flatMap]
      exact hholds₁
    have hdrawn : inner.Drawn root (made₁ ++ stock) := hinner ▸ hinstances.push hscope hdistinct₁ id
    refine (Accounts.entered hdrawn
      (Accounts.clauses hdrawn hinner h₂ h₃ h₄ (h₅ _))).bind
      fun bound made₂ log₂ hdistinct₂ ⟨later, hlater, hbooked⟩ => ?_
    obtain ⟨clauses, made', list, items, filter', grouping', having', hlog, h₂, hlist, hmade,
      hbound⟩ := hbooked
    refine .before (Quiet.limit_query (rowLimit head) bound) fun limited hlimited => ?_
    obtain ⟨hselects, houtput⟩ := selects_of_limited (hbound ▸ hlimited)
    have hholds : Holds made₂ limited.columnSymbols :=
      houtput ▸ ⟨hlist.output.nodup, fun symbol hsymbol =>
        hmade symbol (hlist.output.subset symbol hsymbol)⟩
    refine (Accounts.recordQuery hscope.mono.mono fun symbol hsymbol => ?_).mono
      fun made₃ own result _ ⟨_, hown, hresult⟩ => ?_
    · exact List.mem_append_left _ (hholds.subset symbol hsymbol)
    subst hlater hlog hown hresult hinner
    refine ⟨?_, ?_, .inr ⟨id, _, rfl, hinstances.mono⟩⟩
    · rw [Log.append_assoc, Log.append_assoc]
      exact .select h₁ hnone₁ h₂ hlist hselects
    · rw [List.append_assoc]
      exact hholds.behind.mono

/-- Account of an `ORDER BY`: an entry that is a position is recorded like any other number. -/
theorem accounts_orders : accounts.Orders where
  key _ _ _ _ h := h
  position _ info token _ _ _ _ _ _ _ hscope := by
    refine (Accounts.recordExpr hscope).mono fun _ log _ _ ⟨_, hlog, _⟩ => ?_
    subst hlog
    exact .expr (.literal info (some token)) .nil rfl
  outside _ _ _ _ _ _ _ h _ _ _ hscope := .before (Quiet.report _ _) fun _ _ => h hscope
  entry _ info descending key _ h _ _ _ hscope := by
    have hkey : Books (Piece.ofExpr? key) _ := Books.calledFor h fun _ _ _ _ =>
      .quiet Quiet.missingExpr fun _ _ => .nil
    exact .behind ((hkey hscope).mono fun _ _ _ _ h =>
      .through (.orderItem (.mk info key descending)) h rfl rfl rfl rfl)
  ordered info input items _ _ h₁ h₂ env root stock hscope := by
    refine .before Quiet.currentScope fun scope hsame => ?_
    refine (Accounts.optionalQuery h₁ hscope).bind fun input' made₁ log₁ hdistinct h₁ => ?_
    refine .before (Quiet.child _ _) fun inner ⟨id, hinner⟩ => ?_
    have hvisited : (Piece.query (.ordered info input items)).visited =
        Piece.ofQuery? input ++ items.map .orderItem := Piece.visited_eq_of_isPartial rfl
    have hdrawn : inner.Drawn root (made₁ ++ stock) := hinner ▸ h₁.ordering hscope hdistinct id
    refine (Accounts.entered hdrawn (Books.inTurn (h₂ _) hdrawn)).bind
      fun keys made₂ log₂ _ ⟨later, hlater, h₂⟩ => ?_
    refine (Accounts.recordQuery hscope.mono.mono fun symbol hsymbol => ?_).mono
      fun _ own result _ ⟨_, hown, hresult⟩ => ?_
    · exact List.mem_append_right _ (List.mem_append_left _ (h₁.output.subset symbol hsymbol))
    subst hlater hown hresult
    refine ⟨?_, ?_, .inl hsame⟩
    · simp only [Log.append_assoc]
      exact .entering (.query (.ordered info input items)) h₁.booked h₂ hvisited.symm rfl rfl rfl
        rfl
    · rw [List.append_assoc]
      exact h₁.output.mono.mono

/-- Account of the other queries. -/
theorem accounts_queries : accounts.Queries where
  parenthesizedQuery info inner _ h _ _ _ hscope := by
    refine .before Quiet.currentScope fun scope hsame => ?_
    refine .behind ((Accounts.optionalQuery h hscope).mono fun _ _ _ _ h => ?_)
    exact ⟨.through (.query (.parenthesized info inner)) h.booked rfl rfl rfl rfl, h.output, .inl hsame⟩
  combined info operator left right _ _ h₁ h₂ _ _ _ hscope := by
    refine .before Quiet.currentScope fun scope hsame => ?_
    refine (Accounts.optionalQuery h₁ hscope).bind fun left' _ _ _ h₁ => ?_
    refine (Accounts.optionalQuery h₂ hscope.mono).bind fun right' _ _ _ h₂ => ?_
    refine Accounts.combine.bind fun bound made log _ ⟨hlog, hholds⟩ => ?_
    refine (Accounts.recordQuery hscope.mono.mono.mono fun symbol hsymbol => ?_).mono
      fun _ own result _ ⟨_, hown, hresult⟩ => ?_
    · exact List.mem_append_left _ (hholds.subset symbol hsymbol)
    subst hlog hown hresult
    refine ⟨?_, ?_, .inl hsame⟩
    · simp only [Log.append_assoc, Log.empty_append]
      exact .closing (.query (.combined info left operator right)) (h₁.booked.append h₂.booked) rfl rfl
        rfl rfl rfl
    · rw [List.append_assoc, List.append_assoc]
      exact hholds.behind.mono
  definition earlier info ident columns body first h env root stock before hscope hdistinct hearlier := by
    -- the definition, once it is clear which scope its query sees
    have hbehind : ∀ scope : Scope, scope.Drawn root (before ++ stock) →
        Accounts env root (before ++ stock) (do
          let body ← Binding.within scope do
            recordScope info
            first
          define info ident columns body.query)
        fun made log definition =>
          Booked env.options.caseSensitive [.commonTable (.mk info ident columns body)] log ∧
            Holds (made ++ before) ((earlier ++ [definition.symbol]).map .commonTable) := by
      intro scope hdrawn
      refine (Accounts.entered hdrawn (Accounts.optionalQuery h hdrawn)).bind
        fun bound made₁ log₁ hdistinct₁ ⟨below, hbelow, h₁⟩ => ?_
      refine (Accounts.define hscope.mono.mono).mono
        fun made₂ log₂ definition hdistinct₂ ⟨⟨table, hdefinition, houtput, hlists⟩, hlog₂, hholds⟩ => ?_
      subst hdefinition hlog₂ hbelow
      have hvisited : (Piece.commonTable (.mk info ident columns body)).visited =
          Piece.ofQuery? body := Piece.visited_eq_of_isPartial rfl
      refine ⟨Filed.entering ?_ .nil h₁.booked (.commonTable hlists houtput), ?_⟩
      · exact (Booked.map_piece _).trans hvisited.symm
      · rw [List.map_append, List.append_assoc]
        rw [← List.append_assoc made₁] at hdistinct₂
        exact hearlier.mono.append hholds hdistinct₂
    split
    · exact .before Quiet.currentScope fun scope hsame => hbehind scope (hsame ▸ hscope.mono)
    · exact .before (Quiet.childScope _) fun scope ⟨id, hpushed⟩ =>
        hbehind scope (hpushed ▸ hearlier.push hscope hdistinct id)
  withTables info definitions body _ _ h₁ h₂ env root stock hscope := by
    refine .before Quiet.currentScope fun scope hsame => ?_
    refine .of_distinct fun hdistinct₀ => ?_
    refine (Accounts.definitions h₁ hscope
      (show Symbol.Distinct ([] ++ stock) from hdistinct₀) .nil).bind
      fun definitions' made₁ log₁ hdistinct ⟨h₁, hholds⟩ => ?_
    rw [List.append_nil] at hholds
    refine .before (Quiet.childScope _) fun inner ⟨id, hinner⟩ => ?_
    have hdrawn : inner.Drawn root (made₁ ++ stock) := hinner ▸ hholds.push hscope hdistinct id
    refine (Accounts.entered hdrawn (Accounts.optionalQuery h₂ hdrawn)).bind
      fun bound made₂ log₂ _ ⟨later, hlater, h₂⟩ => ?_
    refine (Accounts.recordQuery hscope.mono.mono fun symbol hsymbol => ?_).mono
      fun _ own result _ ⟨_, hown, hresult⟩ => ?_
    · exact List.mem_append_left _ (h₂.output.subset symbol hsymbol)
    have hvisited : (Piece.query (.withTables info definitions body)).visited =
        definitions.map .commonTable ++ Piece.ofQuery? body := Piece.visited_eq_of_isPartial rfl
    subst hlater hown hresult
    refine ⟨?_, ?_, .inl hsame⟩
    · simp only [Log.append_assoc]
      exact .entering (.query (.withTables info definitions body)) h₁ h₂.booked hvisited.symm rfl rfl rfl
        rfl
    · rw [List.append_assoc]
      exact h₂.output.behind.mono

/-- **Binding keeps account.** -/
theorem accounts_closed : accounts.Closed :=
  ⟨accounts_leaves, accounts_operations, accounts_branches, accounts_members, accounts_subqueries,
    accounts_tables, accounts_selects, accounts_orders, accounts_queries⟩

/-! ## Whole trees -/

/-- **Binding what a tree is read as** keeps account, if it is a unit, a query or an expression. -/
theorem piece_accounts (it : Piece) {env : Env} {root : Catalog} {stock : List Symbol}
    (hscope : env.scope.Drawn root stock) :
    Accounts env root stock (piece it) fun _ log _ =>
      Booked env.options.caseSensitive (if it.isRoot then [it] else []) log := by
  cases it with
  | unit it =>
    obtain ⟨info, body, value⟩ := it
    cases body with
    | some body =>
      refine .behind ((accounts_closed.query body hscope).mono fun _ log _ _ h => ?_)
      exact .passed (.unit ⟨info, some body, value⟩) h.booked rfl rfl rfl
    | none =>
      cases value with
      | some value =>
        refine .behind ((accounts_closed.expr value hscope).mono fun _ log _ _ h => ?_)
        exact .passed (.unit ⟨info, none, some value⟩) h rfl rfl rfl
      | none => exact .pure (.passed (.unit ⟨info, none, none⟩) .nil rfl rfl rfl)
  | query it => exact .behind ((accounts_closed.query it hscope).mono fun _ _ _ _ h => h.booked)
  | expr it => exact .behind (accounts_closed.expr it hscope)
  | _ => exact .pure .nil

end Binding

open Binding

/-- **Binding a tree keeps account** of the symbols that it makes, and files all that it comes to. The
pass may begin with some stock, the identities of which are taken. -/
theorem SyntaxTree.bind_accounts (tree : SyntaxTree) (options : Options) (catalog : Catalog)
    (next : SymbolId) {stock : List Symbol} (hstart : Kept catalog stock (.start (next + 1))) :
    ∃ made pass log, let result := (tree.bind options catalog next).1
      Kept catalog (made ++ stock) pass ∧ pass.records = result.records ∧
        pass.scopes = result.scopes ∧
        Booked options.caseSensitive (if tree.root.piece.isRoot then [tree.root.piece] else []) log ∧
        result.records = log.records ∧
        result.scopes = log.scopes ++ tree.root.info?.toList.map (·, result.rootScope) := by
  have hscope : Scope.Drawn catalog stock ⟨next, catalog, []⟩ :=
    ⟨List.nodup_nil, fun _ hmem => absurd hmem List.not_mem_nil, rfl⟩
  have hpass : ∀ part : Located, Accounts ⟨options, ⟨next, catalog, []⟩⟩ catalog stock (pass part)
      fun _ log _ => ∃ log',
        log = log' ++ ⟨[], part.info?.toList.map (·, ⟨next, catalog, []⟩)⟩ ∧
        Booked options.caseSensitive (if part.piece.isRoot then [part.piece] else []) log' := by
    intro part
    cases part with
    | token leaf => exact .pure ⟨.empty, rfl, .nil⟩
    | node info children =>
      refine (Accounts.recordScope hscope).bind fun _ _ entered _ ⟨_, hentered⟩ => ?_
      exact (piece_accounts _ hscope.mono).mono fun _ log _ _ h => ⟨log, hentered ▸ rfl, h⟩
  obtain ⟨made, _, hkept, hrecords, hscopes, log, rfl, hbooked⟩ := hpass tree.root _ hstart
  refine ⟨made, _, log, hkept, rfl, rfl, hbooked, ?_, ?_⟩
  · exact hrecords.trans ((List.append_nil _).trans (List.append_nil _))
  · exact hscopes.trans (List.append_nil _)

end QuerySemantics
