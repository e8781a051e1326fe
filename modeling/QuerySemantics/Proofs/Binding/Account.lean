import QuerySemantics.Proofs.Binding.Filing
import QuerySemantics.Proofs.Binding.Traversal

/-!
# Keeping account

A pass keeps account of the symbols that it comes to know. Whatever its log mentions is from the stock,
each scope makes a symbol visible once, and each table reference that is recorded declares an instance
of its own. A computation adds what it makes to the stock and what it records to the log.

## Main definitions

* `Bound.Node.symbols`, `Bound.Node.instance?`: the symbols that a bound node mentions, and the instance
  that it declares.
* `Symbol.Backed`: a symbol that is what it is said to be somewhere in the log.
* `Binding.Kept`: a state that is kept account of.
* `Binding.Accounts`: what a computation makes and logs.

## Main results

* `Binding.Kept.step`: new symbols and records.
* `Binding.Accounts.bind`, `Binding.Accounts.before`: the rules for sequences.
* `Binding.Accounts.namedTable`, `Binding.Accounts.define` and fellows: the rules of binding.
-/

set_option autoImplicit false

namespace QuerySemantics

/-! ## Symbols of bound nodes -/

namespace Bound

/-- The symbols of the output columns of a query. -/
def Query.columnSymbols (query : Query) : List Symbol :=
  query.output.map .queryColumn

/-- The symbols of the instances of a table reference. -/
def TableRef.instanceSymbols (table : TableRef) : List Symbol :=
  table.instances.map .tableInstance

/-- **The symbols that a bound node mentions** as new: the instances of a table reference, output
columns, and the table of a definition. A `*` also mentions the instances that it is about. -/
def Node.symbols : Node → List Symbol
  | .table it => it.instanceSymbols
  | .query it => it.columnSymbols
  | .selectItem (.column _ it) => [.queryColumn it]
  | .selectItem (.wildcard qualifier columns) =>
    qualifier.toList.map .tableInstance ++ columns.map (fun it => .tableInstance it.owner) ++
      columns.map fun it => .queryColumn it.output
  | .definition (.mk it _) => [.commonTable it]
  | _ => []

/-- The instance that a table reference declares. -/
def Node.instance? : Node → Option TableInstance
  | .table (.named it) => some it
  | .table (.derived it _) => some it
  | _ => none

/-- A declared instance is mentioned. -/
theorem Node.mem_symbols_of_instance? {node : Node} {table : TableInstance}
    (h : node.instance? = some table) : .tableInstance table ∈ node.symbols := by
  unfold instance? at h
  split at h <;> cases h <;> exact List.mem_singleton_self _

end Bound

open Binding

/-- **Backed**: an instance is one of a table of the catalog or of a `WITH`, or of a query that is
recorded with it; a common table is recorded with its definition. -/
def Symbol.Backed (root : Catalog) (stock : List Symbol) (records : List Record) : Symbol → Prop
  | .tableInstance table =>
    table.Fits ∧
      match table.source with
      | .derived _ => ∃ record ∈ records, ∃ query, record.node = .table (.derived table query)
      | .schema it => it ∈ root.tables
      | .common it => .commonTable it ∈ stock
      | .bad _ => True
  | .commonTable table => ∃ record ∈ records, ∃ query, record.node = .definition (.mk table query)
  | _ => True

/-- Stock and log may grow. -/
theorem Symbol.Backed.mono {root : Catalog} {stock stock' : List Symbol} {records records' : List Record}
    {symbol : Symbol} (h : symbol.Backed root stock records) (hstock : ∀ it ∈ stock, it ∈ stock')
    (hrecords : ∀ it ∈ records, it ∈ records') : symbol.Backed root stock' records' := by
  cases symbol with
  | tableInstance table =>
    obtain ⟨hfits, hsource⟩ := h
    refine ⟨hfits, ?_⟩
    split
    · rename_i heq
      rw [heq] at hsource
      obtain ⟨record, hrecord, hnode⟩ := hsource
      exact ⟨record, hrecords record hrecord, hnode⟩
    · rename_i heq
      rw [heq] at hsource
      exact hsource
    · rename_i heq
      rw [heq] at hsource
      exact hstock _ hsource
    · trivial
  | commonTable table =>
    obtain ⟨record, hrecord, hnode⟩ := h
    exact ⟨record, hrecords record hrecord, hnode⟩
  | _ => trivial

namespace Binding

variable {α β : Type}

/-! ## States that are kept account of -/

/-- **Kept account of**: a state in which all that the log mentions is from a stock of distinct symbols,
whose identities are taken. -/
structure Kept (root : Catalog) (stock : List Symbol) (pass : Pass) : Prop where
  distinct : Symbol.Distinct stock
  taken : ∀ number ∈ stock.flatMap Symbol.numbers, number < pass.next
  records : ∀ record ∈ pass.records,
    record.scope.Drawn root stock ∧ ∀ symbol ∈ record.node.symbols, symbol ∈ stock
  scopes : ∀ entry ∈ pass.scopes, entry.2.Drawn root stock
  declared : (pass.records.filterMap (·.node.instance?)).Nodup
  backed : ∀ symbol ∈ stock, symbol.Backed root stock pass.records

/-- **Bringing** new symbols: nothing is logged, and the identities of the symbols are fresh. -/
structure Pass.Brings (before after : Pass) (symbols : List Symbol) : Prop where
  agrees : before.Agrees after
  distinct : Symbol.Distinct symbols
  fresh : ∀ number ∈ symbols.flatMap Symbol.numbers, before.next ≤ number ∧ number < after.next

/-- Between states that agree nothing new is brought. -/
theorem Pass.Agrees.brings {before after : Pass} (h : before.Agrees after) :
    before.Brings after [] :=
  ⟨h, List.nodup_nil, fun _ hmem => absurd hmem List.not_mem_nil⟩

/-- Quiet steps may stand before new symbols. -/
theorem Pass.Brings.behind {before middle after : Pass} {symbols : List Symbol}
    (h : middle.Brings after symbols) (hagrees : before.Agrees middle) :
    before.Brings after symbols where
  agrees := hagrees.trans h.agrees
  distinct := h.distinct
  fresh number hnumber :=
    ⟨Nat.le_trans hagrees.next (h.fresh number hnumber).1, (h.fresh number hnumber).2⟩

/-- Taking identities brings symbols with them. -/
theorem brings_of_takes {env : Env} {taken : Supply α} {symbols : α → List Symbol} {post : α → Prop}
    (h : taken.Takes fun value numbers =>
      numbers = (symbols value).flatMap Symbol.numbers ∧ post value) (pass : Pass) :
    Ends env pass (supply taken) fun value after =>
      pass.Brings after (symbols value) ∧ post value := by
  obtain ⟨hle, numbers, ⟨hnumbers, hpost⟩, hnodup, hbounds⟩ := h pass.next
  subst hnumbers
  exact ⟨⟨⟨rfl, rfl, hle⟩, hnodup, hbounds⟩, hpost⟩

namespace Kept

variable {root : Catalog} {stock symbols : List Symbol} {pass after : Pass}

/-- **A step**: new symbols come to the stock, and records that mention what is known then come to the
log. They declare new instances only. -/
theorem step (h : Kept root stock pass) (hbrings : pass.Brings after symbols) (own : List Record)
    (hown : ∀ record ∈ own, record.scope.Drawn root (symbols ++ stock) ∧
      ∀ symbol ∈ record.node.symbols, symbol ∈ symbols ++ stock)
    (hnodup : (own.filterMap (·.node.instance?)).Nodup)
    (hnew : ∀ table ∈ own.filterMap (·.node.instance?), .tableInstance table ∈ symbols)
    (hbacked : ∀ symbol ∈ symbols, symbol.Backed root (symbols ++ stock) (own ++ pass.records)) :
    Kept root (symbols ++ stock) (after.recorded own) := by
  have hdistinct : Symbol.Distinct (symbols ++ stock) :=
    .append hbrings.distinct (fun number hnumber => (hbrings.fresh number hnumber).1) h.distinct h.taken
  have hrecords : (after.recorded own).records = own ++ pass.records := by
    rw [Pass.recorded, hbrings.agrees.records]
  refine ⟨hdistinct, ?_, ?_, ?_, ?_, ?_⟩
  · rw [List.flatMap_append]
    refine List.forall_mem_append.2 ⟨fun number hnumber => (hbrings.fresh number hnumber).2, ?_⟩
    exact fun number hnumber => Nat.lt_of_lt_of_le (h.taken number hnumber) hbrings.agrees.next
  · rw [hrecords]
    refine List.forall_mem_append.2 ⟨hown, fun record hrecord => ?_⟩
    obtain ⟨hdrawn, hsymbols⟩ := h.records record hrecord
    exact ⟨hdrawn.mono, fun symbol hsymbol => List.mem_append_right _ (hsymbols symbol hsymbol)⟩
  · intro entry hentry
    rw [Pass.recorded, hbrings.agrees.scopes] at hentry
    exact (h.scopes entry hentry).mono
  · rw [hrecords, List.filterMap_append, List.nodup_append]
    refine ⟨hnodup, h.declared, fun table htable other hother heq => ?_⟩
    -- an instance that was declared before is not new
    obtain ⟨record, hrecord, hnode⟩ := List.mem_filterMap.1 hother
    have hmentioned := Bound.Node.mem_symbols_of_instance? hnode
    exact hdistinct.disjoint (hnew table htable)
      (heq ▸ (h.records record hrecord).2 _ hmentioned)
  · rw [hrecords]
    refine List.forall_mem_append.2 ⟨hbacked, fun symbol hsymbol => ?_⟩
    exact (h.backed symbol hsymbol).mono (fun _ => List.mem_append_right _)
      fun _ => List.mem_append_right _

/-- Quiet steps keep the account. -/
theorem quiet (h : Kept root stock pass) (hagrees : pass.Agrees after) : Kept root stock after :=
  h.step hagrees.brings [] (fun _ hmem => absurd hmem List.not_mem_nil) List.nodup_nil
    (fun _ hmem => absurd hmem List.not_mem_nil) fun _ hmem => absurd hmem List.not_mem_nil

/-- A record that mentions what is known and declares nothing keeps the account. -/
theorem record (h : Kept root stock pass) {record : Record} (hscope : record.scope.Drawn root stock)
    (hsymbols : ∀ symbol ∈ record.node.symbols, symbol ∈ stock)
    (hnone : record.node.instance? = none) : Kept root stock (pass.recorded [record]) := by
  have hempty : [record].filterMap (·.node.instance?) = [] := by simp [hnone]
  refine h.step (Pass.Agrees.refl pass).brings [record] ?_ (hempty ▸ List.nodup_nil) ?_ ?_
  · exact fun _ hmem => List.mem_singleton.1 hmem ▸ ⟨hscope, hsymbols⟩
  · exact hempty ▸ fun _ hmem => absurd hmem List.not_mem_nil
  · exact fun _ hmem => absurd hmem List.not_mem_nil

end Kept

/-! ## Computations that keep account -/

/-- **Keeping account**: begun in a state that is kept account of with `stock`, a computation makes new
symbols and adds to the log. What it makes, its log and its value are as described. -/
def Accounts (env : Env) (root : Catalog) (stock : List Symbol) (body : BindM α)
    (post : List Symbol → Log → α → Prop) : Prop :=
  ∀ pass, Kept root stock pass → Ends env pass body fun value after => ∃ made log,
    Kept root (made ++ stock) after ∧ after.records = log.records ++ pass.records ∧
      after.scopes = log.scopes ++ pass.scopes ∧ post made log value

/-- **Holding** symbols: each of them is among what was made, and none is named twice. -/
structure Holds (made symbols : List Symbol) : Prop where
  nodup : symbols.Nodup
  subset : ∀ symbol ∈ symbols, symbol ∈ made

namespace Holds

variable {root : Catalog} {made made' stock symbols symbols' : List Symbol}

/-- No symbols hold wherever nothing is made. -/
theorem nil : Holds made [] :=
  ⟨List.nodup_nil, fun _ hmem => absurd hmem List.not_mem_nil⟩

/-- Symbols that are made apart from each other hold. -/
theorem self (h : made.Nodup) : Holds made made :=
  ⟨h, fun _ => id⟩

/-- Symbols still hold once more are made. -/
theorem mono (h : Holds made symbols) : Holds (made' ++ made) symbols :=
  ⟨h.nodup, fun symbol hsymbol => List.mem_append_right _ (h.subset symbol hsymbol)⟩

/-- Symbols that are made later hold in front of those that were made before. -/
theorem behind (h : Holds made' symbols) : Holds (made' ++ made) symbols :=
  ⟨h.nodup, fun symbol hsymbol => List.mem_append_left _ (h.subset symbol hsymbol)⟩

/-- What is made later is not named among what was made before. -/
theorem append (h : Holds made symbols) (h' : Holds made' symbols')
    (hdistinct : Symbol.Distinct (made' ++ (made ++ stock))) :
    Holds (made' ++ made) (symbols ++ symbols') := by
  have hdisjoint : made'.Disjoint (made ++ stock) := hdistinct.disjoint
  constructor
  · refine List.nodup_append.2 ⟨h.nodup, h'.nodup, fun symbol hsymbol other hother heq => ?_⟩
    exact hdisjoint (h'.subset other hother) (heq ▸ List.mem_append_left _ (h.subset symbol hsymbol))
  · exact List.forall_mem_append.2
      ⟨fun symbol hsymbol => List.mem_append_right _ (h.subset symbol hsymbol),
        fun symbol hsymbol => List.mem_append_left _ (h'.subset symbol hsymbol)⟩

/-- A link with new symbols in front of a drawn scope. -/
theorem push {scope : Scope} {frame : Frame} (h : Holds made frame.symbols) (hscope : scope.Drawn root stock)
    (hdistinct : Symbol.Distinct (made ++ stock)) (id : SymbolId) :
    (scope.push id frame).Drawn root (made ++ stock) :=
  hscope.push hdistinct h.nodup h.subset id

end Holds

namespace Accounts

variable {env : Env} {root : Catalog} {stock : List Symbol}

/-- **Sequence**: what the first part makes is in stock for the rest. -/
theorem bind {body : BindM α} {rest : α → BindM β} {middle : List Symbol → Log → α → Prop}
    {post : List Symbol → Log → β → Prop} (hbody : Accounts env root stock body middle)
    (hrest : ∀ value made log, Symbol.Distinct (made ++ stock) → middle made log value →
      Accounts env root (made ++ stock) (rest value) fun made' log' value' =>
        post (made' ++ made) (log' ++ log) value') :
    Accounts env root stock (body >>= rest) post := by
  intro pass hpass
  refine (hbody pass hpass).bind fun value after ⟨made, log, hkept, hrecords, hscopes, hvalue⟩ => ?_
  refine (hrest value made log hkept.distinct hvalue after hkept).mono fun value' last h => ?_
  obtain ⟨made', log', hkept', hrecords', hscopes', hpost⟩ := h
  refine ⟨made' ++ made, log' ++ log, ?_, ?_, ?_, hpost⟩
  · rwa [List.append_assoc]
  · rw [hrecords', hrecords, Log.records_append, List.append_assoc]
  · rw [hscopes', hscopes, Log.scopes_append, List.append_assoc]

/-- What comes out may be put in other words. -/
theorem mono {body : BindM α} {post post' : List Symbol → Log → α → Prop}
    (h : Accounts env root stock body post)
    (himp : ∀ made log value, Symbol.Distinct (made ++ stock) → post made log value →
      post' made log value) : Accounts env root stock body post' := by
  intro pass hpass
  refine (h pass hpass).mono fun value after ⟨made, log, hkept, hrecords, hscopes, hpost⟩ => ?_
  exact ⟨made, log, hkept, hrecords, hscopes, himp _ _ _ hkept.distinct hpost⟩

/-- A value makes, records and reports nothing. -/
theorem pure {value : α} {post : List Symbol → Log → α → Prop} (h : post [] .empty value) :
    Accounts env root stock (Pure.pure value) post :=
  fun _ hpass => ⟨[], .empty, hpass, rfl, rfl, h⟩

/-- What is in stock is distinct. -/
theorem of_distinct {body : BindM α} {post : List Symbol → Log → α → Prop}
    (h : Symbol.Distinct stock → Accounts env root stock body post) : Accounts env root stock body post :=
  fun pass hpass => h hpass.distinct pass hpass

/-- Quiet steps make nothing and log nothing. -/
theorem quiet {body : BindM α} {described : α → Prop} {post : List Symbol → Log → α → Prop}
    (h : Quiet env body described) (hpost : ∀ value, described value → post [] .empty value) :
    Accounts env root stock body post := by
  intro pass hpass
  refine (h pass).mono fun value after ⟨hagrees, hvalue⟩ => ?_
  exact ⟨[], .empty, hpass.quiet hagrees, hagrees.records, hagrees.scopes, hpost value hvalue⟩

/-- Quiet steps in front. -/
theorem before {body : BindM α} {rest : α → BindM β} {described : α → Prop}
    {post : List Symbol → Log → β → Prop} (h : Quiet env body described)
    (hrest : ∀ value, described value → Accounts env root stock (rest value) post) :
    Accounts env root stock (body >>= rest) post := by
  intro pass hpass
  refine (h pass).bind fun value after ⟨hagrees, hvalue⟩ => ?_
  refine (hrest value hvalue after (hpass.quiet hagrees)).mono fun value' last h => ?_
  rwa [hagrees.records, hagrees.scopes] at h

/-- The value is all that is made of the result. -/
theorem behind {body : BindM α} {value : α → β} {post : List Symbol → Log → β → Prop}
    (h : Accounts env root stock body fun made log it => post made log (value it)) :
    Accounts env root stock (body >>= fun it => Pure.pure (value it)) post :=
  fun pass hpass => (h pass hpass).bind fun _ _ h => .pure h

/-- Working in another scope. -/
theorem within {scope : Scope} {body : BindM α} {post : List Symbol → Log → α → Prop}
    (h : Accounts { env with scope } root stock body post) :
    Accounts env root stock (Binding.within scope body) post :=
  fun pass hpass => (h pass hpass).within

/-! ### Steps -/

/-- Recording what mentions nothing new and declares nothing. -/
theorem record {info : NodeInfo} {node : Bound.Node} (hscope : env.scope.Drawn root stock)
    (hsymbols : ∀ symbol ∈ node.symbols, symbol ∈ stock) (hnone : node.instance? = none) :
    Accounts env root stock (record info node) fun made log _ =>
      made = [] ∧ log = ⟨[⟨info, node, env.scope⟩], []⟩ :=
  fun _ hpass => ⟨[], ⟨[⟨info, node, env.scope⟩], []⟩, hpass.record hscope hsymbols hnone, rfl, rfl,
    rfl, rfl⟩

/-- Recording an expression adds one record, in the scope there. -/
theorem recordExpr {info : NodeInfo} {it : Bound.Expr} (hscope : env.scope.Drawn root stock) :
    Accounts env root stock (recordExpr info it) fun made log value =>
      made = [] ∧ log = ⟨[⟨info, .expr it, env.scope⟩], []⟩ ∧ value = it :=
  behind ((record hscope (fun _ hmem => absurd hmem List.not_mem_nil) rfl).mono
    fun _ _ _ _ ⟨hmade, hlog⟩ => ⟨hmade, hlog, rfl⟩)

/-- Recording a scope adds it, and no record. -/
theorem recordScope {info : NodeInfo} (hscope : env.scope.Drawn root stock) :
    Accounts env root stock (recordScope info) fun made log _ =>
      made = [] ∧ log = ⟨[], [(info, env.scope)]⟩ := by
  refine fun pass hpass => ⟨[], ⟨[], [(info, env.scope)]⟩, ⟨hpass.distinct, hpass.taken, hpass.records,
    ?_, hpass.declared, hpass.backed⟩, rfl, rfl, rfl, rfl⟩
  exact List.forall_mem_cons.2 ⟨hscope, hpass.scopes⟩

/-- **New output columns** are in stock from then on. -/
theorem columns {taken : Supply α} {columns : α → List QueryColumn} {described : α → Prop}
    (h : taken.Takes fun value numbers =>
      numbers = ((columns value).map Symbol.queryColumn).flatMap Symbol.numbers ∧ described value) :
    Accounts env root stock (supply taken) fun made log value =>
      log = .empty ∧ Holds made ((columns value).map .queryColumn) ∧ described value := by
  intro pass hpass
  refine (brings_of_takes h pass).mono fun value after ⟨hbrings, hvalue⟩ => ?_
  refine ⟨_, .empty, hpass.step hbrings [] (fun _ hmem => absurd hmem List.not_mem_nil) List.nodup_nil
    (fun _ hmem => absurd hmem List.not_mem_nil) ?_, hbrings.agrees.records, hbrings.agrees.scopes, rfl,
    .self hbrings.distinct.nodup, hvalue⟩
  intro symbol hsymbol
  obtain ⟨column, -, rfl⟩ := List.mem_map.1 hsymbol
  trivial

end Accounts

end Binding

end QuerySemantics
