import QuerySemantics.Proofs.Ast.Separate
import QuerySemantics.Proofs.Binding.Lookup
import QuerySemantics.Proofs.Model.Coverage
import QuerySemantics.Proofs.Scope.Stock

/-!
# Filed pieces

What the records of a pass have to do with each other. A join is made of what its sides were bound to,
a `SELECT` of what its tables and the entries of its list were bound to, and the scopes that both enter
hold the same instances. A log in which all pieces are filed in this way certifies every node that was
reached: whoever looks up a node and its parts finds them to fit.

## Main definitions

* `Binding.Yield`, `Binding.Filing`: the tables or select list entries that a piece stands for.
* `Binding.Stands`: what an entry of a select list stands for.
* `Binding.Makes`: how a piece is made of its parts, with its record and its scope.
* `Binding.Filed`: pieces that are filed one after the other, and the log of it.
* `Binding.Valued`, `Binding.Certified`: what look-ups in a log find for a piece.
* `Binding.Log.Silent`: a log that knows nothing of a number.

## Main results

* `Binding.Filed.exists_makes`: each record is that of a piece that was reached.
* `Binding.Filed.certified`: a log certifies all that was reached.
-/

set_option autoImplicit false

namespace QuerySemantics

/-- **Selecting**: being a `SELECT` of the given tables and entries, possibly with a row limit. -/
def Bound.Query.Selects (query : Bound.Query) (tables : List Bound.TableRef)
    (items : List Bound.SelectItem) : Prop :=
  ∃ distinct filter grouping having,
    query = .select distinct tables filter grouping having items ∨
      ∃ rows ties, query = .top (.select distinct tables filter grouping having items) rows ties

/-- A `SELECT` puts out the columns of its entries. -/
theorem Bound.Query.Selects.output {query : Bound.Query} {tables : List Bound.TableRef}
    {items : List Bound.SelectItem} (h : query.Selects tables items) :
    query.output = items.flatMap Bound.SelectItem.output := by
  obtain ⟨_, _, _, _, rfl | ⟨_, _, rfl⟩⟩ := h <;> rfl

/-- Whether a bound node is an expression, a label or a query. -/
def Bound.Node.isPlain : Bound.Node → Bool
  | .expr _ | .caseLabel _ | .query _ => true
  | _ => false

namespace Binding

/-! ## What a piece stands for -/

/-- **Yield** of a piece: the table references or entries of a select list that it stands for. -/
inductive Yield where
  | nothing
  | table (it : Bound.TableRef)
  | tables (items : List Bound.TableRef)
  | entry (it : Bound.SelectItem)
  | entries (items : List Bound.SelectItem)

/-- **Filing**: a piece, and what it stands for. -/
structure Filing where
  piece : Piece
  yield : Yield

/-- Whether nothing is to be known of the record of a piece but what kind it is of. -/
def isPlain : Piece → Bool
  | .table _ | .fromClause _ | .selectItem _ | .selectClause _ | .commonTable _
  | .query (.select _ _ _ _ _ _) => false
  | _ => true

/-- The instance that a `*` is qualified by: the only one that has the name. -/
def qualifying? (cased : Bool) (instances : List TableInstance) (token : Token) :
    Option TableInstance :=
  match Matching.select cased TableInstance.name token.ident instances with
  | [table] => some table
  | _ => none

/-- **Standing for**: what an entry of a select list is bound to, where the given instances are at hand.
A `*` pairs the columns of all of them, or those of the one that qualifies it. -/
def Stands (cased : Bool) (instances : List TableInstance) :
    Ast.SelectItem → Bound.SelectItem → Prop
  | .column _ _ _, item => ∃ value column, item = .column value column
  | .wildcard _ none, item =>
    ∃ columns, item = .wildcard none columns ∧ Bound.ExpandedColumn.Pairs instances columns
  | .wildcard _ (some token), item =>
    ∃ columns, item = .wildcard (qualifying? cased instances token) columns ∧
      Bound.ExpandedColumn.Pairs (qualifying? cased instances token).toList columns

/-- **Making** a piece of its parts, which stand for what `valued` says: what the piece stands for, its
record, and the scope that it enters. -/
inductive Makes (cased : Bool) (valued : Piece → Yield → Prop) :
    Piece → Yield → List Record → List (NodeInfo × Scope) → Prop where
  | plain {piece : Piece} {own : List Record} {entries : List (NodeInfo × Scope)} :
      isPlain piece = true → own.all (·.node.isPlain) = true →
      own.map Record.info = (if piece.isRecorded then piece.info?.toList else []) →
      entries.map Prod.fst = (if piece.enters then piece.info?.toList else []) →
      Makes cased valued piece .nothing own entries
  | nested {info : NodeInfo} {inner : Option Ast.TableRef} {it : Bound.TableRef} :
      (∀ part, inner = some part → valued (.table part) (.table it)) →
      Makes cased valued (.table (.parenthesized info inner)) (.table it) [] []
  | named {info : NodeInfo} {ident : Option Token} {correlation : Option Ast.Alias}
      {table : TableInstance} {scope : Scope} :
      Makes cased valued (.table (.named info ident correlation)) (.table (.named table))
        [⟨info, .table (.named table), scope⟩] []
  | derived {info : NodeInfo} {body : Option Ast.Query} {ident : Option Token}
      {table : TableInstance} {query : Bound.Query} {source : DerivedTable} {scope : Scope} :
      table.source = .derived source →
      Column.Lists (QueryColumn.shape query.output) source.columns →
      Makes cased valued (.table (.derived info body ident)) (.table (.derived table query))
        [⟨info, .table (.derived table query), scope⟩] []
  | joined {info : NodeInfo} {left right : Option Ast.TableRef} {kind : JoinKind}
      {condition : Option Ast.Condition} {left' right' : Bound.TableRef}
      {condition' : Option Bound.Expr} {scope outer : Scope} {id : SymbolId} :
      (∀ part, left = some part → valued (.table part) (.table left')) →
      (∀ part, right = some part → valued (.table part) (.table right')) →
      Makes cased valued (.table (.joined info left kind right condition))
        (.table (.joined left' kind right' condition'))
        [⟨info, .table (.joined left' kind right' condition'), scope⟩]
        [(info, outer.push id (.tables (left'.instances ++ right'.instances)))]
  | fromClause {info : NodeInfo} {items : List Ast.TableRef} {tables : List Bound.TableRef} :
      List.Forall₂ (fun it table => valued (.table it) (.table table)) items tables →
      Makes cased valued (.fromClause (.mk info items)) (.tables tables) [] []
  | column {info : NodeInfo} {value : Option Ast.Expr} {correlation : Option Ast.Alias}
      {bound : Bound.Expr} {column : QueryColumn} {scope : Scope} :
      Makes cased valued (.selectItem (.column info value correlation)) (.entry (.column bound column))
        [⟨info, .selectItem (.column bound column), scope⟩] []
  | wildcard {info : NodeInfo} {instances : List TableInstance}
      {columns : List Bound.ExpandedColumn} {outer : Scope} {id : SymbolId} :
      Bound.ExpandedColumn.Pairs instances columns →
      Makes cased valued (.selectItem (.wildcard info none)) (.entry (.wildcard none columns))
        [⟨info, .selectItem (.wildcard none columns), outer.push id (.tables instances)⟩] []
  | qualified {info : NodeInfo} {token : Token} {instances : List TableInstance}
      {columns : List Bound.ExpandedColumn} {outer : Scope} {id : SymbolId} :
      Bound.ExpandedColumn.Pairs (qualifying? cased instances token).toList columns →
      Makes cased valued (.selectItem (.wildcard info (some token)))
        (.entry (.wildcard (qualifying? cased instances token) columns))
        [⟨info, .selectItem (.wildcard (qualifying? cased instances token) columns),
          outer.push id (.tables instances)⟩] []
  | selectClause {info : NodeInfo} {distinct : Bool} {top : Option Ast.Top}
      {items : List Ast.SelectItem} {bound : List Bound.SelectItem} :
      List.Forall₂ (fun it item => valued (.selectItem it) (.entry item)) items bound →
      Makes cased valued (.selectClause (.mk info distinct top items)) (.entries bound) [] []
  | select {info : NodeInfo} {head : Option Ast.SelectClause} {source : Option Ast.FromClause}
      {filter : Option Ast.Condition} {grouping : Option Ast.GroupByClause}
      {having : Option Ast.Condition} {tables : List Bound.TableRef}
      {items : List Bound.SelectItem} {query : Bound.Query} {scope outer : Scope} {id : SymbolId} :
      (∀ part, source = some part → valued (.fromClause part) (.tables tables)) →
      (source = none → tables = []) →
      (∀ part, head = some part → valued (.selectClause part) (.entries items)) →
      (head = none → items = []) → query.Selects tables items →
      (∀ info distinct top entries, head = some (.mk info distinct top entries) →
        List.Forall₂ (Stands cased (tables.flatMap Bound.TableRef.instances)) entries items) →
      Makes cased valued (.query (.select info head source filter grouping having)) .nothing
        [⟨info, .query query, scope⟩]
        [(info, outer.push id (.tables (tables.flatMap Bound.TableRef.instances)))]
  | commonTable {info : NodeInfo} {ident : Option Token} {names : Option Ast.ColumnNames}
      {body : Option Ast.Query} {table : CommonTable} {query : Bound.Query} {scope inner : Scope} :
      Column.Lists (renamed ((names.toList.flatMap Ast.ColumnNames.idents).map Token.ident)
        (QueryColumn.shape query.output)) table.columns →
      table.output = query.output →
      Makes cased valued (.commonTable (.mk info ident names body)) .nothing
        [⟨info, .definition (.mk table query), scope⟩] [(info, inner)]

/-- **Filed pieces**, one after the other, and the log of it. Each piece is filed behind its parts, and
its scope lies somewhere between theirs. -/
inductive Filed (cased : Bool) : List Filing → Log → Prop where
  | nil : Filed cased [] .empty
  | cons {piece : Piece} {yield : Yield} {parts rest : List Filing} {below own : List Record}
      {early late entries : List (NodeInfo × Scope)} {others : Log} :
      parts.map Filing.piece = piece.visited →
      Filed cased parts ⟨below, late ++ early⟩ →
      Makes cased (fun part yield => ⟨part, yield⟩ ∈ parts) piece yield own entries →
      Filed cased rest others →
      Filed cased (⟨piece, yield⟩ :: rest) (others ++ ⟨own ++ below, late ++ (entries ++ early)⟩)

namespace Makes

variable {cased : Bool} {valued valued' : Piece → Yield → Prop} {piece : Piece} {yield : Yield}
  {own : List Record} {entries : List (NodeInfo × Scope)}

/-- What is known of the parts may be put in other words. -/
theorem mono (h : Makes cased valued piece yield own entries)
    (himp : ∀ part ∈ piece.visited, ∀ yield, valued part yield → valued' part yield) :
    Makes cased valued' piece yield own entries := by
  cases h with
  | plain hplain hnodes hown hentries => exact .plain hplain hnodes hown hentries
  | nested hinner =>
    exact .nested fun part hpart =>
      himp _ (by simp [Piece.visited, Piece.early, Piece.late, hpart]) _ (hinner part hpart)
  | named => exact .named
  | derived hsource hlists => exact .derived hsource hlists
  | joined hleft hright =>
    refine .joined (fun part hpart => himp _ ?_ _ (hleft part hpart))
      fun part hpart => himp _ ?_ _ (hright part hpart)
    · simp [Piece.visited, Piece.early, Piece.late, hpart]
    · simp [Piece.visited, Piece.early, Piece.late, hpart]
  | fromClause hitems =>
    refine .fromClause (List.forall₂_iff_zip.2 ⟨hitems.length_eq, fun {it table} hmem => ?_⟩)
    refine himp _ ?_ _ ((List.forall₂_iff_zip.1 hitems).2 hmem)
    simp [Piece.visited, Piece.early, Piece.late, (List.of_mem_zip hmem).1]
  | column => exact .column
  | wildcard hpairs => exact .wildcard hpairs
  | qualified hpairs => exact .qualified hpairs
  | selectClause hitems =>
    refine .selectClause (List.forall₂_iff_zip.2 ⟨hitems.length_eq, fun {it item} hmem => ?_⟩)
    refine himp _ ?_ _ ((List.forall₂_iff_zip.1 hitems).2 hmem)
    simp [Piece.visited, Piece.early, Piece.late, (List.of_mem_zip hmem).1]
  | select hsource hnone hhead hnone' hselects hstands =>
    refine .select (fun part hpart => himp _ ?_ _ (hsource part hpart)) hnone
      (fun part hpart => himp _ ?_ _ (hhead part hpart)) hnone' hselects hstands
    · simp [Piece.visited, Piece.early, Piece.late, hpart]
    · simp [Piece.visited, Piece.early, Piece.late, hpart]
  | commonTable hlists houtput => exact .commonTable hlists houtput

/-- A piece is recorded with its own information, or not at all. -/
theorem own_info (h : Makes cased valued piece yield own entries) :
    own.map Record.info = if piece.isRecorded then piece.info?.toList else [] := by
  cases h with
  | plain _ _ hown _ => exact hown
  | _ => rfl

/-- A piece enters a scope with its own information, or not at all. -/
theorem entries_info (h : Makes cased valued piece yield own entries) :
    entries.map Prod.fst = if piece.enters then piece.info?.toList else [] := by
  cases h with
  | plain _ _ _ hentries => exact hentries
  | _ => rfl

end Makes

namespace Filed

variable {cased : Bool} {filings filings' : List Filing} {log log' : Log}

/-- **Sequence** of filed pieces. -/
theorem append (h : Filed cased filings log) (h' : Filed cased filings' log') :
    Filed cased (filings ++ filings') (log' ++ log) := by
  induction h with
  | nil =>
    rw [Log.append_empty]
    exact h'
  | cons hparts hbelow hmakes _ _ ih =>
    rw [← Log.append_assoc]
    exact .cons hparts hbelow hmakes ih

/-- **Filing a piece** behind its parts. -/
theorem node {piece : Piece} {yield : Yield} {own : List Record}
    (hparts : filings.map Filing.piece = piece.visited) (h : Filed cased filings log)
    (hmakes : Makes cased (fun part yield => ⟨part, yield⟩ ∈ filings) piece yield own []) :
    Filed cased [⟨piece, yield⟩] (⟨own, []⟩ ++ log) := by
  have hbelow : Filed cased filings ⟨log.records, [] ++ log.scopes⟩ := h
  exact .cons hparts hbelow hmakes .nil

/-- **Filing a piece** that enters a scope between its parts. -/
theorem entering {piece : Piece} {yield : Yield} {own : List Record}
    {entries : List (NodeInfo × Scope)}
    (hparts : filings.map Filing.piece ++ filings'.map Filing.piece = piece.visited)
    (h : Filed cased filings log) (h' : Filed cased filings' log')
    (hmakes : Makes cased (fun part yield => ⟨part, yield⟩ ∈ filings ++ filings') piece yield own
      entries) :
    Filed cased [⟨piece, yield⟩] (⟨own, []⟩ ++ (log' ++ (⟨[], entries⟩ ++ log))) := by
  rw [← List.map_append] at hparts
  have hbelow : Filed cased (filings ++ filings')
      ⟨log'.records ++ log.records, log'.scopes ++ log.scopes⟩ := h.append h'
  have hfiled := Filed.cons hparts hbelow hmakes .nil
  exact hfiled

/-! ## What a log holds -/

/-- **Each record is that of a piece** that was reached. -/
theorem exists_makes (h : Filed cased filings log) {record : Record} (hrecord : record ∈ log.records) :
    ∃ filing ∈ filings, ∃ inner, filing.piece.Reached inner ∧ ∃ valued yield own entries,
      Makes cased valued inner yield own entries ∧ record ∈ own := by
  induction h with
  | nil => exact absurd hrecord List.not_mem_nil
  | @cons piece yield parts rest below own early late entries others hparts _ hmakes _ ih₁ ih₂ =>
    rcases List.mem_append.1 hrecord with hrecord | hrecord
    · obtain ⟨filing, hfiling, hrest⟩ := ih₂ hrecord
      exact ⟨filing, List.mem_cons_of_mem _ hfiling, hrest⟩
    rcases List.mem_append.1 hrecord with hrecord | hrecord
    · exact ⟨_, List.mem_cons_self, piece, .refl piece, _, yield, own, entries, hmakes, hrecord⟩
    · obtain ⟨filing, hfiling, inner, hinner, hrest⟩ := ih₁ hrecord
      have hpart : filing.piece ∈ piece.visited := hparts ▸ List.mem_map_of_mem hfiling
      exact ⟨_, List.mem_cons_self, inner, .step hpart hinner, hrest⟩

/-- A log holds nothing of nodes that the pieces do not cover. -/
theorem covers (h : Filed cased filings log) {number : Nat}
    (hnumber : number ∈ log.records.map (·.info.index) ++ log.scopes.map (·.1.index)) :
    ∃ filing ∈ filings, filing.piece.Covers number := by
  induction h with
  | nil => exact absurd hnumber List.not_mem_nil
  | @cons piece yield parts rest below own early late entries others hparts _ hmakes _ ih₁ ih₂ =>
    have hself : number ∈ own.map (·.info.index) ++ entries.map (·.1.index) →
        piece.index? = some number := by
      have hown := congrArg (List.map NodeInfo.index) hmakes.own_info
      have hentries := congrArg (List.map NodeInfo.index) hmakes.entries_info
      rw [List.map_map] at hown hentries
      intro hmem
      rcases List.mem_append.1 hmem with hmem | hmem
      · rw [show own.map (·.info.index) = _ from hown] at hmem
        split at hmem
        · obtain ⟨info, hinfo, rfl⟩ := List.mem_map.1 hmem
          rw [Piece.index?, Option.mem_toList.1 hinfo, Option.map_some]
        · cases hmem
      · rw [show entries.map (·.1.index) = _ from hentries] at hmem
        split at hmem
        · obtain ⟨info, hinfo, rfl⟩ := List.mem_map.1 hmem
          rw [Piece.index?, Option.mem_toList.1 hinfo, Option.map_some]
        · cases hmem
    have hcases : number ∈ others.records.map (·.info.index) ++ others.scopes.map (·.1.index) ∨
        number ∈ own.map (·.info.index) ++ entries.map (·.1.index) ∨
          number ∈ below.map (·.info.index) ++ (late ++ early).map (·.1.index) := by
      simp only [Log.records_append, Log.scopes_append, List.map_append, List.mem_append] at hnumber ⊢
      rcases hnumber with (h | h | h) | h | h | h | h
      · exact .inl (.inl h)
      · exact .inr (.inl (.inl h))
      · exact .inr (.inr (.inl h))
      · exact .inl (.inr h)
      · exact .inr (.inr (.inr (.inl h)))
      · exact .inr (.inl (.inr h))
      · exact .inr (.inr (.inr (.inr h)))
    rcases hcases with hmem | hmem | hmem
    · obtain ⟨filing, hfiling, hcovers⟩ := ih₂ hmem
      exact ⟨filing, List.mem_cons_of_mem _ hfiling, hcovers⟩
    · exact ⟨_, List.mem_cons_self, Piece.covers_self (hself hmem)⟩
    · obtain ⟨filing, hfiling, hcovers⟩ := ih₁ hmem
      have hpart : filing.piece ∈ piece.visited := hparts ▸ List.mem_map_of_mem hfiling
      exact ⟨_, List.mem_cons_self, .of_reached (.step hpart (.refl _)) hcovers⟩

end Filed

/-! ## What look-ups find -/

/-- What a table reference was bound to, with parentheses looked through. Parentheses with nothing
inside stand for a table that is not there. -/
def TableIs (log : Log) (it : Ast.TableRef) (table : Bound.TableRef) : Prop :=
  (∃ info, it.core = .parenthesized info none) ∨
    ∃ scope, log.record? it.core.info.index = some ⟨it.core.info, .table table, scope⟩

/-- What an entry of a select list was bound to. -/
def EntryIs (log : Log) (it : Ast.SelectItem) (entry : Bound.SelectItem) : Prop :=
  ∃ scope, log.record? it.info.index = some ⟨it.info, .selectItem entry, scope⟩

/-- **Valued**: look-ups find what a piece stands for. -/
def Valued (log : Log) : Piece → Yield → Prop
  | .table it, .table table => TableIs log it table
  | .fromClause (.mk _ items), .tables tables => List.Forall₂ (TableIs log) items tables
  | .selectItem it, .entry entry => EntryIs log it entry
  | .selectClause (.mk _ _ _ items), .entries bound => List.Forall₂ (EntryIs log) items bound
  | _, _ => True

/-- **Certified**: look-ups find a piece to be made of its parts. -/
def Certified (cased : Bool) (log : Log) (piece : Piece) : Prop :=
  ∃ yield own entries, Makes cased (Valued log) piece yield own entries ∧
    (∀ record ∈ own, log.record? record.info.index = some record) ∧
    ∀ entry ∈ entries, log.scope? entry.1.index = some entry.2

/-- **Extension**: what the one log knows of the numbers that a piece covers, the other one knows
too. -/
def Extends (piece : Piece) (log log' : Log) : Prop :=
  ∀ number, piece.Covers number →
    (∀ record, log.record? number = some record → log'.record? number = some record) ∧
      ∀ scope, log.scope? number = some scope → log'.scope? number = some scope

/-- Extension for what a piece reaches. -/
theorem Extends.of_reached {piece part : Piece} {log log' : Log} (h : Extends piece log log')
    (hreached : piece.Reached part) : Extends part log log' :=
  fun number hcovers => h number (.of_reached hreached hcovers)

section Extension

variable {log log' : Log}

/-- A table reference is still bound to a table once more is recorded. -/
theorem TableIs.extend {it : Ast.TableRef} {table : Bound.TableRef} (h : TableIs log it table)
    (hext : Extends (.table it) log log') : TableIs log' it table := by
  refine h.imp_right fun ⟨scope, hrecord⟩ => ⟨scope, ?_⟩
  have hcore : Extends (.table it.core) log log' := hext.of_reached (Piece.reached_core_table it)
  exact (hcore _ (Piece.covers_self rfl)).1 _ hrecord

/-- A column of a `SELECT` is still bound to an entry once more is recorded. -/
theorem EntryIs.extend {it : Ast.SelectItem} {entry : Bound.SelectItem} (h : EntryIs log it entry)
    (hext : Extends (.selectItem it) log log') : EntryIs log' it entry :=
  h.imp fun _ hrecord => (hext _ (Piece.covers_self rfl)).1 _ hrecord

/-- What a piece stands for is found in an extension too. -/
theorem Valued.extend {piece : Piece} {yield : Yield} (h : Valued log piece yield)
    (hext : Extends piece log log') : Valued log' piece yield := by
  unfold Valued at h ⊢
  split
  · exact h.extend hext
  · rename_i info items tables
    refine List.forall₂_iff_zip.2 ⟨h.length_eq, fun {it table} hmem => ?_⟩
    refine ((List.forall₂_iff_zip.1 h).2 hmem).extend (hext.of_reached (.step ?_ (.refl _)))
    simp [Piece.visited, Piece.early, Piece.late, (List.of_mem_zip hmem).1]
  · exact h.extend hext
  · rename_i info distinct top items bound
    refine List.forall₂_iff_zip.2 ⟨h.length_eq, fun {it entry} hmem => ?_⟩
    refine ((List.forall₂_iff_zip.1 h).2 hmem).extend (hext.of_reached (.step ?_ (.refl _)))
    simp [Piece.visited, Piece.early, Piece.late, (List.of_mem_zip hmem).1]
  · trivial

/-- The number of a record or a scope that a piece makes is its own. -/
theorem Makes.covers {cased : Bool} {valued : Piece → Yield → Prop} {piece : Piece} {yield : Yield}
    {own : List Record} {entries : List (NodeInfo × Scope)}
    (h : Makes cased valued piece yield own entries) :
    (∀ record ∈ own, piece.info? = some record.info) ∧
      ∀ entry ∈ entries, piece.info? = some entry.1 := by
  constructor
  · intro record hrecord
    have hmem := List.mem_map_of_mem (f := Record.info) hrecord
    rw [h.own_info] at hmem
    split at hmem
    · exact Option.mem_toList.1 hmem
    · cases hmem
  · intro entry hentry
    have hmem := List.mem_map_of_mem (f := Prod.fst) hentry
    rw [h.entries_info] at hmem
    split at hmem
    · exact Option.mem_toList.1 hmem
    · cases hmem

/-- A certificate holds in an extension too. -/
theorem Certified.extend {cased : Bool} {piece : Piece} (h : Certified cased log piece)
    (hext : Extends piece log log') : Certified cased log' piece := by
  obtain ⟨yield, own, entries, hmakes, hown, hentries⟩ := h
  obtain ⟨hinfo, hinfo'⟩ := hmakes.covers
  refine ⟨yield, own, entries, hmakes.mono fun part hpart yield h => ?_, ?_, ?_⟩
  · exact h.extend (hext.of_reached (.step hpart (.refl _)))
  · intro record hrecord
    have hindex : piece.index? = some record.info.index := by
      rw [Piece.index?, hinfo record hrecord, Option.map_some]
    exact (hext _ (Piece.covers_self hindex)).1 _ (hown record hrecord)
  · intro entry hentry
    have hindex : piece.index? = some entry.1.index := by
      rw [Piece.index?, hinfo' entry hentry, Option.map_some]
    exact (hext _ (Piece.covers_self hindex)).2 _ (hentries entry hentry)

end Extension

/-! ## Certifying what is reached -/

/-- What the later part of a log knows, the whole log knows. -/
theorem extends_append (piece : Piece) (later earlier : Log) :
    Extends piece later (later ++ earlier) := by
  refine fun number _ => ⟨fun record h => ?_, fun scope h => ?_⟩
  · rw [Log.record?_append, h, Option.some_or]
  · rw [Log.scope?_append, h, Option.some_or]

/-- Of a piece that yields nothing there is nothing to find. -/
theorem valued_of_yields {log : Log} {piece : Piece} {yield : Yield} (h : piece.yields = false) :
    Valued log piece yield := by
  unfold Valued
  split
  · cases h
  · cases h
  · cases h
  · cases h
  · trivial

/-- **What a piece stands for** is found where its own record is found. -/
theorem Makes.valued {cased : Bool} {log : Log} {piece : Piece} {yield : Yield} {own : List Record}
    {entries : List (NodeInfo × Scope)} (h : Makes cased (Valued log) piece yield own entries)
    (hown : ∀ record ∈ own, log.record? record.info.index = some record) :
    Valued log piece yield := by
  cases h with
  | plain hplain =>
    refine valued_of_yields ?_
    cases piece <;> first | rfl | cases hplain
  | @nested info inner it hinner =>
    cases inner with
    | none => exact .inl ⟨info, rfl⟩
    | some part => exact hinner part rfl
  | named => exact .inr ⟨_, hown _ (List.mem_singleton_self _)⟩
  | derived => exact .inr ⟨_, hown _ (List.mem_singleton_self _)⟩
  | joined => exact .inr ⟨_, hown _ (List.mem_singleton_self _)⟩
  | fromClause hitems => exact hitems
  | column => exact ⟨_, hown _ (List.mem_singleton_self _)⟩
  | wildcard => exact ⟨_, hown _ (List.mem_singleton_self _)⟩
  | qualified => exact ⟨_, hown _ (List.mem_singleton_self _)⟩
  | selectClause hitems => exact hitems
  | select => trivial
  | commonTable => trivial

/-- A list that is made from at most one item holds each of its items first. -/
theorem find?_eq_of_le_one {α : Type} {items : List α} {test : α → Bool} {it : α}
    (hlength : items.length ≤ 1) (hit : it ∈ items) (htest : test it = true) :
    items.find? test = some it := by
  match items, hlength with
  | [], _ => cases hit
  | [_], _ =>
    obtain rfl := List.mem_singleton.1 hit
    exact List.find?_cons_of_pos htest

/-- **Silence** of a log about a number: it knows neither a record nor a scope for it. -/
structure Log.Silent (log : Log) (number : Nat) : Prop where
  record : log.record? number = none
  scope : log.scope? number = none

/-- A log that does not mention a number is silent about it. -/
theorem Log.silent_of_not_mem {log : Log} {number : Nat}
    (h : number ∉ log.records.map (·.info.index) ++ log.scopes.map (·.1.index)) :
    log.Silent number := by
  constructor
  · refine List.find?_eq_none.2 fun record hmem heq => h ?_
    exact List.mem_append_left _ (List.mem_map.2 ⟨record, hmem, eq_of_beq heq⟩)
  · refine Option.map_eq_none_iff.2 (List.find?_eq_none.2 fun entry hmem heq => h ?_)
    exact List.mem_append_right _ (List.mem_map.2 ⟨entry, hmem, eq_of_beq heq⟩)

/-- A log is silent about what none of its pieces covers. -/
theorem Filed.silent {cased : Bool} {filings : List Filing} {log : Log} {number : Nat}
    (h : Filed cased filings log) (hcovers : ∀ filing ∈ filings, ¬ filing.piece.Covers number) :
    log.Silent number := by
  refine Log.silent_of_not_mem fun hmem => ?_
  obtain ⟨filing, hfiling, hcovered⟩ := h.covers hmem
  exact hcovers filing hfiling hcovered

section Behind

variable {cased : Bool} {valued : Piece → Yield → Prop} {piece : Piece} {yield : Yield}
  {below own : List Record} {early late entries : List (NodeInfo × Scope)} {others : Log}

/-- What a piece makes is silent about all numbers but its own. -/
theorem Makes.silent (h : Makes cased valued piece yield own entries) {number : Nat}
    (hnumber : piece.index? ≠ some number) : Log.Silent ⟨own, entries⟩ number := by
  obtain ⟨hinfo, hinfo'⟩ := h.covers
  refine Log.silent_of_not_mem fun hmem => hnumber ?_
  rw [Piece.index?]
  rcases List.mem_append.1 hmem with hmem | hmem
  · obtain ⟨record, hrecord, rfl⟩ := List.mem_map.1 hmem
    rw [hinfo record hrecord, Option.map_some]
  · obtain ⟨entry, hentry, rfl⟩ := List.mem_map.1 hmem
    rw [hinfo' entry hentry, Option.map_some]

/-- What a piece makes is found in it again: it makes one record and one scope at most. -/
theorem Makes.found (h : Makes cased valued piece yield own entries) :
    (∀ record ∈ own, Log.record? ⟨own, entries⟩ record.info.index = some record) ∧
      ∀ entry ∈ entries, Log.scope? ⟨own, entries⟩ entry.1.index = some entry.2 := by
  constructor
  · intro record hmem
    have hlength : own.length ≤ 1 := by
      rw [← List.length_map (f := Record.info), h.own_info, h.covers.1 record hmem]
      split <;> simp
    exact find?_eq_of_le_one hlength hmem (beq_self_eq_true record.info.index)
  · intro entry hmem
    have hlength : entries.length ≤ 1 := by
      rw [← List.length_map (f := Prod.fst), h.entries_info, h.covers.2 entry hmem]
      split <;> simp
    rw [Log.scope?, find?_eq_of_le_one hlength hmem (beq_self_eq_true entry.1.index),
      Option.map_some]

/-- A record is looked up in what was filed later, then in what the piece makes, then below it. -/
theorem record?_filed (number : Nat) :
    (others ++ ⟨own ++ below, late ++ (entries ++ early)⟩).record? number =
      (others.record? number).or ((Log.record? ⟨own, entries⟩ number).or
        (Log.record? ⟨below, late ++ early⟩ number)) := by
  rw [Log.record?_append]
  simp only [Log.record?, List.find?_append]

/-- A scope is looked up in what was filed later, then in the late parts, the piece, and the early
parts. -/
theorem scope?_filed (number : Nat) :
    (others ++ ⟨own ++ below, late ++ (entries ++ early)⟩).scope? number =
      (others.scope? number).or ((Log.scope? ⟨[], late⟩ number).or
        ((Log.scope? ⟨own, entries⟩ number).or (Log.scope? ⟨[], early⟩ number))) := by
  rw [Log.scope?_append]
  simp only [Log.scope?, List.find?_append, Option.map_or]

/-- **What is known of a part stays known** behind the piece, if neither the piece nor what is filed
later has a number of the part. -/
theorem extends_filed {part : Piece} (hothers : ∀ number, part.Covers number → others.Silent number)
    (hself : ∀ number, part.Covers number → Log.Silent ⟨own, entries⟩ number) :
    Extends part ⟨below, late ++ early⟩
      (others ++ ⟨own ++ below, late ++ (entries ++ early)⟩) := by
  intro number hcovers
  constructor
  · intro record hfound
    rw [record?_filed, (hothers number hcovers).record, (hself number hcovers).record,
      Option.none_or, Option.none_or, hfound]
  · intro scope hfound
    rw [scope?_filed, (hothers number hcovers).scope, (hself number hcovers).scope, Option.none_or,
      Option.none_or, ← Log.scope?_append]
    exact hfound

/-- **What a piece makes is found** behind its parts, if neither these nor what is filed later has the
number of the piece. -/
theorem Makes.found_filed (h : Makes cased valued piece yield own entries)
    (hothers : ∀ number, piece.index? = some number → others.Silent number)
    (hbelow : ∀ number, piece.index? = some number → Log.Silent ⟨below, late ++ early⟩ number) :
    (∀ record ∈ own, (others ++ ⟨own ++ below, late ++ (entries ++ early)⟩).record?
        record.info.index = some record) ∧
      ∀ entry ∈ entries, (others ++ ⟨own ++ below, late ++ (entries ++ early)⟩).scope?
        entry.1.index = some entry.2 := by
  obtain ⟨hown, hentries⟩ := h.found
  constructor
  · intro record hmem
    have hindex : piece.index? = some record.info.index := by
      rw [Piece.index?, h.covers.1 record hmem, Option.map_some]
    rw [record?_filed, (hothers _ hindex).record, Option.none_or, hown record hmem, Option.some_or]
  · intro entry hmem
    have hindex : piece.index? = some entry.1.index := by
      rw [Piece.index?, h.covers.2 entry hmem, Option.map_some]
    have hlate : Log.scope? ⟨[], late⟩ entry.1.index = none := by
      have hscope : (Log.mk [] late ++ ⟨below, early⟩).scope? entry.1.index = none :=
        (hbelow _ hindex).scope
      rw [Log.scope?_append, Option.or_eq_none_iff] at hscope
      exact hscope.1
    rw [scope?_filed, (hothers _ hindex).scope, Option.none_or, hlate, Option.none_or,
      hentries entry hmem, Option.some_or]

end Behind

/-- **A log certifies all that was reached**, and holds what the filed pieces stand for.

**Proof sketch.** By induction on the filing. What is below a piece is found in the log of its parts,
and stays found behind the record of the piece, as no part covers its number. Later pieces share no
number with it, unless they are the same piece again; then what they leave is found instead. -/
theorem Filed.certified {cased : Bool} {filings : List Filing} {log : Log}
    (h : Filed cased filings log) (hseparated : Piece.Separated (filings.map Filing.piece)) :
    ∀ filing ∈ filings, Valued log filing.piece filing.yield ∧
      ∀ inner, filing.piece.Reached inner → Certified cased log inner := by
  induction h with
  | nil => exact fun _ hfiling => absurd hfiling List.not_mem_nil
  | @cons piece yield parts rest below own early late entries others hparts hbelow hmakes hrest ih₁
      ih₂ =>
    have heach := hseparated.each piece List.mem_cons_self
    have hself := heach piece (.refl piece)
    replace ih₁ := ih₁ (hparts ▸ Piece.Separated.visited heach)
    replace ih₂ := ih₂ hseparated.of_cons
    refine List.forall_mem_cons.2 ⟨?_, fun filing hfiling => ?_⟩
    swap
    · obtain ⟨hvalued, hcertified⟩ := ih₂ filing hfiling
      exact ⟨hvalued.extend (extends_append _ _ _),
        fun inner hinner => (hcertified inner hinner).extend (extends_append _ _ _)⟩
    by_cases hagain : piece ∈ rest.map Filing.piece
    · -- the same piece is filed again, and yields nothing
      obtain ⟨filing, hfiling, heq⟩ := List.mem_map.1 hagain
      refine ⟨valued_of_yields ((List.pairwise_cons.1 hseparated.twice).1 piece hagain rfl), ?_⟩
      intro inner hinner
      exact ((ih₂ filing hfiling).2 inner (heq ▸ hinner)).extend (extends_append _ _ _)
    -- no later piece covers a number of this one
    have hothers : ∀ number, piece.Covers number → others.Silent number := by
      refine fun number hcovers => hrest.silent fun filing hfiling hcovers' => hagain ?_
      have hother := List.mem_map_of_mem (f := Filing.piece) hfiling
      have heq := hseparated.parts piece List.mem_cons_self filing.piece
        (List.mem_cons_of_mem _ hother) number hcovers hcovers'
      exact heq ▸ hother
    have hnumber : ∀ number, piece.index? = some number →
        Log.Silent ⟨below, late ++ early⟩ number := by
      refine fun number hindex => hbelow.silent fun filing hfiling hcovers => ?_
      exact hself.own filing.piece (hparts ▸ List.mem_map_of_mem hfiling) number hindex hcovers
    have hext : ∀ part ∈ piece.visited, Extends part ⟨below, late ++ early⟩
        (others ++ ⟨own ++ below, late ++ (entries ++ early)⟩) := by
      intro part hpart
      refine extends_filed (fun number hcovers => ?_)
        fun number hcovers => hmakes.silent fun hindex => ?_
      · exact hothers number (.of_reached (.step hpart (.refl part)) hcovers)
      · exact hself.own part hpart number hindex hcovers
    have hmakes' : Makes cased
        (Valued (others ++ ⟨own ++ below, late ++ (entries ++ early)⟩)) piece yield own entries := by
      refine hmakes.mono fun part hpart yield hmem => ?_
      exact (ih₁ _ hmem).1.extend (hext part hpart)
    obtain ⟨hown, hentries⟩ := hmakes'.found_filed
      (fun number hindex => hothers number (Piece.covers_self hindex)) hnumber
    refine ⟨hmakes'.valued hown, fun inner hinner => ?_⟩
    rcases Piece.reached_iff.1 hinner with rfl | ⟨part, hpart, hinner⟩
    · exact ⟨yield, own, entries, hmakes', hown, hentries⟩
    · obtain ⟨filing, hfiling, rfl⟩ := List.mem_map.1 (hparts ▸ hpart)
      exact ((ih₁ filing hfiling).2 inner hinner).extend ((hext _ hpart).of_reached hinner)

end Binding

end QuerySemantics
