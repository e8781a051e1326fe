import QuerySemantics.Proofs.Binding.Lockstep
import QuerySemantics.Proofs.Bound.Naming

/-!
# Passes against two catalogs

Two passes over one tree, against catalogs and with options that treat the names alike that the tree
mentions. They do the same, step by step, as long as no other names come into play and the providers of
members answer those questions alike that reach one. What is recorded is called as the tree says, and the
members that it is about are remembered.

## Main definitions

* `Located.Reads`, `Located.Mentions`: the pieces of a tree, and the names that it mentions.
* `Located.Tells`: a record is about a node of a tree, and says what it should.
* `Binding.CatalogsAgree`, `Binding.CatalogPair`: what is assumed of the catalogs and options of two passes.
* `Binding.CatalogPair.Sees`, `Binding.CatalogPair.Fine`: the scopes and states that the first pass comes to.
* `Binding.CatalogPair.Shares`: providers answer alike whenever one of them is asked.
* `Scope.over`, `Binding.Pass.over`: a scope and a state over another catalog.
* `Binding.Tandem`, `Binding.Together`: the second pass does what the first does, over its own catalog.

## Main results

* `Binding.Together.bind`, `Binding.Tandem.bindView`: the rules for sequences.
* `Binding.Together.record`, `Binding.Together.supply`, `Binding.Together.methodsOf` and fellows: the rules
  for the steps of a pass.
-/

set_option autoImplicit false

namespace QuerySemantics

/-! ## What a tree is about -/

namespace Located

variable {part : Located} {piece : Piece}

/-- **Reading**: a node of the tree is read as the piece. -/
def Reads (part : Located) (piece : Piece) : Prop :=
  ∃ node ∈ part.nodes, node.piece = piece

/-- **Mentioned names**: those that identifiers of pieces stand for. -/
def Mentions (part : Located) (name : String) : Prop :=
  ∃ piece, part.Reads piece ∧ ∃ leaf ∈ piece.identifiers, leaf.ident = name

/-- The parts of a piece of the tree are pieces of the tree. -/
theorem Reads.of_part {inner : Piece} {info : NodeInfo} (h : part.Reads piece)
    (hinner : inner ∈ piece.parts) (hinfo : inner.info? = some info) : part.Reads inner := by
  obtain ⟨node, hnode, rfl⟩ := h
  obtain ⟨child, hchild, rfl⟩ := exists_child_of_mem_parts hinner
  rw [info?_piece] at hinfo
  exact ⟨child, mem_nodes_trans (mem_nodes_of_child hchild (mem_nodes_self hinfo)) hnode, rfl⟩

/-- Parts of one form are pieces of the tree. -/
theorem Reads.listed {α : Type} {wrap : α → Piece} {items : List α} (h : part.Reads piece)
    (hinfo : ∀ it, ((wrap it).info?).isSome = true) (hitems : ∀ it ∈ items, wrap it ∈ piece.parts) :
    ∀ it ∈ items, part.Reads (wrap it) := by
  intro it hit
  obtain ⟨info, hsome⟩ := Option.isSome_iff_exists.1 (hinfo it)
  exact h.of_part (hitems it hit) hsome

/-- The tree mentions the identifiers of what it reads. -/
theorem Reads.mentions {leaf : Token} (h : part.Reads piece) (hleaf : leaf ∈ piece.identifiers) :
    part.Mentions leaf.ident :=
  ⟨piece, h, leaf, hleaf, rfl⟩

/-- **Telling**: a record is about a node of the tree, and is called and backed as it should be. -/
def Tells (part : Located) (members : MemberCache) (record : Binding.Record) : Prop :=
  ∃ piece, part.Reads piece ∧ piece.info? = some record.info ∧ piece.Calls record.node ∧
    ∀ bound, record.node.expr? = some bound → members.Backs bound

/-- What is told of a record stays so as more members are remembered. -/
theorem Tells.mono {members after : MemberCache} {record : Binding.Record}
    (h : part.Tells members record) (hle : members.Extends after) : part.Tells after record := by
  obtain ⟨piece, hreads, hinfo, hcalls, hbacks⟩ := h
  exact ⟨piece, hreads, hinfo, hcalls, fun bound hbound => (hbacks bound hbound).mono hle⟩

end Located

/-- **Mentioned names are names of the tree.** -/
theorem SyntaxTree.mem_names_of_mentions {tree : SyntaxTree} {name : String}
    (h : tree.root.Mentions name) : name ∈ tree.element.names := by
  obtain ⟨_, ⟨node, hnode, rfl⟩, leaf, hleaf, rfl⟩ := h
  obtain ⟨htoken, hkind⟩ := Located.mem_tokens_of_identifiers hleaf
  exact mem_names (Located.mem_tokens_of_mem_nodes hnode htoken) hkind

/-! ## Other catalogs -/

/-- Providers of both kinds, by type. -/
abbrev Providers :=
  Registry MethodProvider × Registry PropertyProvider

/-- The catalog whose members come from other providers. -/
def Catalog.servedBy (catalog : Catalog) (providers : Providers) : Catalog :=
  { catalog with methods := providers.1, properties := providers.2 }

/-- The scope over another catalog. -/
def Scope.over (catalog : Catalog) (scope : Scope) : Scope :=
  { scope with catalog }

namespace Binding

/-- The record of a scope over another catalog. -/
def Record.over (catalog : Catalog) (record : Record) : Record :=
  { record with scope := record.scope.over catalog }

/-- The state over another catalog. -/
def Pass.over (catalog : Catalog) (pass : Pass) : Pass :=
  { pass with
    records := pass.records.map (Record.over catalog)
    scopes := pass.scopes.map fun entry => (entry.1, entry.2.over catalog) }

/-- The query behind a scope over another catalog. -/
def ScopedQuery.over (catalog : Catalog) (it : ScopedQuery) : ScopedQuery :=
  ⟨it.query, it.inner.over catalog⟩

/-! ## Two catalogs -/

/-- **Catalogs that agree**: names of a kind are looked up alike in two catalogs, each with its own way of
comparing names. -/
structure CatalogsAgree (Mentioned : String → Prop) (cased cased' : Bool) (catalog catalog' : Catalog) :
    Prop where
  tables {name : String} : Mentioned name →
    Matching.select cased' SchemaTable.name name catalog'.tables =
      Matching.select cased SchemaTable.name name catalog.tables
  functions {name : String} : Mentioned name →
    Matching.select cased' Function.name name catalog'.functions =
      Matching.select cased Function.name name catalog.functions
  aggregates {name : String} : Mentioned name →
    Matching.select cased' Aggregate.name name catalog'.aggregates =
      Matching.select cased Aggregate.name name catalog.aggregates
  hostVariables {name : String} : Mentioned name →
    Matching.select cased' Variable.name name catalog'.hostVariables =
      Matching.select cased Variable.name name catalog.hostVariables
  types {name : String} : Mentioned name → catalog'.resolveType? name = catalog.resolveType? name

/-- **Pair of catalogs**, each with its options, for two passes over a tree: they treat the names that it
mentions alike, among the names that come into play. These are told by `Named`. -/
structure CatalogPair where
  part : Located
  options : Options
  options' : Options
  catalog : Catalog
  catalog' : Catalog
  Named : String → Prop
  limit : options'.maxDiagnostics = options.maxDiagnostics
  named_of_mentions {name : String} : part.Mentions name → Named name
  named_empty : Named ""
  named_column : ∀ table ∈ catalog.tables, ∀ column ∈ table.columns, Named column.name
  named_method (type : SqlType) (next : SymbolId) :
    ∀ it ∈ (catalog.methods.methods type next).1, Named it.name
  named_property (type : SqlType) (next : SymbolId) :
    ∀ it ∈ (catalog.properties.properties type next).1, Named it.name
  choice {name : String} : part.Mentions name →
    Matching.SameChoice Named options.caseSensitive options'.caseSensitive name
  catalogs : CatalogsAgree part.Mentions options.caseSensitive options'.caseSensitive catalog catalog'

/-- A catalog agrees with itself, whatever is mentioned. -/
theorem CatalogsAgree.refl (Mentioned : String → Prop) (cased : Bool) (catalog : Catalog) :
    CatalogsAgree Mentioned cased cased catalog catalog where
  tables _ := rfl
  functions _ := rfl
  aggregates _ := rfl
  hostVariables _ := rfl
  types _ := rfl

namespace CatalogPair

variable {a : CatalogPair} {scope : Scope} {name : String}

/-- Catalogs that agree are a pair with the same options, whatever names come into play. -/
def ofCatalogs (part : Located) (options : Options) {catalog catalog' : Catalog}
    (h : CatalogsAgree part.Mentions options.caseSensitive options.caseSensitive catalog catalog') :
    CatalogPair where
  part := part
  options := options
  options' := options
  catalog := catalog
  catalog' := catalog'
  Named _ := True
  limit := rfl
  named_of_mentions _ := trivial
  named_empty := trivial
  named_column _ _ _ _ := trivial
  named_method _ _ _ _ := trivial
  named_property _ _ _ _ := trivial
  choice _ := .inl rfl
  catalogs := h

/-- A catalog is a pair with itself. -/
def self (part : Located) (options : Options) (catalog : Catalog) : CatalogPair :=
  ofCatalogs part options (.refl _ _ catalog)

/-- The surroundings of the first pass in a scope. -/
def env (a : CatalogPair) (scope : Scope) : Env :=
  ⟨a.options, scope⟩

/-- The catalog of the second pass, whose members come from the given providers. -/
def served (a : CatalogPair) (providers : Providers) : Catalog :=
  a.catalog'.servedBy providers

/-- The surroundings of the second pass where those of the first are in a scope. -/
def env' (a : CatalogPair) (providers : Providers) (scope : Scope) : Env :=
  ⟨a.options', scope.over (a.served providers)⟩

/-- **Seen scopes**: over the catalog of the first pass, with names that are in play. -/
structure Sees (a : CatalogPair) (scope : Scope) : Prop where
  catalog : scope.catalog = a.catalog
  names : ∀ name ∈ scope.names, a.Named name

/-- **Admitted frames**: those whose names are in play. -/
def Admits (a : CatalogPair) (frame : Frame) : Prop :=
  ∀ name ∈ frame.names, a.Named name

/-- **Fine states** behind a series of questions: records tell what they should, and all members that are
remembered were asked for. -/
structure Fine (a : CatalogPair) (series : List (MemberCache.Question × SymbolId)) (pass : Pass) : Prop where
  records : ∀ record ∈ pass.records, a.part.Tells pass.members record
  members : pass.members = MemberCache.empty.askAll a.catalog series

/-- **Shared answers**: whenever a question of the series reaches a provider, it is answered alike by the
given providers. -/
def Shares (a : CatalogPair) (providers : Providers) (series : List (MemberCache.Question × SymbolId)) : Prop :=
  ∀ call ∈ MemberCache.empty.calls a.catalog series,
    call.1.provided (a.served providers) call.2 = call.1.provided a.catalog call.2

/-- Instances are admitted if the names of each are in play. -/
theorem admits_tables {instances : List TableInstance} :
    a.Admits (.tables instances) ↔ ∀ table ∈ instances, ∀ name ∈ table.names, a.Named name :=
  List.forall_mem_flatMap

/-- Instances are admitted behind others that are. -/
theorem admits_tables_append {instances others : List TableInstance}
    (h : a.Admits (.tables instances)) (hothers : a.Admits (.tables others)) :
    a.Admits (.tables (instances ++ others)) :=
  admits_tables.2 (List.forall_mem_append.2 ⟨admits_tables.1 h, admits_tables.1 hothers⟩)

/-- Columns are admitted behind others that are. -/
theorem admits_queryColumns_append {columns others : List QueryColumn}
    (h : a.Admits (.queryColumns columns)) (hothers : a.Admits (.queryColumns others)) :
    a.Admits (.queryColumns (columns ++ others)) := by
  intro name hname
  change name ∈ QueryColumn.names (columns ++ others) at hname
  rw [QueryColumn.names, List.map_append, List.mem_append] at hname
  exact hname.elim (h name) (hothers name)

/-- Common tables are admitted if the names of each are in play. -/
theorem admits_commonTables {defined : List CommonTable} :
    a.Admits (.commonTables defined) ↔ ∀ table ∈ defined, ∀ name ∈ table.names, a.Named name :=
  List.forall_mem_flatMap

/-- A pass begins fine. -/
theorem Fine.start (a : CatalogPair) (next : SymbolId) : a.Fine [] (.start next) :=
  ⟨fun _ hrecord => absurd hrecord List.not_mem_nil, rfl⟩

variable {series : List (MemberCache.Question × SymbolId)} {pass : Pass} {providers : Providers}

/-- **One more question** leaves a state fine. -/
theorem Fine.ask (h : a.Fine series pass) (question : MemberCache.Question) (next : SymbolId) :
    a.Fine (series ++ [(question, pass.next)]) { pass with
      next
      members := (pass.members.ask a.catalog question pass.next).1.2 } := by
  refine ⟨fun record hrecord => (h.records record hrecord).mono ?_, ?_⟩
  · exact pass.members.extends_ask a.catalog question pass.next
  · rw [← MemberCache.ask_askAll, ← h.members]

/-- The providers of the first pass share all answers. -/
theorem shares_own : a.Shares (a.catalog.methods, a.catalog.properties) series :=
  fun call _ => by cases call.1 <;> rfl

/-- What is shared behind a series is shared before. -/
theorem Shares.before {others : List (MemberCache.Question × SymbolId)}
    (h : a.Shares providers (series ++ others)) : a.Shares providers series := by
  intro call hcall
  refine h call ?_
  rw [MemberCache.calls_append]
  exact List.mem_append_left _ hcall

/-- The answer to the last question is shared, if no answer to it is remembered. -/
theorem Shares.last {question : MemberCache.Question} {next : SymbolId}
    (h : a.Shares providers (series ++ [(question, next)])) (hpass : a.Fine series pass)
    (hnone : pass.members.answer? question = none) :
    question.provided (a.served providers) next = question.provided a.catalog next := by
  refine h (question, next) ?_
  rw [MemberCache.calls_append, ← hpass.members, MemberCache.calls, hnone]
  exact List.mem_append_right _ List.mem_cons_self

/-- The names of remembered methods are in play. -/
theorem Fine.named_methods (h : a.Fine series pass) {type : SqlType} {found : List Method}
    (hfound : pass.members.methods? type = some found) : ∀ it ∈ found, a.Named it.name := by
  obtain ⟨entry, hentry, rfl⟩ := Option.map_eq_some_iff.1 hfound
  have hmem := List.mem_of_find?_eq_some hentry
  rw [h.members] at hmem
  rcases MemberCache.methods_askAll hmem with hnone | ⟨next, hprovided⟩
  · cases hnone
  · rw [hprovided]
    exact a.named_method _ _

/-- The names of remembered properties are in play. -/
theorem Fine.named_properties (h : a.Fine series pass) {type : SqlType} {found : List Property}
    (hfound : pass.members.properties? type = some found) : ∀ it ∈ found, a.Named it.name := by
  obtain ⟨entry, hentry, rfl⟩ := Option.map_eq_some_iff.1 hfound
  have hmem := List.mem_of_find?_eq_some hentry
  rw [h.members] at hmem
  rcases MemberCache.properties_askAll hmem with hnone | ⟨next, hprovided⟩
  · cases hnone
  · rw [hprovided]
    exact a.named_property _ _

/-! ### Looking names up -/

namespace Sees

/-- A link with names that are in play may be put in front. -/
theorem push (h : a.Sees scope) (id : SymbolId) {frame : Frame} (hframe : a.Admits frame) :
    a.Sees (scope.push id frame) := by
  refine ⟨h.catalog, ?_⟩
  rw [Scope.names_push]
  exact List.forall_mem_append.2 ⟨hframe, h.names⟩

/-- A value that the tree mentions is the same over both catalogs. -/
theorem resolveValue (h : a.Sees scope) (hname : a.part.Mentions name) :
    (scope.over (a.served providers)).resolveValue a.options'.caseSensitive name =
      scope.resolveValue a.options.caseSensitive name :=
  Scope.resolveValue_eq (a.choice hname) h.names

/-- An instance that the tree mentions is the same over both catalogs. -/
theorem resolveInstance (h : a.Sees scope) (hname : a.part.Mentions name) :
    (scope.over (a.served providers)).resolveInstance a.options'.caseSensitive name =
      scope.resolveInstance a.options.caseSensitive name :=
  Scope.resolveInstance_eq (a.choice hname) h.names

/-- A common table that the tree mentions is the same over both catalogs. -/
theorem commonTable? (h : a.Sees scope) (hname : a.part.Mentions name) :
    (scope.over (a.served providers)).commonTable? a.options'.caseSensitive name =
      scope.commonTable? a.options.caseSensitive name :=
  Scope.commonTable?_eq (a.choice hname) h.names

/-- A table of the catalog that the tree mentions is in both catalogs, or in none. -/
theorem schemaTable? (h : a.Sees scope) (hname : a.part.Mentions name) :
    (scope.over (a.served providers)).schemaTable? a.options'.caseSensitive name =
      scope.schemaTable? a.options.caseSensitive name := by
  rw [Scope.schemaTable?, Scope.schemaTable?, h.catalog]
  exact congrArg List.head? (a.catalogs.tables hname)

/-- The functions of a name that the tree mentions are the same in both catalogs. -/
theorem functionsNamed (h : a.Sees scope) (hname : a.part.Mentions name) :
    (scope.over (a.served providers)).functionsNamed a.options'.caseSensitive name =
      scope.functionsNamed a.options.caseSensitive name := by
  rw [Scope.functionsNamed, Scope.functionsNamed, h.catalog]
  exact a.catalogs.functions hname

/-- An aggregate that the tree mentions is the same in both catalogs. -/
theorem aggregate? (h : a.Sees scope) (hname : a.part.Mentions name) :
    (scope.over (a.served providers)).aggregate? a.options'.caseSensitive name =
      scope.aggregate? a.options.caseSensitive name := by
  rw [Scope.aggregate?, Scope.aggregate?, h.catalog]
  exact congrArg List.head? (a.catalogs.aggregates hname)

/-- A parameter that the tree mentions is the same in both catalogs. -/
theorem hostVariable? (h : a.Sees scope) (hname : a.part.Mentions name) :
    (scope.over (a.served providers)).hostVariable? a.options'.caseSensitive name =
      scope.hostVariable? a.options.caseSensitive name := by
  rw [Scope.hostVariable?, Scope.hostVariable?, h.catalog]
  exact congrArg List.head? (a.catalogs.hostVariables hname)

/-- A type that the tree mentions is the same in both catalogs. -/
theorem resolveType? (h : a.Sees scope) (hname : a.part.Mentions name) :
    (scope.over (a.served providers)).catalog.resolveType? name = scope.catalog.resolveType? name := by
  rw [h.catalog]
  exact a.catalogs.types hname

/-- Columns of a schema table have names that are in play. -/
theorem named_schemaTable {cased : Bool} {table : SchemaTable} (h : a.Sees scope)
    (hfound : scope.schemaTable? cased name = some table) :
    ∀ name ∈ (TableSource.schema table).names, a.Named name := by
  have hmem := Matching.mem_of_mem_select (List.mem_of_head? hfound)
  rw [h.catalog] at hmem
  intro name hname
  obtain ⟨column, hcolumn, rfl⟩ := List.mem_map.1 hname
  exact a.named_column table hmem column hcolumn

end Sees

end CatalogPair

/-! ## Tandem -/

variable {α β γ δ : Type} {a : CatalogPair} {scope : Scope}

/-- **Tandem**: in a scope that is seen and a fine state, some questions are asked, and a second
computation does over its own catalog what the first does, whichever providers it has that share the
answers to these questions. It gives what `view` makes of the first value, which is as described, and the
state stays fine. -/
def Tandem (a : CatalogPair) (scope : Scope) (body : BindM α) (body' : Providers → BindM β)
    (view : Providers → α → β) (post : α → Prop) : Prop :=
  a.Sees scope → ∀ series pass, a.Fine series pass → ∃ more,
    (∀ providers, a.Shares providers (series ++ more) →
      body' providers (a.env' providers scope) (pass.over (a.served providers)) =
        (view providers (body (a.env scope) pass).1,
          (body (a.env scope) pass).2.over (a.served providers))) ∧
    a.Fine (series ++ more) (body (a.env scope) pass).2 ∧ post (body (a.env scope) pass).1

/-- **Together**: the same computation is done in tandem, and gives the same value. -/
def Together (a : CatalogPair) (scope : Scope) (body : BindM α) (post : α → Prop) : Prop :=
  Tandem a scope body (fun _ => body) (fun _ => id) post

namespace Tandem

/-- A computation that asks no questions goes in tandem if it does so in each fine state. -/
theorem of_quiet {body : BindM α} {body' : Providers → BindM β} {view : Providers → α → β}
    {post : α → Prop}
    (h : ∀ providers pass, body' providers (a.env' providers scope) (pass.over (a.served providers)) =
      (view providers (body (a.env scope) pass).1,
        (body (a.env scope) pass).2.over (a.served providers)))
    (hfine : ∀ series pass, a.Fine series pass → a.Fine series (body (a.env scope) pass).2)
    (hpost : ∀ pass, post (body (a.env scope) pass).1) : Tandem a scope body body' view post := by
  intro _ series pass hpass
  refine ⟨[], fun providers _ => h providers pass, ?_, hpost pass⟩
  rw [List.append_nil]
  exact hfine series pass hpass

/-! ### Sequences -/

/-- **Sequence**, where the second pass sees something else than the first. -/
theorem bindView {first : BindM α} {first' : Providers → BindM β} {rest : α → BindM γ}
    {rest' : Providers → β → BindM δ} {view : Providers → α → β} {view' : Providers → γ → δ}
    {middle : α → Prop} {post : γ → Prop} (hfirst : Tandem a scope first first' view middle)
    (hrest : ∀ value, middle value → Tandem a scope (rest value)
      (fun providers => rest' providers (view providers value)) view' post) :
    Tandem a scope (first >>= rest) (fun providers => first' providers >>= rest' providers) view'
      post := by
  intro hscope series pass hpass
  obtain ⟨asked, hfirst, hfine, hmiddle⟩ := hfirst hscope series pass hpass
  obtain ⟨more, hrest, hfine, hpost⟩ := hrest _ hmiddle hscope _ _ hfine
  rw [List.append_assoc] at hrest hfine
  refine ⟨asked ++ more, fun providers hshares => ?_, hfine, hpost⟩
  have hbefore : a.Shares providers (series ++ asked) :=
    CatalogPair.Shares.before (List.append_assoc _ _ _ ▸ hshares)
  change rest' providers (first' providers (a.env' providers scope) (pass.over (a.served providers))).1
    (a.env' providers scope)
    (first' providers (a.env' providers scope) (pass.over (a.served providers))).2 = _
  rw [hfirst providers hbefore]
  exact hrest providers hshares

/-- What comes out may be put in other words. -/
theorem mono {body : BindM α} {body' : Providers → BindM β} {view : Providers → α → β}
    {post post' : α → Prop} (h : Tandem a scope body body' view post)
    (himp : ∀ value, post value → post' value) : Tandem a scope body body' view post' := by
  intro hscope series pass hpass
  obtain ⟨more, hbody, hfine, hpost⟩ := h hscope series pass hpass
  exact ⟨more, hbody, hfine, himp _ hpost⟩

/-- That the scope is seen may be made use of. -/
theorem seeing {body : BindM α} {body' : Providers → BindM β} {view : Providers → α → β}
    {post : α → Prop} (h : a.Sees scope → Tandem a scope body body' view post) :
    Tandem a scope body body' view post :=
  fun hscope => h hscope hscope

/-- A value of which the second pass sees something else. -/
theorem pureView (value : α) (view : Providers → α → β) {post : α → Prop} (h : post value) :
    Tandem a scope (Pure.pure value) (fun providers => Pure.pure (view providers value)) view post :=
  of_quiet (fun _ _ => rfl) (fun _ _ hpass => hpass) fun _ => h

end Tandem

namespace Together

/-- **Sequence**, where both passes see the same. -/
theorem bind {first : BindM α} {rest : α → BindM γ} {middle : α → Prop} {post : γ → Prop}
    (hfirst : Together a scope first middle)
    (hrest : ∀ value, middle value → Together a scope (rest value) post) :
    Together a scope (first >>= rest) post :=
  Tandem.bindView hfirst hrest

/-- What is known of the value may be put in other words. -/
theorem mono {body : BindM α} {post post' : α → Prop} (h : Together a scope body post)
    (himp : ∀ value, post value → post' value) : Together a scope body post' :=
  Tandem.mono h himp

/-- A value is the same over both catalogs. -/
theorem pure (value : α) {post : α → Prop} (h : post value) :
    Together a scope (Pure.pure value) post :=
  Tandem.pureView value (fun _ => id) h

end Together

namespace Tandem

/-! ### Surroundings -/

/-- Looking at the scope. -/
theorem currentScope {rest : Scope → BindM α} {rest' : Providers → Scope → BindM β}
    {view : Providers → α → β} {post : α → Prop}
    (h : Tandem a scope (rest scope)
      (fun providers => rest' providers (scope.over (a.served providers))) view post) :
    Tandem a scope (Binding.currentScope >>= rest)
      (fun providers => Binding.currentScope >>= rest' providers) view post :=
  h

/-- Looking at the mode in which names are compared. -/
theorem caseSensitive {rest : Bool → BindM α} {rest' : Providers → Bool → BindM β}
    {view : Providers → α → β} {post : α → Prop}
    (h : Tandem a scope (rest a.options.caseSensitive)
      (fun providers => rest' providers a.options'.caseSensitive) view post) :
    Tandem a scope (Binding.caseSensitive >>= rest)
      (fun providers => Binding.caseSensitive >>= rest' providers) view post :=
  h

/-- Working in another scope. -/
theorem within {inner : Scope} {body : BindM α} {body' : Providers → BindM β}
    {view : Providers → α → β} {post : α → Prop} (hinner : a.Sees inner)
    (h : Tandem a inner body body' view post) :
    Tandem a scope (Binding.within inner body)
      (fun providers => Binding.within (inner.over (a.served providers)) (body' providers)) view post :=
  fun _ => h hinner

/-! ### Identities -/

/-- Taking identities for something that the second pass sees in its way. -/
theorem supplyView {taken : Supply α} {taken' : Providers → Supply β} {view : Providers → α → β}
    {post : α → Prop}
    (h : ∀ providers next, taken' providers next = (view providers (taken next).1, (taken next).2))
    (hpost : taken.Gives post) :
    Tandem a scope (Binding.supply taken) (fun providers => Binding.supply (taken' providers)) view
      post := by
  refine of_quiet (fun providers pass => ?_) (fun _ _ hpass => ⟨hpass.records, hpass.members⟩)
    fun pass => hpost pass.next
  have hview := h providers pass.next
  change ((taken' providers pass.next).1,
    { pass.over (a.served providers) with next := (taken' providers pass.next).2 }) = _
  rw [hview]
  rfl

/-- A new link in front of a scope. -/
theorem child {inner : Scope} {frame : Frame} (hinner : a.Sees inner) (hframe : a.Admits frame) :
    Tandem a scope (Binding.supply (inner.child frame))
      (fun providers => Binding.supply ((inner.over (a.served providers)).child frame))
      (fun providers => Scope.over (a.served providers)) a.Sees :=
  supplyView (fun _ _ => rfl) fun next => hinner.push next hframe

/-- A new link in front of the scope at hand. -/
theorem childScope {frame : Frame} (hframe : a.Admits frame) :
    Tandem a scope (Binding.childScope frame) (fun _ => Binding.childScope frame)
      (fun providers => Scope.over (a.served providers)) a.Sees :=
  seeing fun hscope => currentScope (child hscope hframe)

end Tandem

namespace Together

/-- Taking identities. -/
theorem supply {taken : Supply α} {post : α → Prop} (h : taken.Gives post) :
    Together a scope (Binding.supply taken) post :=
  Tandem.supplyView (fun _ _ => rfl) h

/-! ### The log -/

/-- **Recording** what a piece is bound to. -/
theorem record {piece : Piece} {info : NodeInfo} {node : Bound.Node} (hreads : a.part.Reads piece)
    (hinfo : piece.info? = some info) (hcalls : piece.Calls node)
    (hplain : ∀ bound, node.expr? = some bound → bound.Plain) :
    Together a scope (Binding.record info node) fun _ => True := by
  refine Tandem.of_quiet (fun _ _ => rfl) (fun _ pass hpass => ?_) fun _ => trivial
  refine ⟨List.forall_mem_cons.2 ⟨?_, hpass.records⟩, hpass.members⟩
  exact ⟨piece, hreads, hinfo, hcalls, fun bound hbound => .of_plain (hplain bound hbound)⟩

/-- Recording the scope. -/
theorem recordScope (info : NodeInfo) : Together a scope (Binding.recordScope info) fun _ => True :=
  Tandem.of_quiet (fun _ _ => rfl) (fun _ _ hpass => ⟨hpass.records, hpass.members⟩) fun _ => trivial

/-- **Reporting.** As many reports are kept in both passes. -/
theorem report (span : Span) (problem : Problem) :
    Together a scope (Binding.report span problem) fun _ => True := by
  have hkeep : a.options'.keep = a.options.keep := by
    funext earlier it
    rw [Options.keep, Options.keep, a.limit]
  refine Tandem.of_quiet (fun providers pass => ?_) (fun series pass hpass => ?_) fun _ => trivial
  · rw [report_eq, report_eq]
    change ((), { pass.over (a.served providers) with
      diagnostics := a.options'.keep pass.diagnostics ⟨span, problem⟩ }) = _
    rw [hkeep]
    rfl
  · rw [report_eq]
    exact ⟨hpass.records, hpass.members⟩

/-- **Recording an expression** that refers to no member. -/
theorem recordExpr {written : Ast.Expr} {info : NodeInfo} {it : Bound.Expr}
    (hreads : a.part.Reads (.expr written)) (hinfo : written.info = info)
    (hcalls : (Piece.expr written).Calls (.expr it)) (hplain : it.Plain) :
    Together a scope (Binding.recordExpr info it) fun _ => True :=
  (record hreads (congrArg some hinfo) hcalls fun _ hbound => Option.some.inj hbound ▸ hplain).bind
    fun _ _ => pure it trivial

/-- **Recording an expression that may refer to a member**, behind the computation that looks the member
up. -/
theorem recordMember {written : Ast.Expr} {info : NodeInfo} {body : BindM Bound.Expr}
    {post : Bound.Expr → Prop} (hbody : Together a scope body post)
    (hreads : a.part.Reads (.expr written)) (hinfo : written.info = info)
    (hcalls : ∀ it, post it → (Piece.expr written).Calls (.expr it))
    (hbacks : ∀ env pass, (body env pass).2.members.Backs (body env pass).1) :
    Together a scope (body >>= Binding.recordExpr info) fun _ => True := by
  intro hscope series pass hpass
  obtain ⟨more, hbody, hfine, hpost⟩ := hbody hscope series pass hpass
  refine ⟨more, fun providers hshares => ?_, ⟨List.forall_mem_cons.2 ⟨?_, hfine.records⟩,
    hfine.members⟩, trivial⟩
  · have hsame : body (a.env' providers scope) (pass.over (a.served providers)) =
        ((body (a.env scope) pass).1, (body (a.env scope) pass).2.over (a.served providers)) :=
      hbody providers hshares
    change Binding.recordExpr info
      (body (a.env' providers scope) (pass.over (a.served providers))).1 (a.env' providers scope)
      (body (a.env' providers scope) (pass.over (a.served providers))).2 = _
    rw [hsame]
    rfl
  · exact ⟨.expr written, hreads, congrArg some hinfo, hcalls _ hpost, fun bound hbound =>
      Option.some.inj hbound ▸ hbacks _ _⟩

/-- Recording a table reference that is called as it is written. -/
theorem recordTable {written : Ast.TableRef} {info : NodeInfo} {it : Bound.TableRef}
    {post : Bound.TableRef → Prop} (hreads : a.part.Reads (.table written)) (hinfo : written.info = info)
    (hcalls : (Piece.table written).Calls (.table it)) (hpost : post it) :
    Together a scope (Binding.recordTable info it) post :=
  (record hreads (congrArg some hinfo) hcalls fun _ hbound => nomatch hbound).bind
    fun _ _ => pure it hpost

/-! ### Placeholders -/

/-- A symbol for what cannot be resolved has the name, and is no member. -/
theorem badSymbol (name : String) :
    Together a scope (Binding.badSymbol name) fun symbol =>
      symbol.name = name ∧ symbol.isMember = false :=
  (supply .any).bind fun _ _ => pure _ ⟨rfl, rfl⟩

/-- A name that cannot be resolved refers to a symbol that is no member. -/
theorem badName (name : String) :
    Together a scope (Binding.badName name) fun bound =>
      ∃ symbol, bound = .name symbol ∧ symbol.name = name ∧ symbol.isMember = false :=
  (badSymbol name).bind fun symbol hsymbol => pure _ ⟨symbol, rfl, hsymbol⟩

/-- A missing expression refers to no member. -/
theorem missingExpr : Together a scope Binding.missingExpr Bound.Expr.Plain :=
  (badName "").mono fun bound ⟨symbol, hbound, _, hplain⟩ other hother => by
    rw [hbound] at hother
    cases hother
    exact hplain

/-- A table that cannot be resolved has no columns. -/
theorem badInstance (table : String) :
    Together a scope (Binding.badInstance table) fun source => source.name = table ∧ source.names = [] :=
  (supply .any).bind fun _ _ => pure _ ⟨rfl, rfl⟩

/-- A new instance has names that are in play if it is given such names. -/
theorem newInstance {name : String} {source : TableSource} (hname : a.Named name)
    (hsource : ∀ name ∈ source.names, a.Named name) :
    Together a scope (Binding.supply (TableInstance.create name source)) fun table =>
      table.name = name ∧ table.source = source ∧ ∀ name ∈ table.names, a.Named name := by
  refine supply fun next => ?_
  obtain ⟨hown, hinstance, hnames⟩ := Supply.Gives.tableInstance_names name source next
  refine ⟨hown, hinstance, ?_⟩
  rw [hnames]
  exact List.forall_mem_cons.2 ⟨hname, hsource⟩

/-- A new output column has the name that it is given. -/
theorem newColumn (name : String) (type : SqlType) :
    Together a scope (Binding.supply (QueryColumn.create name type)) fun column => column.name = name :=
  supply (Supply.Gives.queryColumn_name name type)

/-- A missing table reference admits nothing. -/
theorem missingTable :
    Together a scope Binding.missingTable fun it =>
      (∃ table, it = .named table) ∧ a.Admits (.tables it.instances) :=
  (badInstance "").bind fun _ ⟨_, hnames⟩ =>
    (newInstance a.named_empty (hnames ▸ fun _ h => nomatch h)).bind fun table ⟨_, _, hnamed⟩ =>
      pure _ ⟨⟨table, rfl⟩, CatalogPair.admits_tables.2 (List.forall_mem_singleton.2 hnamed)⟩

/-- What cannot be resolved is reported alike. -/
theorem unresolved (span : Span) (problem : Problem) (name : String) :
    Together a scope (Binding.unresolved span problem name) fun symbol =>
      symbol.name = name ∧ symbol.isMember = false :=
  (report span problem).bind fun _ _ => badSymbol name

/-! ### Members -/

/-- **Methods of a type** are asked for in both passes, or remembered in both. -/
theorem methodsOf (type : SqlType) :
    Together a scope (Binding.methodsOf type) fun found => ∀ it ∈ found, a.Named it.name := by
  intro hscope series pass hpass
  have hfirst : Binding.methodsOf type (a.env scope) pass =
      ((pass.members.askMethods a.catalog.methods type pass.next).1.1,
        { pass with
          next := (pass.members.askMethods a.catalog.methods type pass.next).2
          members := (pass.members.ask a.catalog (.methods type) pass.next).1.2 }) := by
    rw [← hscope.catalog]
    rfl
  have hfine := hpass.ask (.methods type)
    (pass.members.askMethods a.catalog.methods type pass.next).2
  rw [hfirst]
  refine ⟨_, fun providers hshares => ?_, hfine,
    hfine.named_methods (pass.members.askMethods_extends _ type pass.next).2⟩
  have hasked := MemberCache.askMethods_congr (hshares.last hpass)
  change ((pass.members.askMethods (a.served providers).methods type pass.next).1.1,
    { pass.over (a.served providers) with
      next := (pass.members.askMethods (a.served providers).methods type pass.next).2
      members := (pass.members.askMethods (a.served providers).methods type pass.next).1.2 }) = _
  rw [hasked]
  rfl

/-- **Properties of a type** are asked for in both passes, or remembered in both. -/
theorem propertiesOf (type : SqlType) :
    Together a scope (Binding.propertiesOf type) fun found => ∀ it ∈ found, a.Named it.name := by
  intro hscope series pass hpass
  have hfirst : Binding.propertiesOf type (a.env scope) pass =
      ((pass.members.askProperties a.catalog.properties type pass.next).1.1,
        { pass with
          next := (pass.members.askProperties a.catalog.properties type pass.next).2
          members := (pass.members.ask a.catalog (.properties type) pass.next).1.2 }) := by
    rw [← hscope.catalog]
    rfl
  have hfine := hpass.ask (.properties type)
    (pass.members.askProperties a.catalog.properties type pass.next).2
  rw [hfirst]
  refine ⟨_, fun providers hshares => ?_, hfine,
    hfine.named_properties (pass.members.askProperties_extends _ type pass.next).2⟩
  have hasked := MemberCache.askProperties_congr (hshares.last hpass)
  change ((pass.members.askProperties (a.served providers).properties type pass.next).1.1,
    { pass.over (a.served providers) with
      next := (pass.members.askProperties (a.served providers).properties type pass.next).2
      members := (pass.members.askProperties (a.served providers).properties type pass.next).1.2 }) = _
  rw [hasked]
  rfl

end Together

/-- Recording a query. -/
theorem Tandem.recordQuery {written : Ast.Query} {info : NodeInfo} {it : Bound.Query} {inner : Scope}
    {post : ScopedQuery → Prop} (hreads : a.part.Reads (.query written)) (hinfo : written.info = info)
    (hpost : post ⟨it, inner⟩) :
    Tandem a scope (Binding.recordQuery info it inner)
      (fun providers => Binding.recordQuery info it (inner.over (a.served providers)))
      (fun providers => ScopedQuery.over (a.served providers)) post :=
  have hcalls : (Piece.query written).Calls (.query it) := trivial
  (Together.record hreads (congrArg some hinfo) hcalls fun _ hbound => nomatch hbound).bindView
    fun _ _ => pureView ⟨it, inner⟩ (fun providers => ScopedQuery.over (a.served providers)) hpost

end Binding

end QuerySemantics
