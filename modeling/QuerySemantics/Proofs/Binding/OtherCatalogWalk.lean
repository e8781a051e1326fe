import QuerySemantics.Proofs.Binding.OtherCatalogRules
import QuerySemantics.Proofs.Binding.Walk

/-!
# Binding in tandem

The walk through a tree does the same over both catalogs: it looks up only names that the tree mentions,
in scopes whose names are in play.

## Main definitions

* `Binding.tandem`: the judgment that binding a node does the same over both catalogs.

## Main results

* `Binding.tandem_closed`: the walk through the syntax.
* `Binding.pass_tandem`: the pass over a tree.
-/

set_option autoImplicit false

namespace QuerySemantics

namespace Binding

variable {a : CatalogPair}

mutual

/-- What stands inside parentheses is a piece of the tree. -/
theorem reads_core : ∀ (it : Ast.Expr), a.part.Reads (.expr it) → a.part.Reads (.expr it.core)
  | .parenthesized info inner, h => by
    rw [Ast.Expr.core]
    exact reads_coreOr inner h (h.listed (fun _ => rfl) (by simp +contextual [Piece.parts, Piece.ofExpr?]))
  | .name _ _, h | .parameter _ _, h | .literal _ _, h | .unary _ _ _, h | .binary _ _ _ _ _, h
  | .property _ _ _, h | .method _ _ _ _, h | .call _ _ _, h | .countAll _ _, h | .cast _ _ _, h
  | .isNull _ _ _, h | .cases _ _ _ _, h | .subselect _ _, h | .existence _ _, h
  | .quantified _ _ _ _ _, h => h
termination_by structural it => it

/-- What may stand inside parentheses, or else the parentheses, is a piece of the tree. -/
theorem reads_coreOr : ∀ {fallback : Ast.Expr} (it : Option Ast.Expr),
    a.part.Reads (.expr fallback) → (∀ inner ∈ it.toList, a.part.Reads (.expr inner)) →
      a.part.Reads (.expr (Ast.Expr.coreOr fallback it))
  | _, some inner, _, h => reads_core inner (h inner (List.mem_singleton_self inner))
  | _, none, hfallback, _ => hfallback
termination_by structural _ it => it

end

/-- The identifier of a piece is mentioned. -/
theorem mentions_of_reads {piece : Piece} {ident : Option Token} (h : a.part.Reads piece)
    (hident : ident.toList ⊆ piece.identifiers) : ∀ token ∈ ident, a.part.Mentions token.ident :=
  fun _ htoken => h.mentions (hident (Option.mem_toList.2 htoken))

/-! ## Parts -/

/-- **Binding a piece in tandem**: the same is done over both catalogs, if the tree has the piece. -/
def InTandem {α : Type} (a : CatalogPair) (it : Piece) (post : α → Prop) (body : BindM α) : Prop :=
  ∀ scope, a.part.Reads it → Together a scope body post

section Parts

variable {α β : Type} {wrap : α → Piece} {scope : Scope}

/-- A part that may be missing. -/
theorem Together.calledFor {post : β → Prop} {instead body : BindM β} {it : Option α}
    (h : CalledFor (fun it => InTandem a (wrap it) post) instead it body)
    (hmissing : Together a scope instead post) (hreads : ∀ inner ∈ it.toList, a.part.Reads (wrap inner)) :
    Together a scope body post := by
  cases h with
  | given h => exact h scope (hreads _ (List.mem_singleton_self _))
  | missing => exact hmissing

/-- A part that need not be there. -/
theorem Together.ifAny {body : BindM (Option β)} {it : Option α}
    (h : IfAny (fun it => InTandem a (wrap it) fun _ => True) it body)
    (hreads : ∀ inner ∈ it.toList, a.part.Reads (wrap inner)) :
    Together a scope body fun _ => True := by
  cases h with
  | given h =>
    exact (h scope (hreads _ (List.mem_singleton_self _))).bind fun _ _ => .pure _ trivial
  | missing => exact .pure _ trivial

/-- Parts one after the other: what is in play for each is so for all. -/
theorem Together.inTurn {post : β → Prop} {posts : List β → Prop} {body : BindM (List β)}
    {items : List α} (h : InTurn (fun it => InTandem a (wrap it) post) items body) (hnil : posts [])
    (hcons : ∀ value rest, post value → posts rest → posts (value :: rest))
    (hreads : ∀ it ∈ items, a.part.Reads (wrap it)) : Together a scope body posts := by
  induction h with
  | nil => exact .pure _ hnil
  | cons hfirst _ ih =>
    obtain ⟨hit, hrest⟩ := List.forall_mem_cons.1 hreads
    exact (hfirst scope hit).bind fun value hvalue => (ih hrest).bind fun rest hrest =>
      .pure _ (hcons value rest hvalue hrest)

/-- Parts one after the other, of which nothing more is to be known. -/
theorem Together.all {body : BindM (List β)} {items : List α}
    (h : InTurn (fun it => InTandem a (wrap it) fun _ => True) items body)
    (hreads : ∀ it ∈ items, a.part.Reads (wrap it)) : Together a scope body fun _ => True :=
  .inTurn h trivial (fun _ _ _ _ => trivial) hreads

end Parts

/-! ## The judgment -/

/-- **Binding a node in tandem.** The names of what it introduces are in play. -/
def tandem (a : CatalogPair) : Judgment where
  Expr it := InTandem a (.expr it) fun _ => True
  Arguments it := InTandem a (.arguments it) fun _ => True
  Label _ it := InTandem a (.caseLabel it) fun _ => True
  Condition _ it := InTandem a (.condition it) fun _ => True
  Table it := InTandem a (.table it) fun made => a.Admits (.tables made.instances)
  Source it := InTandem a (.fromClause it) fun made =>
    a.Admits (.tables (made.flatMap Bound.TableRef.instances))
  Grouping it := InTandem a (.groupBy it) fun _ => True
  Item instances it body := a.Admits (.tables instances) →
    InTandem a (.selectItem it) (fun made => a.Admits (.queryColumns made.output)) body
  Head instances it body := a.Admits (.tables instances) → InTandem a (.selectClause it)
    (fun made => a.Admits (.queryColumns (made.flatMap Bound.SelectItem.output))) body
  Key _ it := InTandem a (.expr it) fun _ => True
  Entry _ it := InTandem a (.orderItem it) fun _ => True
  Definition earlier it body := a.Admits (.commonTables earlier) →
    InTandem a (.commonTable it) (fun made => a.Admits (.commonTables [made.symbol])) body
  Query it body := ∀ scope, a.part.Reads (.query it) → Tandem a scope body (fun _ => body)
    (fun providers => ScopedQuery.over (a.served providers)) fun it =>
      a.Admits (.queryColumns it.query.output) ∧ a.Sees it.inner

section Parts

variable {scope : Scope}

/-- Expressions that are called for. -/
theorem Together.optionalExpr {it : Option Ast.Expr} {body : BindM Bound.Expr}
    (h : (tandem a).OptionalExpr it body) (hreads : ∀ inner ∈ it.toList, a.part.Reads (.expr inner)) :
    Together a scope body fun _ => True :=
  .calledFor h (Together.missingExpr.mono fun _ _ => trivial) hreads

/-- Table references that are called for. -/
theorem Together.optionalTable {it : Option Ast.TableRef} {body : BindM Bound.TableRef}
    (h : (tandem a).OptionalTable it body) (hreads : ∀ inner ∈ it.toList, a.part.Reads (.table inner)) :
    Together a scope body fun made => a.Admits (.tables made.instances) :=
  .calledFor h (Together.missingTable.mono fun _ => And.right) hreads

/-- Queries that are called for. -/
theorem Tandem.optionalQuery {it : Option Ast.Query} {body : BindM ScopedQuery}
    (h : (tandem a).OptionalQuery it body) (hreads : ∀ inner ∈ it.toList, a.part.Reads (.query inner)) :
    Tandem a scope body (fun _ => body) (fun providers => ScopedQuery.over (a.served providers))
      fun it => a.Admits (.queryColumns it.query.output) ∧ a.Sees it.inner := by
  cases h with
  | given h => exact h scope (hreads _ (List.mem_singleton_self _))
  | missing =>
    exact .seeing fun hscope => .currentScope
      (.pureView (ScopedQuery.mk .empty scope) (fun providers => ScopedQuery.over (a.served providers))
        ⟨fun _ hname => absurd hname List.not_mem_nil, hscope⟩)

/-- Definitions one after the other. -/
theorem Together.definitions {earlier : List CommonTable} {items : List Ast.CommonTable}
    {body : BindM (List Bound.Definition)} (h : DefinedInTurn (tandem a).Definition earlier items body)
    (hearlier : a.Admits (.commonTables earlier)) (hreads : ∀ it ∈ items, a.part.Reads (.commonTable it)) :
    Together a scope body fun made => a.Admits (.commonTables (made.map Bound.Definition.symbol)) := by
  induction h with
  | nil => exact .pure _ fun _ hname => nomatch hname
  | cons hfirst _ ih =>
    obtain ⟨hit, hrest⟩ := List.forall_mem_cons.1 hreads
    refine (hfirst hearlier scope hit).bind fun definition hdefinition => ?_
    have hsofar : a.Admits (.commonTables (_ ++ [definition.symbol])) :=
      CatalogPair.admits_commonTables.2 (List.forall_mem_append.2
        ⟨CatalogPair.admits_commonTables.1 hearlier, CatalogPair.admits_commonTables.1 hdefinition⟩)
    refine (ih definition hsofar hrest).bind fun made hmade => .pure _ ?_
    exact CatalogPair.admits_commonTables.2 (List.forall_mem_append.2
      ⟨CatalogPair.admits_commonTables.1 hdefinition, CatalogPair.admits_commonTables.1 hmade⟩)

end Parts

/-! ## The rules -/

/-- Expressions without parts, in tandem. -/
theorem tandem_leaves : (tandem a).Leaves where
  name _ _ _ h := (Together.name (mentions_of_reads h (List.Subset.refl _))).bind fun _ hbound =>
    .recordExpr h rfl hbound.spelled hbound.plain
  parameter _ _ _ h := (Together.hostVariable _ (mentions_of_reads h (List.Subset.refl _))).bind
    fun _ hbound => .recordExpr h rfl hbound.spelled hbound.plain
  literal _ token _ h := (Together.literal token).bind fun _ hbound =>
    .recordExpr h rfl hbound.spelled hbound.plain
  countAll _ _ _ h := (Together.countAll _ (mentions_of_reads h (List.Subset.refl _))).bind
    fun _ hbound => .recordExpr h rfl hbound.spelled hbound.plain
  nameless info target ident hnone _ h := by
    refine Together.missing.bind fun bound hbound => ?_
    have hcalls : (Piece.expr (.property info target ident)).Calls (.expr bound) := by
      rcases hnone with rfl | rfl
      · exact hbound.spelled
      · cases target <;> exact hbound.spelled
    exact .recordExpr h rfl hcalls hbound.plain

/-- Operators and the conditions of clauses, in tandem. -/
theorem tandem_operations : (tandem a).Operations where
  parenthesized _ _ _ hinner _ h := .optionalExpr hinner
    (h.listed (fun _ => rfl) (by simp +contextual [Piece.parts, Piece.ofExpr?]))
  unary _ _ operand _ hoperand _ h := by
    have hreads : ∀ it ∈ operand.toList, a.part.Reads (.expr it) :=
      h.listed (fun _ => rfl) (by simp +contextual [Piece.parts, Piece.ofExpr?])
    exact (Together.optionalExpr hoperand hreads).bind fun _ _ =>
      (Together.unary _ _ _).bind fun _ hbound => .recordExpr h rfl hbound.spelled hbound.plain
  binary _ _ _ left right _ _ hleft hright _ h := by
    have hreads : ∀ it ∈ left.toList, a.part.Reads (.expr it) :=
      h.listed (fun _ => rfl) (by simp +contextual [Piece.parts, Piece.ofExpr?])
    have hreads' : ∀ it ∈ right.toList, a.part.Reads (.expr it) :=
      h.listed (fun _ => rfl) (by simp +contextual [Piece.parts, Piece.ofExpr?])
    exact (Together.optionalExpr hleft hreads).bind fun _ _ =>
      (Together.optionalExpr hright hreads').bind fun _ _ =>
        (Together.binary _ _ _ _ _).bind fun _ hbound =>
          .recordExpr h rfl hbound.spelled hbound.plain
  cast _ _ operand _ hoperand _ h := by
    have hreads : ∀ it ∈ operand.toList, a.part.Reads (.expr it) :=
      h.listed (fun _ => rfl) (by simp +contextual [Piece.parts, Piece.ofExpr?])
    exact (Together.optionalExpr hoperand hreads).bind fun _ _ =>
      (Together.cast _ _ (mentions_of_reads h (List.Subset.refl _))).bind fun _ hbound =>
        .recordExpr h rfl hbound (Bound.Expr.plain_of_symbol? hbound)
  isNull _ _ operand _ hoperand _ h := by
    have hreads : ∀ it ∈ operand.toList, a.part.Reads (.expr it) :=
      h.listed (fun _ => rfl) (by simp +contextual [Piece.parts, Piece.ofExpr?])
    exact (Together.optionalExpr hoperand hreads).bind fun bound _ =>
      have hbound : (Bound.Expr.isNull bound _).Called none := .of_none rfl
      .recordExpr h rfl hbound.spelled hbound.plain
  condition _ _ predicate _ hpredicate _ h := by
    have hreads : ∀ it ∈ predicate.toList, a.part.Reads (.expr it) :=
      h.listed (fun _ => rfl) (by simp +contextual [Piece.parts, Piece.ofExpr?])
    exact (Together.optionalExpr hpredicate hreads).bind fun _ _ =>
      (Together.checkCondition _ _ _).bind fun _ _ => .pure _ trivial

/-- A `CASE` and its labels, in tandem. -/
theorem tandem_branches : (tandem a).Branches where
  label _ info condition result _ _ hcondition hresult _ h := by
    have hreads : ∀ it ∈ condition.toList, a.part.Reads (.expr it) :=
      h.listed (fun _ => rfl) (by simp +contextual [Piece.parts, Piece.ofExpr?])
    have hreads' : ∀ it ∈ result.toList, a.part.Reads (.expr it) :=
      h.listed (fun _ => rfl) (by simp +contextual [Piece.parts, Piece.ofExpr?])
    refine (Together.optionalExpr hcondition hreads).bind fun condition' _ => ?_
    refine (Together.checkLabel _ _ _).bind fun _ _ => ?_
    refine (Together.optionalExpr hresult hreads').bind fun result' _ => ?_
    have hcalls : (Piece.caseLabel (.mk info condition result)).Calls
        (.caseLabel (.mk condition' result')) := trivial
    exact (Together.record h rfl hcalls fun _ hbound => nomatch hbound).bind fun _ _ =>
      .pure _ trivial
  cases _ input otherwise labels _ _ _ hinput hlabels hotherwise _ h := by
    have hreads₁ : ∀ it ∈ input.toList, a.part.Reads (.expr it) :=
      h.listed (fun _ => rfl) (by simp +contextual [Piece.parts, Piece.ofExpr?])
    have hreads₂ : ∀ it ∈ labels, a.part.Reads (.caseLabel it) :=
      h.listed (fun _ => rfl) (by simp +contextual [Piece.parts, Piece.ofExpr?])
    have hreads₃ : ∀ it ∈ otherwise.toList, a.part.Reads (.expr it) :=
      h.listed (fun _ => rfl) (by simp +contextual [Piece.parts, Piece.ofExpr?])
    exact (Together.ifAny hinput hreads₁).bind fun input' _ =>
      (Together.all (hlabels input') hreads₂).bind fun _ _ =>
        (Together.ifAny hotherwise hreads₃).bind fun _ _ =>
          (Together.caseOf _ _ _ _).bind fun _ hbound =>
            .recordExpr h rfl hbound.spelled hbound.plain

/-- Properties, methods and calls, in tandem. -/
theorem tandem_members : (tandem a).Members where
  property info ident target _ _ htarget scope h := by
    have hreads : ∀ it ∈ [target], a.part.Reads (.expr it) :=
      h.listed (fun _ => rfl) (by simp +contextual [Piece.parts, Piece.ofExpr?])
    have hident : a.part.Mentions ident.ident := h.mentions (List.mem_singleton_self ident)
    exact (htarget scope (hreads target (List.mem_singleton_self target))).bind fun bound _ =>
      (Together.property bound hident).recordMember h rfl (fun _ => id) (backs_property bound ident)
  qualified info node token ident _ htarget scope h := by
    have hreads : ∀ it ∈ [Ast.Expr.name node (some token)], a.part.Reads (.expr it) :=
      h.listed (fun _ => rfl) (by simp +contextual [Piece.parts, Piece.ofExpr?])
    have hreads' : a.part.Reads (.expr (.name node (some token))) :=
      hreads _ (List.mem_singleton_self _)
    have hident : a.part.Mentions ident.ident := h.mentions (List.mem_singleton_self ident)
    refine (Together.qualified hreads' hident).bind fun decided hdecided => ?_
    cases decided with
    | some it => exact .recordExpr h rfl (hdecided it rfl).spelled (hdecided it rfl).plain
    | none =>
      exact (htarget scope hreads').bind fun bound _ =>
        (Together.property bound hident).recordMember h rfl (fun _ => id) (backs_property bound ident)
  method info ident target arguments _ _ htarget harguments _ h := by
    have hreads : ∀ it ∈ target.toList, a.part.Reads (.expr it) :=
      h.listed (fun _ => rfl) (by simp +contextual [Piece.parts, Piece.ofExpr?])
    have hreads' : ∀ it ∈ arguments.toList, a.part.Reads (.arguments it) :=
      h.listed (fun _ => rfl) (by simp +contextual [Piece.parts, Piece.ofExpr?])
    exact (Together.optionalExpr htarget hreads).bind fun target _ =>
      (Together.calledFor harguments (.pure _ trivial) hreads').bind fun arguments _ =>
        (Together.method info target arguments (mentions_of_reads h (List.Subset.refl _))).recordMember h
          rfl (fun _ => id) (backs_method info ident target arguments)
  call _ _ arguments _ harguments _ h := by
    have hreads : ∀ it ∈ arguments.toList, a.part.Reads (.arguments it) :=
      h.listed (fun _ => rfl) (by simp +contextual [Piece.parts])
    exact (Together.calledFor harguments (.pure _ trivial) hreads).bind fun _ _ =>
      (Together.call _ _ (mentions_of_reads h (List.Subset.refl _))).bind fun _ hbound =>
        .recordExpr h rfl hbound.spelled hbound.plain
  arguments _ _ _ hitems _ h := .all hitems
    (h.listed (fun _ => rfl) (by simp +contextual [Piece.parts]))

/-- Expressions with a query in them, in tandem. -/
theorem tandem_subqueries : (tandem a).Subqueries where
  subselect _ body _ hbody _ h := by
    have hreads : ∀ it ∈ body.toList, a.part.Reads (.query it) :=
      h.listed (fun _ => rfl) (by simp +contextual [Piece.parts, Piece.ofQuery?])
    exact (Tandem.optionalQuery hbody hreads).bindView fun body _ =>
      (Together.subselect _ body.query).bind fun _ hbound =>
        .recordExpr h rfl hbound.spelled hbound.plain
  existence _ body _ hbody _ h := by
    have hreads : ∀ it ∈ body.toList, a.part.Reads (.query it) :=
      h.listed (fun _ => rfl) (by simp +contextual [Piece.parts, Piece.ofQuery?])
    exact (Tandem.optionalQuery hbody hreads).bindView fun body _ =>
      have hbound : (Bound.Expr.existence body.query).Called none := .of_none rfl
      Together.recordExpr h rfl hbound.spelled hbound.plain
  quantified _ _ _ left body _ _ hleft hbody _ h := by
    have hreads : ∀ it ∈ left.toList, a.part.Reads (.expr it) :=
      h.listed (fun _ => rfl) (by simp +contextual [Piece.parts, Piece.ofExpr?, Piece.ofQuery?])
    have hreads' : ∀ it ∈ body.toList, a.part.Reads (.query it) :=
      h.listed (fun _ => rfl) (by simp +contextual [Piece.parts, Piece.ofExpr?, Piece.ofQuery?])
    exact (Together.optionalExpr hleft hreads).bind fun _ _ =>
      (Tandem.optionalQuery hbody hreads').bindView fun body _ =>
        (Together.quantified _ _ _ _ body.query).bind fun _ hbound =>
          .recordExpr h rfl hbound.spelled hbound.plain

/-- Table references, in tandem. -/
theorem tandem_tables : (tandem a).Tables where
  parenthesizedTable _ _ _ hinner _ h := .optionalTable hinner
    (h.listed (fun _ => rfl) (by simp +contextual [Piece.parts, Piece.ofTable?]))
  named _ ident correlation _ h := by
    have hident : ∀ token ∈ ident, a.part.Mentions token.ident :=
      mentions_of_reads h (List.subset_append_left _ _)
    have hcorrelation : ∀ name ∈ aliasName? correlation, a.part.Mentions name := by
      intro name hname
      obtain ⟨token, htoken, rfl⟩ := Option.map_eq_some_iff.1 hname
      exact mentions_of_reads h (List.subset_append_right _ _) token htoken
    refine (Together.namedTable hident hcorrelation).bind fun it hit => ?_
    obtain ⟨made, rfl, hadmits, hcalls⟩ := hit
    exact .recordTable h rfl hcalls hadmits
  derived _ ident body _ hbody _ h := by
    have hreads : ∀ it ∈ body.toList, a.part.Reads (.query it) :=
      h.listed (fun _ => rfl) (by simp +contextual [Piece.parts, Piece.ofQuery?])
    refine (Tandem.optionalQuery hbody hreads).bindView fun body hbody => ?_
    refine (Together.derivedTable (mentions_of_reads h (List.Subset.refl _)) hbody.1).bind
      fun it hit => ?_
    obtain ⟨made, rfl, hadmits, hcalls⟩ := hit
    exact .recordTable h rfl hcalls hadmits
  joined info kind left right condition _ _ _ hleft hright hcondition _ h := by
    have hreads₁ : ∀ it ∈ left.toList, a.part.Reads (.table it) :=
      h.listed (fun _ => rfl) (by simp +contextual [Piece.parts, Piece.ofTable?])
    have hreads₂ : ∀ it ∈ right.toList, a.part.Reads (.table it) :=
      h.listed (fun _ => rfl) (by simp +contextual [Piece.parts, Piece.ofTable?])
    have hreads₃ : ∀ it ∈ condition.toList, a.part.Reads (.condition it) :=
      h.listed (fun _ => rfl) (by simp +contextual [Piece.parts, Piece.ofTable?])
    refine (Together.optionalTable hleft hreads₁).bind fun left' hleft' => ?_
    refine (Tandem.lateralScope kind hleft').bindView fun lateral hlateral => ?_
    refine (Tandem.within hlateral (Together.optionalTable hright hreads₂)).bindView
      fun right' hright' => ?_
    have hboth := CatalogPair.admits_tables_append hleft' hright'
    refine (Tandem.childScope hboth).bindView fun both hsees => ?_
    refine (Tandem.within hsees ((Together.recordScope info).bind fun _ _ =>
      Together.calledFor hcondition (.pure _ trivial) hreads₃)).bindView fun condition' _ => ?_
    have hcalls : (Piece.table (.joined info left kind right condition)).Calls
        (.table (.joined left' kind right' condition')) := trivial
    exact Together.recordTable h rfl hcalls hboth
  source _ _ _ hitems _ h := .inTurn hitems (fun _ hname => nomatch hname)
    (fun _ _ => CatalogPair.admits_tables_append)
    (h.listed (fun _ => rfl) (by simp +contextual [Piece.parts]))

/-- A `SELECT` and its clauses, in tandem. -/
theorem tandem_selects : (tandem a).Selects where
  column _ _ _ value _ hvalue _ _ h := by
    have hreads : ∀ it ∈ value.toList, a.part.Reads (.expr it) :=
      h.listed (fun _ => rfl) (by simp +contextual [Piece.parts, Piece.ofExpr?])
    exact (Together.optionalExpr hvalue hreads).bind fun bound _ =>
      Together.selectColumn bound h fun it hit => reads_core it (hreads it (Option.mem_toList.2 hit))
  wildcard _ _ _ hinstances _ h := Together.wildcard h hinstances
  head _ _ _ _ items _ hitems hinstances _ h := by
    have hentries : InTurn (fun it => InTandem a (.selectItem it) fun made : Bound.SelectItem =>
        a.Admits (.queryColumns made.output)) items _ := hitems.mono fun _ _ h => h hinstances
    exact .inTurn hentries (fun _ hname => nomatch hname)
      (fun _ _ => CatalogPair.admits_queryColumns_append)
      (h.listed (fun _ => rfl) (by simp +contextual [Piece.parts]))
  grouping _ _ _ hkeys _ h := .all hkeys (h.listed (fun _ => rfl) (by simp +contextual [Piece.parts]))
  select info head source filter having grouping _ _ _ _ _ hsource hfilter hgrouping hhaving hhead _
      h := by
    have hreads₁ : ∀ it ∈ source.toList, a.part.Reads (.fromClause it) :=
      h.listed (fun _ => rfl) (by simp +contextual [Piece.parts])
    have hreads₂ : ∀ it ∈ filter.toList, a.part.Reads (.condition it) :=
      h.listed (fun _ => rfl) (by simp +contextual [Piece.parts])
    have hreads₃ : ∀ it ∈ grouping.toList, a.part.Reads (.groupBy it) :=
      h.listed (fun _ => rfl) (by simp +contextual [Piece.parts])
    have hreads₄ : ∀ it ∈ having.toList, a.part.Reads (.condition it) :=
      h.listed (fun _ => rfl) (by simp +contextual [Piece.parts])
    have hreads₅ : ∀ it ∈ head.toList, a.part.Reads (.selectClause it) :=
      h.listed (fun _ => rfl) (by simp +contextual [Piece.parts])
    refine (Together.calledFor hsource (.pure _ fun _ hname => nomatch hname) hreads₁).bindView
      fun references hreferences => ?_
    refine (Tandem.childScope hreferences).bindView fun inner hinner => ?_
    refine Tandem.bindView ?_ fun bound (hbound : a.Admits (.queryColumns bound.output)) =>
      (Together.limit (rowLimit head) hbound).bindView fun it hit => .recordQuery h rfl ⟨hit, hinner⟩
    have hentries : CalledFor (fun it => InTandem a (.selectClause it) fun made =>
        a.Admits (.queryColumns (made.flatMap Bound.SelectItem.output))) (return []) head _ :=
      (hhead (references.flatMap Bound.TableRef.instances)).mono fun _ _ h => h hreferences
    exact .within hinner ((Together.recordScope info).bind fun _ _ =>
      (Together.calledFor hfilter (.pure _ trivial) hreads₂).bind fun _ _ =>
        (Together.calledFor hgrouping (.pure _ trivial) hreads₃).bind fun _ _ =>
          (Together.calledFor hhaving (.pure _ trivial) hreads₄).bind fun _ _ =>
            (Together.calledFor hentries (.pure _ fun _ hname => nomatch hname) hreads₅).bind
              fun _ hitems => .pure _ hitems)

/-- An `ORDER BY` and its entries, in tandem. -/
theorem tandem_orders : (tandem a).Orders where
  key _ _ _ _ h := h
  position _ _ _ _ column _ _ _ h := by
    have hbound : (Bound.Expr.slot column.slot).Called none := .of_none rfl
    exact .recordExpr h rfl hbound.spelled hbound.plain
  outside _ _ _ _ _ _ _ hkey scope h := (Together.report _ _).bind fun _ _ => hkey scope h
  entry _ _ _ key _ hkey _ h := by
    have hreads : ∀ it ∈ key.toList, a.part.Reads (.expr it) :=
      h.listed (fun _ => rfl) (by simp +contextual [Piece.parts, Piece.ofExpr?])
    exact (Together.calledFor hkey (Together.missingExpr.mono fun _ _ => trivial) hreads).bind
      fun _ _ => .pure _ trivial
  ordered info input items _ _ hinput hitems _ h := by
    have hreads : ∀ it ∈ input.toList, a.part.Reads (.query it) :=
      h.listed (fun _ => rfl) (by simp +contextual [Piece.parts, Piece.ofQuery?])
    have hreads' : ∀ it ∈ items, a.part.Reads (.orderItem it) :=
      h.listed (fun _ => rfl) (by simp +contextual [Piece.parts, Piece.ofQuery?])
    exact .seeing fun hscope => .currentScope ((Tandem.optionalQuery hinput hreads).bindView
      fun input hinput => (Tandem.child hinput.2 hinput.1).bindView fun inner hinner =>
        (Tandem.within hinner ((Together.recordScope info).bind fun _ _ =>
          Together.all (hitems input.query.output) hreads')).bindView fun _ _ =>
            .recordQuery h rfl ⟨hinput.1, hscope⟩)

/-- The other queries, in tandem. -/
theorem tandem_queries : (tandem a).Queries where
  parenthesizedQuery _ inner _ hinner scope h := by
    have hreads : ∀ it ∈ inner.toList, a.part.Reads (.query it) :=
      h.listed (fun _ => rfl) (by simp +contextual [Piece.parts, Piece.ofQuery?])
    exact .seeing fun hscope => .currentScope ((Tandem.optionalQuery hinner hreads).bindView
      fun bound hbound =>
        .pureView (ScopedQuery.mk bound.query scope) (fun providers => ScopedQuery.over (a.served providers))
          ⟨hbound.1, hscope⟩)
  combined info operator left right _ _ hleft hright _ h := by
    have hreads : ∀ it ∈ left.toList, a.part.Reads (.query it) :=
      h.listed (fun _ => rfl) (by simp +contextual [Piece.parts, Piece.ofQuery?])
    have hreads' : ∀ it ∈ right.toList, a.part.Reads (.query it) :=
      h.listed (fun _ => rfl) (by simp +contextual [Piece.parts, Piece.ofQuery?])
    exact .seeing fun hscope => .currentScope ((Tandem.optionalQuery hleft hreads).bindView
      fun left hleft => (Tandem.optionalQuery hright hreads').bindView fun right _ =>
        (Together.combine info operator right.query hleft.1).bindView fun it hit =>
          .recordQuery h rfl ⟨hit, hscope⟩)
  definition earlier info ident columns body first hbody hearlier scope h := by
    have hreads : ∀ it ∈ body.toList, a.part.Reads (.query it) :=
      h.listed (fun _ => rfl) (by simp +contextual [Piece.parts, Piece.ofQuery?])
    -- the definition, once it is clear which scope its query sees
    have hdefinition : ∀ inner : Scope, a.Sees inner → Tandem a scope (do
        let body ← within inner do
          recordScope info
          first
        define info ident columns body.query) (fun providers => do
        let body ← within (inner.over (a.served providers)) do
          recordScope info
          first
        define info ident columns body.query) (fun _ => id)
        fun made => a.Admits (.commonTables [made.symbol]) := by
      intro inner hinner
      refine (Tandem.within hinner ((Together.recordScope info).bindView fun _ _ =>
        Tandem.optionalQuery hbody hreads)).bindView fun body hbody => ?_
      exact Together.define h hbody.1
    unfold Together
    split
    · exact .seeing fun hscope => .currentScope (hdefinition scope hscope)
    · exact (Tandem.childScope hearlier).bindView hdefinition
  withTables info definitions body _ _ hdefinitions hbody _ h := by
    have hreads : ∀ it ∈ definitions, a.part.Reads (.commonTable it) :=
      h.listed (fun _ => rfl) (by simp +contextual [Piece.parts, Piece.ofQuery?])
    have hreads' : ∀ it ∈ body.toList, a.part.Reads (.query it) :=
      h.listed (fun _ => rfl) (by simp +contextual [Piece.parts, Piece.ofQuery?])
    have hnone : a.Admits (.commonTables []) := fun _ hname => absurd hname List.not_mem_nil
    refine .seeing fun hscope => .currentScope ?_
    refine (Together.definitions hdefinitions hnone hreads).bindView fun made hmade => ?_
    refine (Tandem.childScope hmade).bindView fun inner hinner => ?_
    refine Tandem.bindView (.within hinner ((Together.recordScope info).bindView fun _ _ =>
      Tandem.optionalQuery hbody hreads')) fun body hbody => ?_
    exact .recordQuery h rfl ⟨hbody.1, hscope⟩

/-- **Binding is done in tandem.** -/
theorem tandem_closed : (tandem a).Closed :=
  ⟨tandem_leaves, tandem_operations, tandem_branches, tandem_members, tandem_subqueries,
    tandem_tables, tandem_selects, tandem_orders, tandem_queries⟩

/-! ## Passes -/

/-- **What a node is read as** is bound in tandem. -/
theorem piece_tandem {it : Piece} {scope : Scope} (h : a.part.Reads it) :
    Together a scope (piece it) fun _ => True := by
  unfold piece
  split
  next info it expression =>
    have hquery : a.part.Reads (.query it) := h.of_part (by simp [Piece.parts, Piece.ofQuery?]) rfl
    exact (tandem_closed.query it scope hquery).bindView fun _ _ => Together.pure _ trivial
  next it => exact (tandem_closed.query it scope h).bindView fun _ _ => Together.pure _ trivial
  next info it =>
    have hexpr : a.part.Reads (.expr it) := h.of_part (by simp [Piece.parts, Piece.ofExpr?]) rfl
    exact (tandem_closed.expr it scope hexpr).bind fun _ _ => .pure _ trivial
  next it => exact (tandem_closed.expr it scope h).bind fun _ _ => .pure _ trivial
  · exact .pure _ trivial

/-- **The pass over a tree** comes to a fine state behind some questions. Over another catalog it comes to
the same one, whichever providers there are that share the answers to these questions.

**Proof sketch.** The scope of the pass has no links, and so no names. From there on the walk only adds
links whose names are in play. -/
theorem pass_tandem (next : SymbolId) {scope : Scope} (hscope : a.Sees scope) :
    ∃ series, a.Fine series (pass a.part (a.env scope) (.start next)).2 ∧
      ∀ providers, a.Shares providers series → pass a.part (a.env' providers scope) (.start next) =
        ((), (pass a.part (a.env scope) (.start next)).2.over (a.served providers)) := by
  have htogether : Together a scope (pass a.part) fun _ => True := by
    unfold pass
    split
    next info hinfo =>
      exact (Together.recordScope info).bind fun _ _ =>
        piece_tandem ⟨a.part, Located.mem_nodes_self hinfo, rfl⟩
    · exact .pure _ trivial
  obtain ⟨series, hover, hfine, -⟩ := htogether hscope [] (.start next) (.start a next)
  exact ⟨series, hfine, hover⟩

end Binding

end QuerySemantics
