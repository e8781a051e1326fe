import QuerySemantics.Binding.Result
import QuerySemantics.Proofs.Ast.Complete
import QuerySemantics.Proofs.Binding.Typing
import QuerySemantics.Proofs.Binding.Walk

/-!
# The walk of a clean pass

Binding a complete piece in sound surroundings either reports something or gives a sound node. For each
form of node this follows from what binding its parts gives; the rules for nodes whose parts are bound
are those of a clean pass.

## Main definitions

* `Binding.cleans`: the judgment that binding a complete node gives a sound one or reports something.

## Main results

* `Binding.cleans_closed`: binding complete syntax is clean.
-/

set_option autoImplicit false

namespace QuerySemantics

namespace Binding

/-! ## Rules for forms -/

/-- A sound query in a sound scope, for an `ORDER BY` to look into. -/
def ScopedQuery.Sound (it : ScopedQuery) : Prop :=
  it.query.Sound ∧ it.inner.Sound

/-- A column at a position is one of the columns. -/
theorem mem_of_columnAt? {columns : List QueryColumn} {position : Int} {column : QueryColumn}
    (h : columnAt? columns position = some column) : column ∈ columns := by
  unfold columnAt? at h
  split at h
  · exact List.mem_of_getElem? h
  · cases h

/-- Recording a sound query. -/
theorem Clean.recordQuery {env : Env} {given : Prop} {query : Bound.Query} {inner : Scope}
    (info : NodeInfo) (hquery : given → query.Sound) (hinner : given → inner.Sound) :
    Clean env given (recordQuery info query inner) ScopedQuery.Sound :=
  (record hquery).bind fun _ => .pure fun hgiven => ⟨hquery hgiven.1, hinner hgiven.1⟩

/-- Working in a sound scope that a node enters. -/
theorem Clean.entering {α : Type} {env : Env} {given : Prop} {scope : Scope} {body : BindM α}
    {post : α → Prop} (info : NodeInfo) (hscope : given → scope.Sound)
    (h : Clean { env with scope } given body post) :
    Clean env given (Binding.within scope do
      Binding.recordScope info
      body) post :=
  within hscope (recordScope.bind fun _ => h.mono And.left fun _ _ => id)

/-! ## Parts -/

/-- **Clean binding**: given what the computation needs, it gives a value as described or reports
something. -/
def Cleans {α : Type} (needs : Prop) (post : α → Prop) (body : BindM α) : Prop :=
  ∀ env (given : Prop), (given → needs) → Clean env given body post

section Parts

variable {α β : Type} {needs : α → Prop} {post : β → Prop} {env : Env} {given : Prop}

/-- A part that is called for has to be there. -/
theorem Clean.calledFor {instead body : BindM β} {it : Option α}
    (h : CalledFor (fun it => Cleans (needs it) post) instead it body)
    (hmissing : Cleans False post instead)
    (hneeds : given → it.isSome = true ∧ ∀ inner ∈ it, needs inner) : Clean env given body post := by
  cases h with
  | given h => exact h env given fun hgiven => (hneeds hgiven).2 _ rfl
  | missing => exact hmissing env given fun hgiven => Bool.false_ne_true (hneeds hgiven).1

/-- A part that need not be there. -/
theorem Clean.ifAny {body : BindM (Option β)} {it : Option α}
    (h : IfAny (fun it => Cleans (needs it) post) it body) (hneeds : given → ∀ inner ∈ it, needs inner) :
    Clean env given body fun bound => ∀ value ∈ bound, post value := by
  cases h with
  | given h =>
    refine (h env given fun hgiven => hneeds hgiven _ rfl).bind fun value => .pure fun hgiven => ?_
    rintro _ ⟨⟩
    exact hgiven.2
  | missing => exact .pure fun _ => nofun

/-- A list of parts that need not be there. -/
theorem Clean.listed {body : BindM (List β)} {it : Option α}
    (h : CalledFor (fun it => Cleans (needs it) fun bound => ∀ value ∈ bound, post value)
      (return []) it body) (hneeds : given → ∀ inner ∈ it, needs inner) :
    Clean env given body fun bound => ∀ value ∈ bound, post value := by
  cases h with
  | given h => exact h env given fun hgiven => hneeds hgiven _ rfl
  | missing => exact .pure fun _ => by simp

/-- Parts one after the other: as many values as parts. -/
theorem Clean.inTurn {body : BindM (List β)} {items : List α}
    (h : InTurn (fun it => Cleans (needs it) post) items body)
    (hneeds : given → ∀ it ∈ items, needs it) :
    Clean env given body fun bound => (∀ value ∈ bound, post value) ∧ bound.length = items.length := by
  induction h generalizing given with
  | nil => exact .pure fun _ => ⟨by simp, rfl⟩
  | cons hfirst _ ih =>
    refine (hfirst env given fun hgiven => hneeds hgiven _ List.mem_cons_self).bind fun first => ?_
    refine (ih fun hgiven it hit => hneeds hgiven.1 it (List.mem_cons_of_mem _ hit)).bind
      fun others => .pure fun hgiven => ?_
    exact ⟨List.forall_mem_cons.2 ⟨hgiven.1.2, hgiven.2.1⟩, congrArg Nat.succ hgiven.2.2⟩

/-- All values of parts one after the other are as described. -/
theorem Clean.all {body : BindM (List β)} {items : List α}
    (h : InTurn (fun it => Cleans (needs it) post) items body)
    (hneeds : given → ∀ it ∈ items, needs it) :
    Clean env given body fun bound => ∀ value ∈ bound, post value :=
  (Clean.inTurn h hneeds).value fun _ _ h => h.1

end Parts

/-! ## The judgment -/

/-- **Binding a complete node gives a sound one**, or reports something. Entries of a select list need
sound instances, keys of an `ORDER BY` columns of known types, and definitions sound ones before them. -/
def cleans : Judgment where
  Expr it := Cleans (Piece.expr it).Complete (·.Sound)
  Arguments it := Cleans (Piece.arguments it).Complete fun bound => ∀ value ∈ bound, value.Sound
  Label input it := Cleans (Piece.caseLabel it).Complete fun bound =>
    (Bound.Node.caseLabel bound).Sound ∧ Bound.Fits input bound.condition
  Condition _ it := Cleans (Piece.condition it).Complete fun bound =>
    Bound.IsCondition bound ∧ ∀ value ∈ bound, value.Sound
  Table it := Cleans (Piece.table it).Complete (·.Sound)
  Source it := Cleans (Piece.fromClause it).Complete fun bound => ∀ table ∈ bound, table.Sound
  Grouping it := Cleans (Piece.groupBy it).Complete fun bound => ∀ value ∈ bound, value.Sound
  Item instances it := Cleans ((∀ table ∈ instances, table.Sound) ∧ (Piece.selectItem it).Complete)
    fun bound => (Bound.Node.selectItem bound).Sound
  Head instances it := Cleans ((∀ table ∈ instances, table.Sound) ∧ (Piece.selectClause it).Complete)
    fun bound => ∀ item ∈ bound, (Bound.Node.selectItem item).Sound
  Key columns it := Cleans (QueryColumn.AllKnown columns ∧ (Piece.expr it).Complete) (·.Sound)
  Entry columns it := Cleans (QueryColumn.AllKnown columns ∧ (Piece.orderItem it).Complete)
    (·.key.Sound)
  Definition earlier it := Cleans ((∀ table ∈ earlier, table.Sound) ∧ (Piece.commonTable it).Complete)
    fun bound => (Bound.Node.definition bound).Sound
  Query it := Cleans (Piece.query it).Complete ScopedQuery.Sound

section Parts

variable {env : Env} {given : Prop}

/-- Expressions that are called for. -/
theorem Clean.optionalExpr {it : Option Ast.Expr} {body : BindM Bound.Expr}
    (h : cleans.OptionalExpr it body) (hfilled : given → it.isSome = true)
    (hcomplete : given → ∀ inner ∈ it, (Piece.expr inner).Complete) :
    Clean env given body (·.Sound) :=
  calledFor h (fun _ _ => .missingExpr) fun hgiven => ⟨hfilled hgiven, hcomplete hgiven⟩

/-- Table references that are called for. -/
theorem Clean.optionalTable {it : Option Ast.TableRef} {body : BindM Bound.TableRef}
    (h : cleans.OptionalTable it body) (hfilled : given → it.isSome = true)
    (hcomplete : given → ∀ inner ∈ it, (Piece.table inner).Complete) :
    Clean env given body (·.Sound) :=
  calledFor h (fun _ _ => .missingTable) fun hgiven => ⟨hfilled hgiven, hcomplete hgiven⟩

/-- Queries that are called for: a missing one is sound. -/
theorem Clean.optionalQuery {it : Option Ast.Query} {body : BindM ScopedQuery}
    (h : cleans.OptionalQuery it body)
    (hcomplete : given → ∀ inner ∈ it, (Piece.query inner).Complete) :
    Clean env given body ScopedQuery.Sound := by
  cases h with
  | given h => exact h env given fun hgiven => hcomplete hgiven _ rfl
  | missing =>
    exact Clean.currentScope.bind fun scope => .pure fun hgiven =>
      ⟨Bound.Query.sound_empty, hgiven.2.2⟩

/-- Conditions that need not be there: they are truth values. -/
theorem Clean.conditionIfAny {place : ConditionPlace} {it : Option Ast.Condition}
    {body : BindM (Option Bound.Expr)} (h : CalledFor (cleans.Condition place) (return none) it body)
    (hcomplete : given → ∀ inner ∈ it, (Piece.condition inner).Complete) :
    Clean env given body fun bound => Bound.IsCondition bound ∧ ∀ value ∈ bound, value.Sound := by
  cases h with
  | given h => exact h env given fun hgiven => hcomplete hgiven _ rfl
  | missing => exact .pure fun _ => ⟨nofun, nofun⟩

/-- Definitions one after the other, behind sound ones. -/
theorem Clean.definitions {earlier : List CommonTable} {items : List Ast.CommonTable}
    {body : BindM (List Bound.Definition)} (h : DefinedInTurn cleans.Definition earlier items body)
    (hearlier : given → ∀ table ∈ earlier, table.Sound)
    (hcomplete : given → ∀ it ∈ items, (Piece.commonTable it).Complete) :
    Clean env given body fun bound => ∀ it ∈ bound, (Bound.Node.definition it).Sound := by
  induction h generalizing given with
  | nil => exact .pure fun _ => by simp
  | cons hfirst _ ih =>
    refine (hfirst env given fun hgiven =>
      ⟨hearlier hgiven, hcomplete hgiven _ List.mem_cons_self⟩).bind fun definition => ?_
    refine (ih definition (fun hgiven => ?_) fun hgiven it hit =>
      hcomplete hgiven.1 it (List.mem_cons_of_mem _ hit)).bind fun others => .pure fun hgiven => ?_
    · exact List.forall_mem_append.2
        ⟨hearlier hgiven.1, List.forall_mem_singleton.2 hgiven.2.typed⟩
    · exact List.forall_mem_cons.2 ⟨hgiven.1.2, hgiven.2⟩

end Parts

/-! ## The rules -/

/-- Clean binding of expressions without parts. -/
theorem cleans_leaves : cleans.Leaves where
  name _ _ _ _ h := (Clean.name fun hgiven => (h hgiven).filled).bind fun _ => .recordExpr And.right
  parameter info _ _ _ h := (Clean.hostVariable info fun hgiven => (h hgiven).filled).bind fun _ =>
    .recordExpr And.right
  literal _ _ _ _ h := (Clean.literal fun hgiven => (h hgiven).filled).bind fun _ =>
    .recordExpr And.right
  countAll info _ _ _ h := (Clean.countAll info fun hgiven => (h hgiven).filled).bind fun _ =>
    .recordExpr And.right
  nameless info target ident hnone env given h := by
    have hfilled : given → False := fun hgiven => by
      have hfilled := (h hgiven).filled
      rcases hnone with rfl | rfl
      · exact Bool.false_ne_true hfilled.1
      · exact Bool.false_ne_true hfilled.2
    exact (Clean.missingExpr hfilled).bind fun _ => .recordExpr And.right

/-- Clean binding of operators and of the conditions of clauses. -/
theorem cleans_operations : cleans.Operations where
  parenthesized _ _ _ hinner _ _ h := .optionalExpr hinner (fun hgiven => (h hgiven).filled)
    fun hgiven it hit => (h hgiven).part (by simp_all [Piece.parts, Piece.ofExpr?])
  unary info operator _ _ hoperand _ _ h := by
    refine (Clean.optionalExpr hoperand (fun hgiven => (h hgiven).filled.2) fun hgiven it hit =>
      (h hgiven).part (by simp_all [Piece.parts, Piece.ofExpr?])).bind fun value => ?_
    exact (Clean.unary info (fun hgiven => (h hgiven.1).filled.1) And.right).bind fun _ =>
      .recordExpr And.right
  binary info _ _ _ _ _ _ hleft hright _ _ h := by
    refine (Clean.optionalExpr hleft (fun hgiven => (h hgiven).filled.1) fun hgiven it hit =>
      (h hgiven).part (by simp_all [Piece.parts, Piece.ofExpr?])).bind fun left' => ?_
    refine (Clean.optionalExpr hright (fun hgiven => (h hgiven.1).filled.2.1) fun hgiven it hit =>
      (h hgiven.1).part (by simp_all [Piece.parts, Piece.ofExpr?])).bind fun right' => ?_
    exact (Clean.binary info (fun hgiven => (h hgiven.1.1).filled.2.2) (·.1.2) And.right).bind
      fun _ => .recordExpr And.right
  cast info _ _ _ hoperand _ _ h := by
    refine (Clean.optionalExpr hoperand (fun hgiven => (h hgiven).filled.1) fun hgiven it hit =>
      (h hgiven).part (by simp_all [Piece.parts, Piece.ofExpr?])).bind fun value => ?_
    exact (Clean.cast info And.right fun hgiven => (h hgiven.1).filled.2).bind fun _ =>
      .recordExpr And.right
  isNull _ _ _ _ hoperand _ _ h := by
    refine (Clean.optionalExpr hoperand (fun hgiven => (h hgiven).filled) fun hgiven it hit =>
      (h hgiven).part (by simp_all [Piece.parts, Piece.ofExpr?])).bind fun value => ?_
    exact .recordExpr fun hgiven => .plain rfl SqlType.known_boolean trivial
      (List.forall_mem_singleton.2 hgiven.2)
  condition info place _ _ hpredicate _ _ h := by
    refine (Clean.optionalExpr hpredicate (fun hgiven => (h hgiven).filled) fun hgiven it hit =>
      (h hgiven).part (by simp_all [Piece.parts, Piece.ofExpr?])).bind fun bound => ?_
    refine (Clean.checkCondition info.span place bound).bind fun _ => .pure fun hgiven => ?_
    exact ⟨fun _ hvalue => Option.mem_some.1 hvalue ▸ hgiven.2,
      fun _ hvalue => Option.mem_some.1 hvalue ▸ hgiven.1.2⟩

/-- Clean binding of a `CASE`, the labels of which fit it. -/
theorem cleans_branches : cleans.Branches where
  label input _ condition _ _ _ hcondition hresult _ _ h := by
    refine (Clean.optionalExpr hcondition (fun hgiven => (h hgiven).filled.1) fun hgiven it hit =>
      (h hgiven).part (by simp_all [Piece.parts, Piece.ofExpr?])).bind fun bound => ?_
    refine (Clean.checkLabel input bound fun hgiven => (h hgiven.1).filled.1).bind fun _ => ?_
    refine (Clean.optionalExpr hresult (fun hgiven => (h hgiven.1.1).filled.2) fun hgiven it hit =>
      (h hgiven.1.1).part (by simp_all [Piece.parts, Piece.ofExpr?])).bind fun result' => ?_
    refine Clean.bind (Clean.record fun hgiven => ?sound) fun _ => .pure fun hgiven =>
      ⟨?_, hgiven.1.1.2⟩
    case sound =>
      exact .intro trivial (List.forall_mem_cons.2
        ⟨hgiven.1.1.2, List.forall_mem_singleton.2 hgiven.2⟩)
    exact .intro trivial (List.forall_mem_cons.2
      ⟨hgiven.1.1.1.2, List.forall_mem_singleton.2 hgiven.1.2⟩)
  cases info input otherwise labels _ _ _ hinput hlabels hotherwise _ _ h := by
    refine (Clean.ifAny hinput fun hgiven it hit =>
      (h hgiven).part (by simp_all [Piece.parts, Piece.ofExpr?])).bind fun input' => ?_
    refine (Clean.inTurn (hlabels input') fun hgiven label hlabel =>
      (h hgiven.1).part (by simp_all [Piece.parts])).bind fun labels' => ?_
    refine (Clean.ifAny hotherwise fun hgiven it hit =>
      (h hgiven.1.1).part (by simp_all [Piece.parts, Piece.ofExpr?])).bind fun otherwise' => ?_
    refine (Clean.caseOf info (·.1.1.2) (fun hgiven => ?_) (·.1.2.1) And.right).bind fun _ =>
      .recordExpr And.right
    -- a complete `CASE` has a label
    rw [← List.length_pos_iff, hgiven.1.2.2, List.length_pos_iff]
    exact (h hgiven.1.1.1).filled

/-- Clean binding of properties, methods and calls. -/
theorem cleans_members : cleans.Members where
  property _ ident target _ _ htarget env given h := by
    refine (htarget env given fun hgiven =>
      (h hgiven).part (by simp [Piece.parts, Piece.ofExpr?])).bind fun target' => ?_
    exact (Clean.property ident And.right).bind fun _ => .recordExpr And.right
  qualified info node token ident _ htarget env given h := by
    refine (Clean.qualified _ _ _).bind fun decided => ?_
    cases decided with
    | some it => exact .recordExpr fun hgiven => hgiven.2 it rfl
    | none =>
      refine (htarget env _ fun hgiven =>
        (h hgiven.1).part (by simp [Piece.parts, Piece.ofExpr?])).bind fun target' => ?_
      exact (Clean.property ident And.right).bind fun _ => .recordExpr And.right
  method info _ _ _ _ _ htarget harguments _ _ h := by
    refine (Clean.optionalExpr htarget (fun hgiven => (h hgiven).filled.1) fun hgiven it hit =>
      (h hgiven).part (by simp_all [Piece.parts, Piece.ofExpr?])).bind fun target' => ?_
    refine (Clean.listed harguments fun hgiven list hlist =>
      (h hgiven.1).part (by simp_all [Piece.parts])).bind fun arguments' => ?_
    exact (Clean.method info (fun hgiven => (h hgiven.1.1).filled.2) (·.1.2) And.right).bind
      fun _ => .recordExpr And.right
  call info _ _ _ harguments _ _ h := by
    refine (Clean.listed harguments fun hgiven list hlist =>
      (h hgiven).part (by simp_all [Piece.parts])).bind fun arguments' => ?_
    exact (Clean.call info (fun hgiven => (h hgiven.1).filled) And.right).bind fun _ =>
      .recordExpr And.right
  arguments _ _ _ hitems _ _ h := .all hitems fun hgiven it hit =>
    (h hgiven).part (by simp_all [Piece.parts])

/-- Clean binding of expressions with a query in them. -/
theorem cleans_subqueries : cleans.Subqueries where
  subselect info _ _ hbody _ _ h := by
    refine (Clean.optionalQuery hbody fun hgiven it hit =>
      (h hgiven).part (by simp_all [Piece.parts, Piece.ofQuery?])).bind fun body' => ?_
    exact (Clean.subselect info (·.2.1)).bind fun _ => .recordExpr And.right
  existence _ _ _ hbody _ _ h := by
    refine (Clean.optionalQuery hbody fun hgiven it hit =>
      (h hgiven).part (by simp_all [Piece.parts, Piece.ofQuery?])).bind fun body' => ?_
    exact .recordExpr fun hgiven => .plain rfl SqlType.known_boolean trivial
      (List.forall_mem_singleton.2 hgiven.2.1)
  quantified info _ quantifier _ _ _ _ hleft hbody _ _ h := by
    refine (Clean.optionalExpr hleft (fun hgiven => (h hgiven).filled.1) fun hgiven it hit =>
      (h hgiven).part (by simp_all [Piece.parts, Piece.ofExpr?])).bind fun left' => ?_
    refine (Clean.optionalQuery hbody fun hgiven it hit =>
      (h hgiven.1).part (by simp_all [Piece.parts, Piece.ofQuery?])).bind fun body' => ?_
    exact (Clean.quantified info quantifier (fun hgiven => (h hgiven.1.1).filled.2) (·.1.2)
      (·.2.1)).bind fun _ => .recordExpr And.right

/-- Clean binding of table references. -/
theorem cleans_tables : cleans.Tables where
  parenthesizedTable _ _ _ hinner _ _ h := .optionalTable hinner (fun hgiven => (h hgiven).filled)
    fun hgiven it hit => (h hgiven).part (by simp_all [Piece.parts, Piece.ofTable?])
  named _ _ correlation _ _ h :=
    (Clean.namedTable correlation fun hgiven => (h hgiven).filled).bind fun _ => .recordTable And.right
  derived _ ident _ _ hbody _ _ h := by
    refine (Clean.optionalQuery hbody fun hgiven it hit =>
      (h hgiven).part (by simp_all [Piece.parts, Piece.ofQuery?])).bind fun body' => ?_
    exact (Clean.derivedTable ident (·.2.1)).bind fun _ => .recordTable And.right
  joined info kind _ _ _ _ _ _ hleft hright hcondition _ _ h := by
    refine (Clean.optionalTable hleft (fun hgiven => (h hgiven).filled.1) fun hgiven it hit =>
      (h hgiven).part (by simp_all [Piece.parts, Piece.ofTable?])).bind fun left' => ?_
    refine (Clean.lateralScope kind And.right).bind fun lateral => ?_
    refine (Clean.within And.right (.optionalTable hright (fun hgiven => (h hgiven.1.1).filled.2)
      fun hgiven it hit => (h hgiven.1.1).part
        (by simp_all [Piece.parts, Piece.ofTable?]))).bind fun right' => ?_
    refine Clean.bind (Clean.childScope fun hgiven => ?both) fun both => ?_
    case both =>
      exact List.forall_mem_append.2
        ⟨Bound.TableRef.Sound.instances hgiven.1.1.2, Bound.TableRef.Sound.instances hgiven.2⟩
    refine (Clean.entering info And.right (.conditionIfAny hcondition fun hgiven it hit =>
      (h hgiven.1.1.1.1).part (by simp_all [Piece.parts]))).bind fun condition' => ?_
    refine .recordTable fun hgiven => ?_
    obtain ⟨⟨⟨⟨⟨_, hleft⟩, _⟩, hright⟩, _⟩, hcondition⟩ := hgiven
    refine .intro hcondition.1 ?_
    exact List.forall_mem_cons.2 ⟨hleft, List.forall_mem_cons.2
      ⟨hright, List.forall_mem_map.2 fun it hit => hcondition.2 it (Option.mem_toList.1 hit)⟩⟩
  source _ _ _ hitems _ _ h := .all hitems fun hgiven it hit =>
    (h hgiven).part (by simp_all [Piece.parts])

/-- The tables of a `FROM` that is bound cleanly are sound. -/
theorem sound_of_mem_instances {references : List Bound.TableRef} (h : ∀ it ∈ references, it.Sound) :
    ∀ table ∈ references.flatMap Bound.TableRef.instances, table.Sound := by
  intro table htable
  obtain ⟨reference, hreference, htable⟩ := List.mem_flatMap.1 htable
  exact Bound.TableRef.Sound.instances (h reference hreference) table htable

/-- **A `SELECT` of sound parts is sound.** -/
theorem sound_select {distinct : Bool} {references : List Bound.TableRef}
    {filter having : Option Bound.Expr} {grouping : List Bound.Expr} {items : List Bound.SelectItem}
    (hreferences : ∀ it ∈ references, it.Sound)
    (hfilter : Bound.IsCondition filter ∧ ∀ value ∈ filter, value.Sound)
    (hgrouping : ∀ value ∈ grouping, value.Sound)
    (hhaving : Bound.IsCondition having ∧ ∀ value ∈ having, value.Sound)
    (hitems : ∀ it ∈ items, (Bound.Node.selectItem it).Sound) :
    (Bound.Query.select distinct references filter grouping having items).Sound := by
  refine .intro ⟨fun column hcolumn => ?_, hfilter.1, hhaving.1⟩ ?_
  · obtain ⟨item, hitem, hcolumn⟩ := List.mem_flatMap.1 hcolumn
    exact Bound.SelectItem.output_known (hitems item hitem) column hcolumn
  · simp only [Bound.Node.parts, Bound.Query.parts, List.mem_append, List.mem_map,
      Option.mem_toList]
    rintro part ((((⟨it, hit, rfl⟩ | ⟨it, hit, rfl⟩) | ⟨it, hit, rfl⟩) | ⟨it, hit, rfl⟩) |
      ⟨it, hit, rfl⟩)
    · exact hreferences it hit
    · exact hfilter.2 it hit
    · exact hgrouping it hit
    · exact hhaving.2 it hit
    · exact hitems it hit

/-- Clean binding of a `SELECT` and its clauses. -/
theorem cleans_selects : cleans.Selects where
  column _ info correlation value _ hvalue _ _ h := by
    refine (Clean.optionalExpr hvalue (fun hgiven => (h hgiven).2.filled) fun hgiven it hit =>
      (h hgiven).2.part (by simp_all [Piece.parts, Piece.ofExpr?])).bind fun bound => ?_
    exact Clean.selectColumn info value correlation And.right
  wildcard _ info token _ _ h := Clean.wildcard info token fun hgiven => (h hgiven).1
  head _ _ _ _ _ _ hitems _ _ h := .all hitems fun hgiven it hit =>
    ⟨(h hgiven).1, (h hgiven).2.part (by simp_all [Piece.parts])⟩
  grouping _ _ _ hkeys _ _ h := .all hkeys fun hgiven it hit =>
    (h hgiven).part (by simp_all [Piece.parts])
  select info head source filter having grouping _ second fourth third fifth hsource hfilter hgrouping
      hhaving hhead env given h := by
    refine (Clean.listed hsource fun hgiven it hit =>
      (h hgiven).part (by simp_all [Piece.parts])).bind fun references => ?_
    have hinstances : given ∧ (∀ it ∈ references, it.Sound) →
        (Frame.tables (references.flatMap Bound.TableRef.instances)).Sound :=
      fun hgiven => sound_of_mem_instances hgiven.2
    refine (Clean.childScope hinstances).bind fun inner => ?_
    have hbody : Clean { env with scope := inner } ((given ∧ ∀ it ∈ references, it.Sound) ∧ inner.Sound)
        (do
          let filter ← second
          let grouping ← third
          let having ← fourth
          let items ← fifth (references.flatMap Bound.TableRef.instances)
          return Bound.Query.select (isDistinct head) references filter grouping having items)
        (·.Sound) := by
      refine (Clean.conditionIfAny hfilter fun hgiven it hit =>
        (h hgiven.1.1).part (by simp_all [Piece.parts])).bind fun filter' => ?_
      refine (Clean.listed hgrouping fun hgiven it hit =>
        (h hgiven.1.1.1).part (by simp_all [Piece.parts])).bind fun grouping' => ?_
      refine (Clean.conditionIfAny hhaving fun hgiven it hit =>
        (h hgiven.1.1.1.1).part (by simp_all [Piece.parts])).bind fun having' => ?_
      refine (Clean.listed (hhead _) fun hgiven it hit => ⟨sound_of_mem_instances hgiven.1.1.1.1.2,
        (h hgiven.1.1.1.1.1).part (by simp_all [Piece.parts])⟩).bind fun items => .pure fun hgiven => ?_
      obtain ⟨⟨⟨⟨⟨⟨_, hreferences⟩, _⟩, hfilter⟩, hgrouping⟩, hhaving⟩, hitems⟩ := hgiven
      exact sound_select hreferences hfilter hgrouping hhaving hitems
    refine (Clean.entering info And.right hbody).bind fun bound => ?_
    refine (Clean.limit (rowLimit head) And.right).bind fun query => ?_
    exact .recordQuery info And.right (·.1.1.2)

/-- Clean binding of an `ORDER BY` behind columns of known types. -/
theorem cleans_orders : cleans.Orders where
  key _ _ _ _ hit env given h := hit env given fun hgiven => (h hgiven).2
  position _ _ _ _ _ _ hcolumn _ _ h := .recordExpr fun hgiven =>
    .plain rfl ((h hgiven).1 _ (mem_of_columnAt? hcolumn)) trivial (List.forall_mem_nil _)
  outside _ _ _ _ _ _ _ hit env given _ :=
    (Clean.report _ _).bind fun _ => hit env _ fun hgiven => hgiven.2.elim
  entry _ _ _ _ _ hkey _ _ h := by
    refine (Clean.calledFor hkey (fun _ _ => .missingExpr) fun hgiven =>
      ⟨(h hgiven).2.filled, fun it hit => ⟨(h hgiven).1, (h hgiven).2.part
        (by simp_all [Piece.parts, Piece.ofExpr?])⟩⟩).bind fun bound => ?_
    exact .pure And.right
  ordered info input items _ _ hinput hitems env given h := by
    refine Clean.currentScope.bind fun scope => ?_
    refine (Clean.optionalQuery hinput fun hgiven it hit =>
      (h hgiven.1).part (by simp_all [Piece.parts, Piece.ofQuery?])).bind fun input' => ?_
    have hcolumns : (given ∧ scope = env.scope ∧ scope.Sound) ∧ input'.Sound →
        (Frame.queryColumns input'.query.output).Sound := fun hgiven =>
      Bound.Node.Sound.output hgiven.2.1
    refine (Clean.child (·.2.2) hcolumns).bind fun inner => ?_
    refine (Clean.entering info And.right (.all (hitems input'.query.output) fun hgiven it hit =>
      ⟨Bound.Node.Sound.output hgiven.1.2.1, (h hgiven.1.1.1).part
        (by simp_all [Piece.parts])⟩)).bind fun keys => ?_
    refine .recordQuery info (fun hgiven => ?_) (·.1.1.1.2.2)
    obtain ⟨⟨⟨_, hinput⟩, _⟩, hkeys⟩ := hgiven
    have houtput : QueryColumn.AllKnown input'.query.output := Bound.Node.Sound.output hinput.1
    exact .intro ⟨houtput, trivial⟩
      (List.forall_mem_cons.2 ⟨hinput.1, List.forall_mem_map.2 hkeys⟩)

/-- Clean binding of the other queries. -/
theorem cleans_queries : cleans.Queries where
  parenthesizedQuery _ _ _ hinner _ _ h := by
    refine Clean.currentScope.bind fun scope => ?_
    refine (Clean.optionalQuery hinner fun hgiven it hit =>
      (h hgiven.1).part (by simp_all [Piece.parts, Piece.ofQuery?])).bind fun bound => ?_
    exact .pure fun hgiven => ⟨hgiven.2.1, hgiven.1.2.2⟩
  combined info operator _ _ _ _ hleft hright _ _ h := by
    refine Clean.currentScope.bind fun scope => ?_
    refine (Clean.optionalQuery hleft fun hgiven it hit =>
      (h hgiven.1).part (by simp_all [Piece.parts, Piece.ofQuery?])).bind fun left' => ?_
    refine (Clean.optionalQuery hright fun hgiven it hit =>
      (h hgiven.1.1).part (by simp_all [Piece.parts, Piece.ofQuery?])).bind fun right' => ?_
    refine (Clean.combine info operator (·.1.2.1) (·.2.1)).bind fun query => ?_
    exact .recordQuery info And.right (·.1.1.1.2.2)
  definition earlier info ident columns body first hbody env given h := by
    -- the definition, once it is clear which scope its query sees
    have hrest : ∀ scope : Scope, Clean env (given ∧ scope.Sound) (do
        let body ← Binding.within scope do
          recordScope info
          first
        define info ident columns body.query) fun bound => (Bound.Node.definition bound).Sound := by
      intro scope
      refine (Clean.entering info And.right (.optionalQuery hbody fun hgiven it hit =>
        (h hgiven.1).2.part (by simp_all [Piece.parts, Piece.ofQuery?]))).bind fun bound => ?_
      exact Clean.define info ident columns (·.2.1)
    split
    · exact (Clean.currentScope.value fun _ _ hscope => hscope.2).bind hrest
    · have hearlier : given → (Frame.commonTables earlier).Sound := fun hgiven => (h hgiven).1
      exact (Clean.childScope hearlier).bind hrest
  withTables info definitions body _ _ hdefinitions hbody _ _ h := by
    refine Clean.currentScope.bind fun scope => ?_
    refine (Clean.definitions hdefinitions (fun _ => by simp) fun hgiven it hit =>
      (h hgiven.1).part (by simp_all [Piece.parts])).bind fun definitions' => ?_
    refine Clean.bind (Clean.childScope fun hgiven => ?tables) fun inner => ?_
    case tables => exact List.forall_mem_map.2 fun it hit => (hgiven.2 it hit).typed
    refine (Clean.entering info And.right (.optionalQuery hbody fun hgiven it hit =>
      (h hgiven.1.1.1).part (by simp_all [Piece.parts, Piece.ofQuery?]))).bind fun body' => ?_
    refine .recordQuery info (fun hgiven => ?_) (·.1.1.1.2.2)
    obtain ⟨⟨⟨_, hdefinitions⟩, _⟩, hbody⟩ := hgiven
    have houtput : QueryColumn.AllKnown body'.query.output := Bound.Node.Sound.output hbody.1
    exact .intro ⟨houtput, trivial⟩ (List.forall_mem_append.2
      ⟨List.forall_mem_map.2 hdefinitions, List.forall_mem_singleton.2 hbody.1⟩)

/-- **Binding complete syntax is clean.** -/
theorem cleans_closed : cleans.Closed :=
  ⟨cleans_leaves, cleans_operations, cleans_branches, cleans_members, cleans_subqueries,
    cleans_tables, cleans_selects, cleans_orders, cleans_queries⟩

/-- **Binding a complete expression** gives a sound one, or reports something. -/
theorem expr_clean (it : Ast.Expr) {env : Env} {given : Prop}
    (h : given → (Piece.expr it).Complete) : Clean env given (expr it) (·.Sound) :=
  cleans_closed.expr it env given h

/-- **Binding a complete query** gives a sound one in a sound scope, or reports something. -/
theorem query_clean (it : Ast.Query) {env : Env} {given : Prop}
    (h : given → (Piece.query it).Complete) : Clean env given (query it) ScopedQuery.Sound :=
  cleans_closed.query it env given h

end Binding

end QuerySemantics
