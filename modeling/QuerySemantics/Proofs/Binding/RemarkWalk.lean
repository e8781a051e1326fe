import QuerySemantics.Proofs.Binding.RemarkRules
import QuerySemantics.Proofs.Binding.Traversal

/-!
# The remarks of binding

The walk through a query, form by form: what binding an expression, a table reference or a query adds
to the diagnostics are the remarks of a walk through it. The remarks of the parts come first and those
of the node itself behind them, but for a `WHEN` and an `ORDER BY` entry, where the order is another
one.

## Main definitions

* `Binding.remarks`: the judgment that binding a node adds the remarks of a walk through it.

## Main results

* `Binding.remarks_closed`: binding walks through the syntax.
* `SyntaxTree.bind_told`: the diagnostics of a tree are the remarks of a walk through its root.
-/

set_option autoImplicit false

namespace QuerySemantics

/-- Whether a piece is visited without all of its parts: a unit, or a property without name. -/
def Piece.isPartial : Piece → Bool
  | .unit _ => true
  | it => it.isNameless

/-- Binding goes on to the parts of a piece that is no unit and no property without name. -/
theorem Piece.visited_eq_of_isPartial {piece : Piece} (h : piece.isPartial = false) :
    piece.visited = piece.parts := by
  have hunit : ∀ it, piece ≠ .unit it := by
    rintro it rfl
    cases h
  refine visited_eq_parts hunit ?_
  unfold isPartial at h
  split at h
  · cases h
  · exact h

/-- A walk to the parts of a piece is one to what is visited of it. -/
theorem Told.of_parts (piece : Piece) {below : List Remark} (h : Told piece.parts below)
    (hpartial : piece.isPartial = false) : Told piece.visited below := by
  rwa [Piece.visited_eq_of_isPartial hpartial]

/-- A walk through a piece that is no expression and about which nothing is to be said. -/
theorem Told.through (piece : Piece) {below : List Remark} (h : Told piece.parts below)
    (hpartial : piece.isPartial = false) : Told [piece] below :=
  .quiet (h.of_parts piece hpartial)

/-- A walk to the key of an `ORDER BY` entry. -/
theorem Told.key {info : NodeInfo} {key : Option Ast.Expr} {descending : Bool} {below : List Remark}
    (h : Told (Piece.ofExpr? key) below) :
    Told (Piece.orderItem (.mk info key descending)).visited below :=
  h.of_parts (.orderItem (.mk info key descending)) rfl

namespace Binding

namespace Notes

variable {α : Type} {env : Env}

/-- **Settling an expression** behind its parts: its rule gives its own remarks, and it is recorded. -/
theorem expr {it : Ast.Expr} {rule : BindM Bound.Expr} {below : List Remark}
    (hrule : Notes env rule fun _ => (Piece.expr it).Gives)
    (hpartial : (Piece.expr it).isPartial = false) (hbelow : Told (Piece.expr it).parts below) :
    Notes env (do recordExpr it.info (← rule)) fun _ own => Told [.expr it] (below ++ own) :=
  (hrule.behind fun _ => .recordExpr).closing (hbelow.of_parts _ hpartial)

/-- An expression without rule of its own. -/
theorem plain {it : Ast.Expr} {value : Bound.Expr} {below : List Remark}
    (hpartial : (Piece.expr it).isPartial = false) (hbelow : Told (Piece.expr it).parts below) :
    Notes env (recordExpr it.info value) fun _ own => Told [.expr it] (below ++ own) :=
  (nothing .recordExpr).closing (hbelow.of_parts _ hpartial)

/-- A piece behind whose parts nothing is said. -/
theorem done {piece : Piece} {body : BindM α} {below : List Remark} (h : Silent env body)
    (hpartial : piece.isPartial = false) (hbelow : Told piece.parts below) :
    Notes env body fun _ own => Told [piece] (below ++ own) :=
  (nothing h).closing (hbelow.of_parts piece hpartial)

end Notes

/-! ## Parts -/

/-- **Walking through pieces**: what a computation adds are the remarks of a walk through them. -/
def Walks {α : Type} (pieces : List Piece) (body : BindM α) : Prop :=
  ∀ env, Notes env body fun _ => Told pieces

namespace Walks

variable {α β : Type} {wrap : α → Piece}

/-- A walk through a part that may be missing, if nothing is said in its place. -/
theorem calledFor {instead body : BindM β} {it : Option α}
    (h : CalledFor (fun it => Walks [wrap it]) instead it body) (hmissing : ∀ env, Silent env instead) :
    Walks (it.toList.map wrap) body := by
  intro env
  cases h with
  | given h => exact h env
  | missing => exact .silent (hmissing env) fun _ => .nil

/-- A walk through a part that need not be there. -/
theorem ifAny {body : BindM (Option β)} {it : Option α}
    (h : IfAny (fun it => Walks [wrap it]) it body) : Walks (it.toList.map wrap) body := by
  intro env
  cases h with
  | given h => exact (h env).behind fun _ => .pure
  | missing => exact .pure .nil

/-- A walk through parts one after the other. -/
theorem inTurn {body : BindM (List β)} {items : List α}
    (h : InTurn (fun it => Walks [wrap it]) items body) : Walks (items.map wrap) body := by
  intro env
  induction h with
  | nil => exact .pure .nil
  | cons hfirst _ ih =>
    refine (hfirst env).bind fun _ _ h₁ => ?_
    exact (ih.behind fun _ => .pure).mono fun _ _ h₂ => h₁.append h₂

end Walks

/-! ## The judgment -/

/-- **What binding a node adds** are the remarks of a walk through it. The select list is walked through
without its clause, on which the row limit is reported. -/
def remarks : Judgment where
  Expr it := Walks [.expr it]
  Arguments it := Walks [.arguments it]
  Label _ it := Walks [.caseLabel it]
  Condition place it body := place ≠ .when → Walks [.condition it] body
  Table it := Walks [.table it]
  Source it := Walks [.fromClause it]
  Grouping it := Walks [.groupBy it]
  Item _ it := Walks [.selectItem it]
  Head _ it := Walks (Piece.selectClause it).parts
  Key _ it body := ∀ info descending, Walks [.orderItem (.mk info (some it) descending)] body
  Entry _ it := Walks [.orderItem it]
  Definition _ it := Walks [.commonTable it]
  Query it := Walks [.query it]

section Parts

variable {env : Env}

/-- Expressions that are called for. -/
theorem Notes.optionalExpr {it : Option Ast.Expr} {body : BindM Bound.Expr}
    (h : remarks.OptionalExpr it body) : Notes env body fun _ => Told (Piece.ofExpr? it) :=
  Walks.calledFor h (fun _ => .missingExpr) env

/-- Expressions that need not be there. -/
theorem Notes.exprIfAny {it : Option Ast.Expr} {body : BindM (Option Bound.Expr)}
    (h : IfAny remarks.Expr it body) : Notes env body fun _ => Told (Piece.ofExpr? it) :=
  Walks.ifAny h env

/-- Arguments of a call. -/
theorem Notes.argumentList {list : Option Ast.Arguments} {body : BindM (List Bound.Expr)}
    (h : CalledFor remarks.Arguments (return []) list body) :
    Notes env body fun _ => Told (list.toList.map .arguments) :=
  Walks.calledFor h (fun _ => .pure) env

/-- The condition of a clause, which is no label of a `CASE`. -/
theorem Notes.conditionIfAny {place : ConditionPlace} {it : Option Ast.Condition}
    {body : BindM (Option Bound.Expr)} (h : CalledFor (remarks.Condition place) (return none) it body)
    (hplace : place ≠ .when) : Notes env body fun _ => Told (it.toList.map .condition) := by
  cases h with
  | given h => exact h hplace env
  | missing => exact .pure .nil

/-- Table references that are called for. -/
theorem Notes.optionalTable {it : Option Ast.TableRef} {body : BindM Bound.TableRef}
    (h : remarks.OptionalTable it body) : Notes env body fun _ => Told (Piece.ofTable? it) :=
  Walks.calledFor h (fun _ => .missingTable) env

/-- Queries that are called for. -/
theorem Notes.optionalQuery {it : Option Ast.Query} {body : BindM ScopedQuery}
    (h : remarks.OptionalQuery it body) : Notes env body fun _ => Told (Piece.ofQuery? it) :=
  Walks.calledFor h (fun _ => .bind .currentScope fun _ => .pure) env

/-- The definitions of a `WITH`. -/
theorem Notes.definitions {earlier : List CommonTable} {items : List Ast.CommonTable}
    {body : BindM (List Bound.Definition)} (h : DefinedInTurn remarks.Definition earlier items body) :
    Notes env body fun _ => Told (items.map .commonTable) := by
  induction h with
  | nil => exact .pure .nil
  | cons hfirst _ ih =>
    refine (hfirst env).bind fun definition _ h₁ => ?_
    exact ((ih definition).behind fun _ => .pure).mono fun _ _ h₂ => h₁.append h₂

end Parts

/-! ## The rules -/

/-- Walking through expressions without parts. -/
theorem remarks_leaves : remarks.Leaves where
  name _ _ _ := .expr .name rfl .nil
  parameter _ _ _ := .expr .hostVariable rfl .nil
  literal _ _ _ := .expr .literal rfl .nil
  countAll _ _ _ := .expr .countAll rfl .nil
  nameless info target ident hnone _ := by
    have hbelow : Told (Piece.expr (.property info target ident)).visited [] := by
      rcases hnone with rfl | rfl
      · cases ident <;> exact .nil
      · cases target <;> exact .nil
    exact .before .missingExpr fun _ => .silent .recordExpr fun _ => .quiet hbelow

/-- Walking through operators, and through the conditions of clauses. -/
theorem remarks_operations : remarks.Operations where
  parenthesized info inner _ h _ := (Notes.optionalExpr h).mono fun _ _ h =>
    .through (.expr (.parenthesized info inner)) h rfl
  unary _ _ _ _ h _ := (Notes.optionalExpr h).bind fun _ _ h => .expr .unary rfl h
  binary _ _ _ _ _ _ _ h₁ h₂ _ := by
    refine (Notes.optionalExpr h₁).bind fun _ _ h₁ => (Notes.optionalExpr h₂).bind fun _ _ h₂ => ?_
    simp only [← List.append_assoc]
    exact .expr .binary rfl (h₁.append h₂)
  cast _ _ _ _ h _ := (Notes.optionalExpr h).bind fun _ _ h => .expr .cast rfl h
  isNull _ _ _ _ h _ := (Notes.optionalExpr h).bind fun _ _ h => .plain rfl h
  condition info place predicate _ h hplace _ := by
    refine (Notes.optionalExpr h).bind fun _ _ h => ?_
    exact ((Notes.checkCondition hplace).behind fun _ => .pure).closing
      (h.of_parts (.condition (.mk info predicate)) rfl)

/-- Walking through a `CASE` and its labels. What a label calls for is said before its result is bound. -/
theorem remarks_branches : remarks.Branches where
  label _ info condition result _ _ h₁ h₂ _ := by
    refine (Notes.optionalExpr h₁).bind fun bound below₁ h₁ => ?_
    refine (Notes.checkLabel info result).bind fun _ own hown => ?_
    refine (Notes.optionalExpr h₂).bind fun result' below₂ h₂ => ?_
    refine .before .record fun _ => .pure ?_
    have hbelow : Told (Piece.caseLabel (.mk info condition result)).visited (below₁ ++ below₂) :=
      (h₁.append h₂).of_parts (.caseLabel (.mk info condition result)) rfl
    refine (hbelow.one hown).perm ?_
    rw [List.append_nil, List.append_assoc]
    exact List.perm_append_comm.append_left below₁
  cases _ _ _ _ _ _ _ h₁ h₂ h₃ env := by
    refine (Notes.exprIfAny h₁).bind fun input _ h₁ => ?_
    refine (Walks.inTurn (h₂ input) env).bind fun _ _ h₂ => ?_
    refine (Notes.exprIfAny h₃).bind fun _ _ h₃ => ?_
    simp only [← List.append_assoc]
    exact .expr .caseOf rfl ((h₁.append h₂).append h₃)

/-- Walking through properties, methods and calls. -/
theorem remarks_members : remarks.Members where
  property _ _ _ _ _ h env := (h env).bind fun _ _ h =>
    .expr (.property rfl (List.mem_singleton_self _)) rfl h
  qualified info _ _ _ _ h env := by
    refine (Notes.qualified info).bind fun decided remarks hdecided => ?_
    cases decided with
    | some it => exact .silent .recordExpr fun _ => (List.append_nil remarks).symm ▸ hdecided
    | none =>
      cases hdecided
      exact (h env).bind fun _ _ h => .expr (.property rfl (List.mem_singleton_self _)) rfl h
  method _ _ _ _ _ _ h₁ h₂ _ := by
    refine (Notes.optionalExpr h₁).bind fun _ _ h₁ => (Notes.argumentList h₂).bind fun _ _ h₂ => ?_
    simp only [← List.append_assoc]
    exact .expr .method rfl (h₁.append h₂)
  call _ _ _ _ h _ := (Notes.argumentList h).bind fun _ _ h => .expr .call rfl h
  arguments info items _ h env := (Walks.inTurn h env).mono fun _ _ h =>
    .through (.arguments (.mk info items)) h rfl

/-- Walking through expressions with a query in them. -/
theorem remarks_subqueries : remarks.Subqueries where
  subselect _ _ _ h _ := (Notes.optionalQuery h).bind fun _ _ h => .expr .subselect rfl h
  existence _ _ _ h _ := (Notes.optionalQuery h).bind fun _ _ h => .plain rfl h
  quantified _ _ _ _ _ _ _ h₁ h₂ _ := by
    refine (Notes.optionalExpr h₁).bind fun _ _ h₁ => (Notes.optionalQuery h₂).bind fun _ _ h₂ => ?_
    simp only [← List.append_assoc]
    exact .expr .quantified rfl (h₁.append h₂)

/-- Walking through table references. -/
theorem remarks_tables : remarks.Tables where
  parenthesizedTable info inner _ h _ := (Notes.optionalTable h).mono fun _ _ h =>
    .through (.table (.parenthesized info inner)) h rfl
  named _ _ _ _ := (Notes.namedTable.behind fun _ => .recordTable).closing .nil
  derived _ _ _ _ h _ := (Notes.optionalQuery h).bind fun _ _ h =>
    .done (Silent.derivedTable.bind fun _ => .recordTable) rfl h
  joined _ _ _ _ _ _ _ _ h₁ h₂ h₃ _ := by
    refine (Notes.optionalTable h₁).bind fun _ _ h₁ => .before .lateralScope fun _ => ?_
    refine (Notes.within (Notes.optionalTable h₂)).bind fun _ _ h₂ => .before .childScope fun _ => ?_
    refine (Notes.within (.before .recordScope fun _ =>
      Notes.conditionIfAny h₃ nofun)).bind fun _ _ h₃ => ?_
    simp only [← List.append_assoc]
    exact .done .recordTable rfl ((h₁.append h₂).append h₃)
  source info items _ h env := (Walks.inTurn h env).mono fun _ _ h =>
    .through (.fromClause (.mk info items)) h rfl

/-- **Row limits** are reported on the clause with the list, behind its entries. -/
theorem Notes.limited {env : Env} {head : Option Ast.SelectClause} {bound : Bound.Query}
    {items : List Remark} (h : Told (head.toList.flatMap fun it => (Piece.selectClause it).parts) items) :
    Notes env (Binding.limit (rowLimit head) bound) fun _ own =>
      Told (head.toList.map .selectClause) (items ++ own) := by
  cases head with
  | none => exact .pure ((List.append_nil items).symm ▸ h)
  | some it =>
    obtain ⟨info, distinct, top, entries⟩ := it
    rw [Option.toList_some, List.flatMap_cons, List.flatMap_nil, List.append_nil] at h
    exact Notes.limit.closing (h.of_parts (.selectClause (.mk info distinct top entries)) rfl)

/-- **What is said in a `SELECT`** behind its tables: the remarks on the clauses, then on the list. -/
theorem Notes.clauses {env : Env} (info : NodeInfo) {head : Option Ast.SelectClause}
    {filter having : Option Ast.Condition} {grouping : Option Ast.GroupByClause}
    {references : List Bound.TableRef} {second fourth : BindM (Option Bound.Expr)}
    {third : BindM (List Bound.Expr)} {fifth : BindM (List Bound.SelectItem)}
    {instances : List TableInstance}
    (h₂ : CalledFor (remarks.Condition .filter) (return none) filter second)
    (h₃ : CalledFor remarks.Grouping (return []) grouping third)
    (h₄ : CalledFor (remarks.Condition .having) (return none) having fourth)
    (h₅ : CalledFor (remarks.Head instances) (return []) head fifth) :
    Notes env (do
        recordScope info
        let filter ← second
        let grouping ← third
        let having ← fourth
        let items ← fifth
        return Bound.Query.select (isDistinct head) references filter grouping having items)
      fun _ remarks => ∃ clauses items, remarks = clauses ++ items ∧
        Told (filter.toList.map .condition ++ grouping.toList.map .groupBy ++
          having.toList.map .condition) clauses ∧
        Told (head.toList.flatMap fun it => (Piece.selectClause it).parts) items := by
  have hhead : Notes env fifth fun _ =>
      Told (head.toList.flatMap fun it => (Piece.selectClause it).parts) := by
    cases h₅ with
    | given h =>
      rw [Option.toList_some, List.flatMap_cons, List.flatMap_nil, List.append_nil]
      exact h env
    | missing => exact .pure .nil
  refine .before .recordScope fun _ => ?_
  refine (Notes.conditionIfAny h₂ nofun).bind fun _ _ h₂ => ?_
  refine (Walks.calledFor h₃ (fun _ => .pure) env).bind fun _ _ h₃ => ?_
  refine (Notes.conditionIfAny h₄ nofun).bind fun _ _ h₄ => ?_
  refine (hhead.behind fun _ => .pure).mono fun _ items h₅ => ?_
  refine ⟨_, items, ?_, (h₂.append h₃).append h₄, h₅⟩
  simp only [List.append_assoc]

/-- Walking through a `SELECT` and its clauses. -/
theorem remarks_selects : remarks.Selects where
  column _ info correlation value _ h _ := by
    refine (Notes.optionalExpr h).bind fun _ _ h => ?_
    exact (Notes.nothing .selectColumn).closing
      (h.of_parts (.selectItem (.column info value correlation)) rfl)
  wildcard _ info token _ := by
    have hnone : Told (Piece.selectItem (.wildcard info token)).visited [] := .nil
    exact Notes.wildcard.mono fun _ own hown => hnone.one hown
  head _ _ _ _ _ _ h := Walks.inTurn h
  grouping info keys _ h env := (Walks.inTurn h env).mono fun _ _ h =>
    .through (.groupBy (.mk info keys)) h rfl
  select info head source filter having grouping _ _ _ _ _ h₁ h₂ h₃ h₄ h₅ env := by
    refine (Walks.calledFor h₁ (fun _ => .pure) env).bind fun references from' h₁ => ?_
    refine .before .childScope fun inner => ?_
    refine (Notes.within (Notes.clauses info h₂ h₃ h₄ (h₅ _))).bind
      fun bound remarks ⟨clauses, items, hremarks, h₂, h₃⟩ => ?_
    subst hremarks
    refine (Notes.limited h₃).bind fun _ own h₄ => .silent .recordQuery fun _ => ?_
    have hparts : Told (Piece.query (.select info head source filter grouping having)).parts
        (from' ++ (clauses ++ (items ++ own))) := by
      have hall := (h₁.append h₂).append h₄
      simpa only [Piece.parts, List.append_assoc] using hall
    rw [List.append_nil, List.append_assoc]
    exact .through (.query (.select info head source filter grouping having)) hparts rfl

/-- Walking through an `ORDER BY`. A position that is out of range is reported before the key is bound. -/
theorem remarks_orders : remarks.Orders where
  key _ _ _ _ h _ _ env := (h env).mono fun _ _ h => .quiet (Told.key h)
  position _ own token _ _ _ _ info descending _ := by
    have hliteral : Told [.expr (.literal own (some token))] [] :=
      .through (.expr (.literal own (some token))) .nil rfl
    exact .silent .recordExpr fun _ => .quiet (Told.key hliteral)
  outside _ own token _ _ _ _ h info descending env := by
    have hpart : Piece.expr (.literal own (some token)) ∈
        (Piece.orderItem (.mk info (some (.literal own (some token))) descending)).visited :=
      List.mem_singleton_self _
    have hmarks : (Piece.expr (.literal own (some token))).Marks token.span :=
      Piece.marks_token (List.mem_singleton_self _)
    refine (Notes.report (.part hpart rfl hmarks rfl)).bind fun _ imposed himposed => ?_
    have hkey : Notes env _ fun _ => Told (Piece.ofExpr? (some (.literal own (some token)))) := h env
    exact hkey.mono fun _ below h => ((Told.key h).one himposed).perm List.perm_append_comm
  entry _ info descending key _ h env := by
    cases h with
    | given h => exact (h info descending env).behind fun _ => .pure
    | missing => exact .silent (.bind .missingExpr fun _ => .pure) fun _ => .quiet (Told.key .nil)
  ordered _ _ _ _ _ h₁ h₂ env := by
    refine .before .currentScope fun scope => ?_
    refine (Notes.optionalQuery h₁).bind fun input _ h₁ => .before .supply fun inner => ?_
    refine (Notes.within (.before .recordScope fun _ => Walks.inTurn (h₂ _) _)).bind fun _ _ h₂ => ?_
    simp only [← List.append_assoc]
    exact .done .recordQuery rfl (h₁.append h₂)

/-- Walking through the other queries. -/
theorem remarks_queries : remarks.Queries where
  parenthesizedQuery info inner _ h _ := by
    refine .before .currentScope fun scope => ?_
    exact ((Notes.optionalQuery h).behind fun _ => .pure).mono fun _ _ h =>
      .through (.query (.parenthesized info inner)) h rfl
  combined info operator left right _ _ h₁ h₂ _ := by
    refine .before .currentScope fun scope => ?_
    refine (Notes.optionalQuery h₁).bind fun _ _ h₁ => (Notes.optionalQuery h₂).bind fun _ _ h₂ => ?_
    simp only [← List.append_assoc]
    exact (Notes.combine.behind fun _ => .recordQuery).closing
      ((h₁.append h₂).of_parts (.query (.combined info left operator right)) rfl)
  definition earlier info ident columns body first h env := by
    -- the definition, once it is clear which scope its query sees
    have hbehind : ∀ scope, Notes env (do
        let body ← Binding.within scope do
          recordScope info
          first
        define info ident columns body.query) fun _ =>
          Told [.commonTable (.mk info ident columns body)] := fun scope => by
      refine (Notes.within (.before .recordScope fun _ => Notes.optionalQuery h)).bind
        fun body' below h => ?_
      exact (Notes.define body).closing (h.of_parts (.commonTable (.mk info ident columns body)) rfl)
    split
    · exact .before .currentScope hbehind
    · exact .before .childScope hbehind
  withTables _ _ _ _ _ h₁ h₂ _ := by
    refine .before .currentScope fun scope => ?_
    refine (Notes.definitions h₁).bind fun _ _ h₁ => .before .childScope fun inner => ?_
    refine (Notes.within (.before .recordScope fun _ => Notes.optionalQuery h₂)).bind fun _ _ h₂ => ?_
    simp only [← List.append_assoc]
    exact .done .recordQuery rfl (h₁.append h₂)

/-- **Binding walks through the syntax.** -/
theorem remarks_closed : remarks.Closed :=
  ⟨remarks_leaves, remarks_operations, remarks_branches, remarks_members, remarks_subqueries,
    remarks_tables, remarks_selects, remarks_orders, remarks_queries⟩

/-- **Binding an expression walks through it.** -/
theorem expr_notes (it : Ast.Expr) (env : Env) : Notes env (expr it) fun _ => Told [.expr it] :=
  remarks_closed.expr it env

/-- **Binding a query walks through it.** -/
theorem query_notes (it : Ast.Query) (env : Env) : Notes env (query it) fun _ => Told [.query it] :=
  remarks_closed.query it env

/-- Binding the arguments of a call walks through them. -/
theorem argumentList_notes (list : Option Ast.Arguments) (env : Env) :
    Notes env (argumentList list) fun _ => Told (list.toList.map .arguments) :=
  .argumentList (remarks_closed.argumentList list)

/-- Binding the entries of an `ORDER BY` walks through them. -/
theorem orderItems_notes (columns : List QueryColumn) (items : List Ast.OrderItem) (env : Env) :
    Notes env (orderItems columns items) fun _ => Told (items.map .orderItem) :=
  Walks.inTurn (remarks_closed.orderItems columns items) env

/-- Binding the definitions of a `WITH` walks through them. -/
theorem commonTables_notes (earlier : List CommonTable) (items : List Ast.CommonTable) (env : Env) :
    Notes env (commonTables earlier items) fun _ => Told (items.map .commonTable) :=
  .definitions (remarks_closed.commonTables earlier items)

/-! ## Whole trees -/

/-- **Binding what a tree is read as walks through it**, if it is a unit, a query or an expression. -/
theorem piece_notes (it : Piece) (env : Env) :
    Notes env (piece it) fun _ => Told (if it.isRoot then [it] else []) := by
  cases it with
  | unit it =>
    obtain ⟨info, body, value⟩ := it
    cases body with
    | some body => exact (query_notes body env).behind (fun _ => .pure) |>.mono fun _ _ h => .quiet h
    | none =>
      cases value with
      | some value =>
        exact (expr_notes value env).behind (fun _ => .pure) |>.mono fun _ _ h => .quiet h
      | none =>
        have hvisited : Told (Piece.unit ⟨info, none, none⟩).visited [] := .nil
        exact .pure (.quiet hvisited)
  | query it => exact (query_notes it env).behind fun _ => .pure
  | expr it => exact (expr_notes it env).behind fun _ => .pure
  | _ => exact .pure .nil

end Binding

open Binding

/-- **The diagnostics of a tree** are the remarks of a walk through its root. -/
theorem SyntaxTree.bind_told (tree : SyntaxTree) (options : Options) (catalog : Catalog)
    (next : SymbolId) : ∃ remarks,
      Told (if tree.root.piece.isRoot then [tree.root.piece] else []) remarks ∧
        (tree.bind options catalog next).1.diagnostics = remarks.map Remark.diagnostic := by
  have hpass : ∀ (part : Located) (env : Env) (before : Pass), ∃ remarks,
      Told (if part.piece.isRoot then [part.piece] else []) remarks ∧
        (pass part env before).2.diagnostics =
          before.diagnostics ++ remarks.map Remark.diagnostic := by
    intro part env before
    cases part with
    | token leaf => exact ⟨[], .nil, (List.append_nil _).symm⟩
    | node info children => exact piece_notes (Located.node info children).piece env _
  exact hpass tree.root ⟨options, ⟨next, catalog, []⟩⟩ (.start (next + 1))

end QuerySemantics
