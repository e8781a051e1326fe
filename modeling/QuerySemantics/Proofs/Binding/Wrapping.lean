import QuerySemantics.Binding.Basic
import QuerySemantics.Proofs.Binding.Logic
import QuerySemantics.Proofs.Scope.Shape

/-!
# Selecting everything from a query

A `SELECT * FROM` over a query in place of a table, or over a common table that a query defines, has
output columns like those of the query, and nothing is reported about it.

## Main definitions

* `Binding.Leaves`: a computation ends with given diagnostics and a value of a kind.

## Main results

* `Binding.star_leaves`: a `SELECT *` over one table reference.
* `Binding.derived_leaves`, `Binding.defined_leaves`: such a `SELECT` over a query in place of a table
  and over a table that a query defines.
-/

set_option autoImplicit false

namespace QuerySemantics

/-- A name refers to what is called so. -/
theorem Matching.select_self {α : Type} (caseSensitive : Bool) (nameOf : α → String) (it : α) :
    select caseSensitive nameOf (nameOf it) [it] = [it] := by
  simp [select]

namespace Binding

variable {α β : Type} {env : Env} {pass : Pass} {reported : List Diagnostic}

/-! ## Computations without reports -/

/-- **Leaving**: a computation ends with the diagnostics `reported` and a value as described. -/
def Leaves (env : Env) (pass : Pass) (body : BindM α) (reported : List Diagnostic)
    (post : α → Prop) : Prop :=
  Ends env pass body fun value after => after.diagnostics = reported ∧ post value

namespace Leaves

/-- **Sequence** of computations of which only the first one may report anything. -/
theorem bind {body : BindM α} {rest : α → BindM β} {middle : α → Prop} {post : β → Prop}
    (hbody : Leaves env pass body reported middle)
    (hrest : ∀ value pass', pass'.diagnostics = reported → middle value →
      Leaves env pass' (rest value) reported post) :
    Leaves env pass (body >>= rest) reported post :=
  Ends.bind hbody fun value pass' h => hrest value pass' h.1 h.2

/-- A value leaves the diagnostics that there are. -/
theorem pure {value : α} {post : α → Prop} (hpass : pass.diagnostics = reported) (h : post value) :
    Leaves env pass (Pure.pure value) reported post :=
  ⟨hpass, h⟩

/-- In another scope as in this one. -/
theorem within {scope : Scope} {body : BindM α} {post : α → Prop}
    (h : Leaves { env with scope } pass body reported post) :
    Leaves env pass (within scope body) reported post :=
  h

/-- Making symbols leaves the diagnostics that there are. -/
theorem supply {taken : Supply α} {post : α → Prop} (hpass : pass.diagnostics = reported)
    (h : taken.Gives post) : Leaves env pass (Binding.supply taken) reported post :=
  ⟨hpass, h pass.next⟩

/-- Looking at the scope. -/
theorem currentScope {rest : Scope → BindM β} {post : β → Prop}
    (h : Leaves env pass (rest env.scope) reported post) :
    Leaves env pass (Binding.currentScope >>= rest) reported post :=
  h

/-- Looking at the options. -/
theorem caseSensitive {rest : Bool → BindM β} {post : β → Prop}
    (h : Leaves env pass (rest env.options.caseSensitive) reported post) :
    Leaves env pass (Binding.caseSensitive >>= rest) reported post :=
  h

/-- A scope inside is made, and nothing is reported. -/
theorem childScope (hpass : pass.diagnostics = reported) (frame : Frame) :
    Leaves env pass (childScope frame) reported fun inner => ∃ id, inner = env.scope.push id frame :=
  ⟨hpass, pass.next, rfl⟩

/-- Recording a node reports nothing. -/
theorem record (hpass : pass.diagnostics = reported) (info : NodeInfo) (node : Bound.Node) :
    Leaves env pass (record info node) reported fun _ => True :=
  ⟨hpass, trivial⟩

/-- Recording a scope reports nothing. -/
theorem recordScope (hpass : pass.diagnostics = reported) (info : NodeInfo) :
    Leaves env pass (recordScope info) reported fun _ => True :=
  ⟨hpass, trivial⟩

/-- Recording the table reference that came out. -/
theorem recordTable {body : BindM Bound.TableRef} {post : Bound.TableRef → Prop}
    (h : Leaves env pass body reported post) (info : NodeInfo) :
    Leaves env pass (body >>= Binding.recordTable info) reported post :=
  h.bind fun _ _ hpass hit => ⟨hpass, hit⟩

end Leaves

/-! ## Selecting everything -/

/-- The names and types of the columns that a table reference introduces. -/
def shapeOf (it : Bound.TableRef) : List (String × SqlType) :=
  it.instances.flatMap TableInstance.shape

/-- A `*` without a qualifier stands for all columns of all instances. -/
theorem wildcard_leaves {instances : List TableInstance} (hpass : pass.diagnostics = reported)
    (info : NodeInfo) : Leaves env pass (wildcard info instances none) reported
      fun item => QueryColumn.shape item.output = instances.flatMap TableInstance.shape := by
  have hitem : Leaves env pass (wildcardItem instances none) reported fun item =>
      QueryColumn.shape item.output = instances.flatMap TableInstance.shape :=
    (Leaves.supply hpass (.expand_shape instances)).bind fun _ _ hpass hshape => .pure hpass hshape
  exact hitem.bind fun item _ hpass hshape =>
    (Leaves.record hpass info _).bind fun _ _ hpass _ => .pure hpass hshape

/-- The table references of a `FROM` with one of them. -/
theorem from_leaves {sources : NodeInfo} {reference : Ast.TableRef} {post : Bound.TableRef → Prop}
    (h : Leaves env pass (table reference) reported post) :
    Leaves env pass (fromClause (some (.mk sources [reference]))) reported fun references =>
      ∃ it, references = [it] ∧ post it := by
  rw [fromClause, tables, tables]
  exact h.bind fun it _ hpass hit => .pure hpass ⟨it, rfl, hit⟩

/-- **Selecting everything** from one table reference: the output has the names and types of its
columns, and nothing more is reported. -/
theorem star_leaves {info clause star sources : NodeInfo} {reference : Ast.TableRef}
    {shape : List (String × SqlType)}
    (h : Leaves env pass (table reference) reported fun it => shapeOf it = shape) :
    Leaves env pass (query (.select info (some (.mk clause false none [.wildcard star none]))
      (some (.mk sources [reference])) none none none)) reported
      fun it => QueryColumn.shape it.query.output = shape := by
  rw [query]
  refine (from_leaves h).bind ?_
  rintro _ pass' hpass ⟨it, rfl, hit⟩
  refine (Leaves.childScope hpass _).bind fun inner pass' hpass _ => ?_
  have hbound : Leaves { env with scope := inner } pass' (do
      recordScope info
      let filter ← conditionIfAny .filter none
      let grouping ← groupByClause none
      let having ← conditionIfAny .having none
      let items ← selectClause ([it].flatMap Bound.TableRef.instances)
        (some (.mk clause false none [.wildcard star none]))
      return Bound.Query.select false [it] filter grouping having items) reported
        fun bound => QueryColumn.shape bound.output = shape := by
    refine (Leaves.recordScope hpass info).bind fun _ pass' hpass _ => ?_
    simp only [conditionIfAny, groupByClause, selectClause, selectItems, pure_bind, bind_assoc]
    refine (wildcard_leaves hpass star).bind fun item _ hpass hitem => .pure hpass ?_
    change QueryColumn.shape (item.output ++ []) = shape
    rw [List.append_nil, hitem]
    exact (congrArg (List.flatMap TableInstance.shape) (List.append_nil _)).trans hit
  exact (Leaves.within hbound).bind fun bound _ hpass hbound => ⟨hpass, hbound⟩

/-! ## Tables that are queries -/

variable {read : Ast.Query} {shape : List (String × SqlType)}

/-- **A query in place of a table** introduces columns with the names and types of its output. -/
theorem derived_leaves (info : NodeInfo) (ident : Option Token)
    (h : Leaves env pass (query read) reported fun it => QueryColumn.shape it.query.output = shape) :
    Leaves env pass (table (.derived info (some read) ident)) reported
      fun it => shapeOf it = shape := by
  rw [table, optionalQuery]
  refine h.bind fun body _ hpass hbody => .recordTable ?_ info
  unfold derivedTable
  refine (Leaves.supply hpass (.derivedTable_shape _ _)).bind fun made _ hpass hmade => ?_
  refine (Leaves.supply hpass (.tableInstance_shape _ _)).bind fun it _ hpass hit => .pure hpass ?_
  change it.shape ++ [] = shape
  rw [List.append_nil, hit, ← hbody]
  exact hmade

/-- Names replace those of columns, if there are as many. -/
theorem renamed_eq_zip : ∀ {names : List String} {shape : List (String × SqlType)},
    names.length = shape.length → renamed names shape = names.zip (shape.map Prod.snd)
  | [], [], _ => rfl
  | name :: names, (_, type) :: shape, h => by
    rw [renamed, renamed_eq_zip (Nat.succ.inj h)]
    rfl

/-- The names and types of a table that a query with the given names and types defines. -/
def definedShape (names : Option (List String)) (shape : List (String × SqlType)) :
    List (String × SqlType) :=
  match names with
  | none => shape
  | some names => names.zip (shape.map Prod.snd)

/-- **A definition** without column names, or with as many as its query has columns. -/
theorem define_leaves {names : Option Ast.ColumnNames} {query : Bound.Query} (info : NodeInfo)
    (token : Token) (hpass : pass.diagnostics = reported)
    (hnames : ∀ it ∈ names, it.idents.length = query.output.length) :
    Leaves env pass (define info (some token) names query) reported fun it =>
      it.symbol.name = token.ident ∧ Column.shape it.symbol.columns = definedShape
        (names.map fun names => names.idents.map Token.ident) (QueryColumn.shape query.output) := by
  have hlength : (QueryColumn.shape query.output).length = query.output.length := List.length_map ..
  have hcheck : Leaves env pass (checkNames names query) reported fun _ => True := by
    cases names with
    | none => exact .pure hpass trivial
    | some names =>
      unfold checkNames
      simp only [hnames names rfl, ne_eq, not_true_eq_false, if_false]
      exact .pure hpass trivial
  have hshape : renamed ((names.toList.flatMap Ast.ColumnNames.idents).map Token.ident)
      (QueryColumn.shape query.output) = definedShape
        (names.map fun names => names.idents.map Token.ident) (QueryColumn.shape query.output) := by
    cases names with
    | none => rfl
    | some names =>
      have hidents : (some names).toList.flatMap Ast.ColumnNames.idents = names.idents :=
        List.append_nil _
      rw [hidents, renamed_eq_zip (by rw [List.length_map, hlength, hnames names rfl])]
      rfl
  unfold define
  refine hcheck.bind fun _ _ hpass _ => ?_
  simp only [hshape]
  refine (Leaves.supply hpass (.commonTable_shape _ _ _ _)).bind fun made _ hpass hmade => ?_
  exact (Leaves.record hpass info _).bind fun _ _ hpass _ => .pure hpass hmade

/-- **The only table of a `WITH`** is found under its name. -/
theorem named_leaves {table : CommonTable} {id : SymbolId} {token : Token} (info : NodeInfo)
    (hpass : pass.diagnostics = reported) (hname : table.name = token.ident) :
    Leaves { env with scope := env.scope.push id (.commonTables [table]) } pass
      (Binding.table (.named info (some token) none)) reported
      fun it => shapeOf it = Column.shape table.columns := by
  have hfound : (env.scope.push id (.commonTables [table])).commonTable? env.options.caseSensitive
      token.ident = some table := by
    have hselect := Matching.select_self env.options.caseSensitive CommonTable.name table
    rw [hname] at hselect
    simp [Scope.commonTable?, Scope.push, Scope.nearest, Frame.commonTablesNamed, hselect]
  have hsource : Leaves { env with scope := env.scope.push id (.commonTables [table]) } pass
      (tableNamed token) reported (· = .common table) := by
    unfold tableNamed
    refine .currentScope (.caseSensitive ?_)
    rw [hfound]
    exact .pure hpass rfl
  rw [Binding.table, namedTable]
  refine .recordTable (hsource.bind fun source _ hpass hsource => ?_) info
  subst hsource
  refine (Leaves.supply hpass (.tableInstance_shape _ _)).bind fun it _ hpass hit => .pure hpass ?_
  change it.shape ++ [] = _
  rw [List.append_nil, hit]
  rfl

/-- **A `WITH` with one definition**: its main query sees the table that the definition defines. -/
theorem defined_leaves {outer definition inner clause star sources reference : NodeInfo}
    {token token' : Token} {names : Option Ast.ColumnNames}
    (h : Leaves env (recordScope definition env pass).2 (query read) reported fun it =>
      QueryColumn.shape it.query.output = shape)
    (hnames : ∀ it ∈ names, it.idents.length = shape.length) (htoken : token'.text = token.text) :
    Leaves env pass (query (.withTables outer [.mk definition (some token) names (some read)]
      (some (.select inner (some (.mk clause false none [.wildcard star none]))
        (some (.mk sources [.named reference (some token') none])) none none none)))) reported
      fun it => QueryColumn.shape it.query.output =
        definedShape (names.map fun names => names.idents.map Token.ident) shape := by
  have hident : token.ident = token'.ident := by rw [Token.ident, Token.ident, htoken]
  have hdefinitions : Leaves env pass
      (commonTables [] [.mk definition (some token) names (some read)]) reported fun it =>
        ∃ made, it = [made] ∧ made.symbol.name = token.ident ∧
          Column.shape made.symbol.columns =
            definedShape (names.map fun names => names.idents.map Token.ident) shape := by
    rw [commonTables, optionalQuery, if_pos List.isEmpty_nil]
    have hbody : Leaves env pass (within env.scope (recordScope definition >>= fun _ => query read))
        reported fun it => QueryColumn.shape it.query.output = shape := h
    refine .currentScope (hbody.bind fun body _ hpass hbody => ?_)
    have hlength : shape.length = body.query.output.length := by
      rw [← hbody, QueryColumn.shape, List.length_map]
    refine (define_leaves definition token hpass fun it hit => (hnames it hit).trans hlength).bind
      fun made _ hpass hmade => ?_
    rw [commonTables]
    exact .pure hpass ⟨made, rfl, hmade.1, hbody ▸ hmade.2⟩
  rw [query, optionalQuery]
  refine .currentScope (hdefinitions.bind ?_)
  rintro _ _ hpass ⟨made, rfl, hname, hcolumns⟩
  refine (Leaves.childScope hpass _).bind ?_
  rintro _ pass' hpass ⟨id, rfl⟩
  have hbody : Leaves { env with scope := env.scope.push id (.commonTables [made.symbol]) } pass'
      (recordScope outer >>= fun _ => query (.select inner
        (some (.mk clause false none [.wildcard star none]))
        (some (.mk sources [.named reference (some token') none])) none none none)) reported
        fun it => QueryColumn.shape it.query.output =
          definedShape (names.map fun names => names.idents.map Token.ident) shape := by
    refine (Leaves.recordScope hpass outer).bind fun _ _ hpass _ => ?_
    rw [← hcolumns]
    exact star_leaves (named_leaves reference hpass (hname.trans hident))
  exact (Leaves.within hbody).bind fun body _ hpass hbody => ⟨hpass, hbody⟩

end Binding

end QuerySemantics
