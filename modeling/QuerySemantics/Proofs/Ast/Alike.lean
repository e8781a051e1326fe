import Mathlib.Data.List.Forall2
import QuerySemantics.Binding.Literal
import QuerySemantics.Binding.Query
import QuerySemantics.Binding.Reference

/-!
# Alike trees

Two trees that differ only in where their nodes and tokens stand. What counts as the same node and the
same token is a parameter, so that one tree may be compared with a part of another, or with itself.

## Main definitions

* `Likeness`: which nodes and which tokens of two trees correspond.
* `Likeness.Faithful`: different nodes correspond to different nodes.
* `Ast.Expr.Alike`, `Ast.TableRef.Alike`, `Ast.Query.Alike`: alike expressions, table references and
  queries.

## Main results

* `Ast.Expr.Alike.qualifier?`, `Ast.Expr.Alike.ownName?`, `Ast.Expr.Alike.position?`: what binding
  looks at in an expression before it is bound is the same in one that is alike.
-/

set_option autoImplicit false

/-- What is related may be related in another way as well. -/
theorem Option.Rel.imp {α β : Type} {related related' : α → β → Prop} {it : Option α} {it' : Option β}
    (h : Option.Rel related it it') (himp : ∀ it it', related it it' → related' it it') :
    Option.Rel related' it it' := by
  cases h with
  | none => exact .none
  | some h => exact .some (himp _ _ h)

/-- Functions that give related values for what is related. -/
theorem Option.Rel.map {α β γ δ : Type} {related : α → β → Prop} {related' : γ → δ → Prop}
    {it : Option α} {it' : Option β} {view : α → γ} {view' : β → δ} (h : Option.Rel related it it')
    (hview : ∀ it it', related it it' → related' (view it) (view' it')) :
    Option.Rel related' (it.map view) (it'.map view') := by
  cases h with
  | none => exact .none
  | some h => exact .some (hview _ _ h)

/-- Views of what is related are related. -/
theorem Option.Rel.bind {α β γ δ : Type} {related : α → β → Prop} {related' : γ → δ → Prop}
    {it : Option α} {it' : Option β} {view : α → Option γ} {view' : β → Option δ}
    (h : Option.Rel related it it')
    (hview : ∀ it it', related it it' → Option.Rel related' (view it) (view' it')) :
    Option.Rel related' (it.bind view) (it'.bind view') := by
  cases h with
  | none => exact .none
  | some h => exact hview _ _ h

/-- Functions that give the same for what is related. -/
theorem Option.Rel.map_eq {α β γ : Type} {related : α → β → Prop} {it : Option α} {it' : Option β}
    {view : α → γ} {view' : β → γ} (h : Option.Rel related it it')
    (hview : ∀ it it', related it it' → view' it' = view it) : it'.map view' = it.map view := by
  cases h with
  | none => rfl
  | some h => exact congrArg Option.some (hview _ _ h)

/-- A value that is related to another optional value has a partner there. -/
theorem Option.Rel.exists_right {α β : Type} {related : α → β → Prop} {it : Option α} {it' : Option β}
    (h : Option.Rel related it it') {value : α} (hvalue : it = .some value) :
    ∃ value', it' = .some value' ∧ related value value' := by
  subst hvalue
  cases h with
  | some h => exact ⟨_, rfl, h⟩

/-- What is related to nothing is nothing. -/
theorem Option.Rel.eq_none {α β : Type} {related : α → β → Prop} {it : Option α} {it' : Option β}
    (h : Option.Rel related it it') (hnone : it = .none) : it' = .none := by
  subst hnone
  cases h
  rfl

/-- A value that another optional value is related to has a partner there. -/
theorem Option.Rel.exists_left {α β : Type} {related : α → β → Prop} {it : Option α} {it' : Option β}
    (h : Option.Rel related it it') {value' : β} (hvalue : it' = .some value') :
    ∃ value, it = .some value ∧ related value value' := by
  subst hvalue
  cases h with
  | some h => exact ⟨_, rfl, h⟩

namespace QuerySemantics

/-- **Likeness** of two trees: which nodes and which tokens correspond. The same nodes start behind an
`ELSE`, since the expression behind it is known by that. `qualifies` collects what is known of the
first tree: the nodes that are a name with a qualifier, with the token of the latter. -/
structure Likeness where
  info : NodeInfo → NodeInfo → Prop
  token : Token → Token → Prop
  qualifies : NodeInfo → Token → Prop
  kind_eq {info₁ info₂ : NodeInfo} : info info₁ info₂ → info₂.kind = info₁.kind
  token_kind_eq {token₁ token₂ : Token} : token token₁ token₂ → token₂.kind = token₁.kind
  token_text_eq {token₁ token₂ : Token} : token token₁ token₂ → token₂.text = token₁.text
  follows_iff {token₁ token₂ : Token} {info₁ info₂ : NodeInfo} : token₁.kind = .elseKeyword →
    token token₁ token₂ → info info₁ info₂ → (token₂.stop ≤ info₂.start ↔ token₁.stop ≤ info₁.start)

/-- **Faithful**: different nodes correspond to different nodes. -/
def Likeness.Faithful (like : Likeness) : Prop :=
  ∀ info info' other other', like.info info info' → like.info other other' →
    (other'.index = info'.index ↔ other.index = info.index)

/-- Alike tokens stand for the same name. -/
theorem Likeness.ident_eq {like : Likeness} {token token' : Token} (h : like.token token token') :
    token'.ident = token.ident := by
  rw [Token.ident, like.token_text_eq h, Token.ident]

/-- What only the text of a token decides is the same for alike tokens. -/
theorem Likeness.map_ident_eq {like : Likeness} {token token' : Option Token}
    (h : Option.Rel like.token token token') : token'.map Token.ident = token.map Token.ident := by
  cases h with
  | none => rfl
  | some h => simp [like.ident_eq h]

namespace Ast

variable (like : Likeness)

/-! ## Leaves -/

/-- Alike aliases. -/
structure Alias.Alike (name name' : Alias) : Prop where
  info : like.info name.info name'.info
  ident : Option.Rel like.token name.ident name'.ident

/-- Alike row limits. -/
structure Top.Alike (top top' : Top) : Prop where
  info : like.info top.info top'.info
  value : Option.Rel like.token top.value top'.value
  withTies : top'.withTies = top.withTies

/-- Alike type names. -/
structure TypeName.Alike (name name' : TypeName) : Prop where
  info : like.info name.info name'.info
  ident : Option.Rel like.token name.ident name'.ident

/-- Alike column name lists. -/
structure ColumnNames.Alike (names names' : ColumnNames) : Prop where
  info : like.info names.info names'.info
  idents : List.Forall₂ like.token names.idents names'.idents

/-! ## Expressions, table references and queries -/

mutual

/-- **Alike expressions.** -/
inductive Expr.Alike : Expr → Expr → Prop
  | name {info info' : NodeInfo} {ident ident' : Option Token} (hinfo : like.info info info')
      (hident : Option.Rel like.token ident ident') :
      Expr.Alike (.name info ident) (.name info' ident')
  | parameter {info info' : NodeInfo} {ident ident' : Option Token} (hinfo : like.info info info')
      (hident : Option.Rel like.token ident ident') :
      Expr.Alike (.parameter info ident) (.parameter info' ident')
  | literal {info info' : NodeInfo} {token token' : Option Token} (hinfo : like.info info info')
      (htoken : Option.Rel like.token token token') :
      Expr.Alike (.literal info token) (.literal info' token')
  | unary {info info' : NodeInfo} {operator operator' : Option Token} {operand operand' : Option Expr}
      (hinfo : like.info info info') (hoperator : Option.Rel like.token operator operator')
      (hoperand : Option.Rel Expr.Alike operand operand') :
      Expr.Alike (.unary info operator operand) (.unary info' operator' operand')
  | binary {info info' : NodeInfo} {left left' : Option Expr} {operator operator' : Option Token}
      {negated : Bool} {right right' : Option Expr} (hinfo : like.info info info')
      (hleft : Option.Rel Expr.Alike left left') (hoperator : Option.Rel like.token operator operator')
      (hright : Option.Rel Expr.Alike right right') :
      Expr.Alike (.binary info left operator negated right)
        (.binary info' left' operator' negated right')
  | parenthesized {info info' : NodeInfo} {inner inner' : Option Expr} (hinfo : like.info info info')
      (hinner : Option.Rel Expr.Alike inner inner') :
      Expr.Alike (.parenthesized info inner) (.parenthesized info' inner')
  | property {info info' : NodeInfo} {target target' : Option Expr} {ident ident' : Option Token}
      (hinfo : like.info info info') (htarget : Option.Rel Expr.Alike target target')
      (hident : Option.Rel like.token ident ident')
      (hqualifies : ∀ node token, target.bind Binding.qualifier? = some (node, token) →
        like.qualifies info token) :
      Expr.Alike (.property info target ident) (.property info' target' ident')
  | method {info info' : NodeInfo} {target target' : Option Expr} {ident ident' : Option Token}
      {arguments arguments' : Option Arguments} (hinfo : like.info info info')
      (htarget : Option.Rel Expr.Alike target target') (hident : Option.Rel like.token ident ident')
      (harguments : Option.Rel Arguments.Alike arguments arguments') :
      Expr.Alike (.method info target ident arguments) (.method info' target' ident' arguments')
  | call {info info' : NodeInfo} {ident ident' : Option Token} {arguments arguments' : Option Arguments}
      (hinfo : like.info info info') (hident : Option.Rel like.token ident ident')
      (harguments : Option.Rel Arguments.Alike arguments arguments') :
      Expr.Alike (.call info ident arguments) (.call info' ident' arguments')
  | countAll {info info' : NodeInfo} {ident ident' : Option Token} (hinfo : like.info info info')
      (hident : Option.Rel like.token ident ident') :
      Expr.Alike (.countAll info ident) (.countAll info' ident')
  | cast {info info' : NodeInfo} {operand operand' : Option Expr} {target target' : Option TypeName}
      (hinfo : like.info info info') (hoperand : Option.Rel Expr.Alike operand operand')
      (htarget : Option.Rel (TypeName.Alike like) target target') :
      Expr.Alike (.cast info operand target) (.cast info' operand' target')
  | isNull {info info' : NodeInfo} {operand operand' : Option Expr} {negated : Bool}
      (hinfo : like.info info info') (hoperand : Option.Rel Expr.Alike operand operand') :
      Expr.Alike (.isNull info operand negated) (.isNull info' operand' negated)
  | cases {info info' : NodeInfo} {input input' : Option Expr} {labels labels' : List CaseLabel}
      {otherwise otherwise' : Option Expr} (hinfo : like.info info info')
      (hinput : Option.Rel Expr.Alike input input')
      (hlabels : List.Forall₂ CaseLabel.Alike labels labels')
      (hotherwise : Option.Rel Expr.Alike otherwise otherwise') :
      Expr.Alike (.cases info input labels otherwise) (.cases info' input' labels' otherwise')
  | subselect {info info' : NodeInfo} {query query' : Option Query} (hinfo : like.info info info')
      (hquery : Option.Rel Query.Alike query query') :
      Expr.Alike (.subselect info query) (.subselect info' query')
  | existence {info info' : NodeInfo} {query query' : Option Query} (hinfo : like.info info info')
      (hquery : Option.Rel Query.Alike query query') :
      Expr.Alike (.existence info query) (.existence info' query')
  | quantified {info info' : NodeInfo} {left left' : Option Expr} {operator operator' : Option Token}
      {quantifier : Quantifier} {query query' : Option Query} (hinfo : like.info info info')
      (hleft : Option.Rel Expr.Alike left left') (hoperator : Option.Rel like.token operator operator')
      (hquery : Option.Rel Query.Alike query query') :
      Expr.Alike (.quantified info left operator quantifier query)
        (.quantified info' left' operator' quantifier query')

/-- Alike argument lists. -/
inductive Arguments.Alike : Arguments → Arguments → Prop
  | mk {info info' : NodeInfo} {items items' : List Expr} (hinfo : like.info info info')
      (hitems : List.Forall₂ Expr.Alike items items') : Arguments.Alike (.mk info items) (.mk info' items')

/-- Alike labels of a `CASE`. -/
inductive CaseLabel.Alike : CaseLabel → CaseLabel → Prop
  | mk {info info' : NodeInfo} {condition condition' result result' : Option Expr}
      (hinfo : like.info info info') (hcondition : Option.Rel Expr.Alike condition condition')
      (hresult : Option.Rel Expr.Alike result result') :
      CaseLabel.Alike (.mk info condition result) (.mk info' condition' result')

/-- Alike conditions. -/
inductive Condition.Alike : Condition → Condition → Prop
  | mk {info info' : NodeInfo} {predicate predicate' : Option Expr} (hinfo : like.info info info')
      (hpredicate : Option.Rel Expr.Alike predicate predicate') :
      Condition.Alike (.mk info predicate) (.mk info' predicate')

/-- **Alike table references.** -/
inductive TableRef.Alike : TableRef → TableRef → Prop
  | named {info info' : NodeInfo} {ident ident' : Option Token} {correlation correlation' : Option Alias}
      (hinfo : like.info info info') (hident : Option.Rel like.token ident ident')
      (hcorrelation : Option.Rel (Alias.Alike like) correlation correlation') :
      TableRef.Alike (.named info ident correlation) (.named info' ident' correlation')
  | derived {info info' : NodeInfo} {query query' : Option Query} {ident ident' : Option Token}
      (hinfo : like.info info info') (hquery : Option.Rel Query.Alike query query')
      (hident : Option.Rel like.token ident ident') :
      TableRef.Alike (.derived info query ident) (.derived info' query' ident')
  | joined {info info' : NodeInfo} {left left' : Option TableRef} {kind : JoinKind}
      {right right' : Option TableRef} {condition condition' : Option Condition}
      (hinfo : like.info info info') (hleft : Option.Rel TableRef.Alike left left')
      (hright : Option.Rel TableRef.Alike right right')
      (hcondition : Option.Rel Condition.Alike condition condition') :
      TableRef.Alike (.joined info left kind right condition)
        (.joined info' left' kind right' condition')
  | parenthesized {info info' : NodeInfo} {inner inner' : Option TableRef}
      (hinfo : like.info info info') (hinner : Option.Rel TableRef.Alike inner inner') :
      TableRef.Alike (.parenthesized info inner) (.parenthesized info' inner')

/-- Alike select list entries. -/
inductive SelectItem.Alike : SelectItem → SelectItem → Prop
  | column {info info' : NodeInfo} {value value' : Option Expr} {correlation correlation' : Option Alias}
      (hinfo : like.info info info') (hvalue : Option.Rel Expr.Alike value value')
      (hcorrelation : Option.Rel (Alias.Alike like) correlation correlation') :
      SelectItem.Alike (.column info value correlation) (.column info' value' correlation')
  | wildcard {info info' : NodeInfo} {table table' : Option Token} (hinfo : like.info info info')
      (htable : Option.Rel like.token table table') :
      SelectItem.Alike (.wildcard info table) (.wildcard info' table')

/-- Alike select clauses. -/
inductive SelectClause.Alike : SelectClause → SelectClause → Prop
  | mk {info info' : NodeInfo} {distinct : Bool} {top top' : Option Top} {items items' : List SelectItem}
      (hinfo : like.info info info') (htop : Option.Rel (Top.Alike like) top top')
      (hitems : List.Forall₂ SelectItem.Alike items items') :
      SelectClause.Alike (.mk info distinct top items) (.mk info' distinct top' items')

/-- Alike `FROM` clauses. -/
inductive FromClause.Alike : FromClause → FromClause → Prop
  | mk {info info' : NodeInfo} {tables tables' : List TableRef} (hinfo : like.info info info')
      (htables : List.Forall₂ TableRef.Alike tables tables') :
      FromClause.Alike (.mk info tables) (.mk info' tables')

/-- Alike `GROUP BY` clauses. -/
inductive GroupByClause.Alike : GroupByClause → GroupByClause → Prop
  | mk {info info' : NodeInfo} {keys keys' : List Expr} (hinfo : like.info info info')
      (hkeys : List.Forall₂ Expr.Alike keys keys') :
      GroupByClause.Alike (.mk info keys) (.mk info' keys')

/-- Alike `ORDER BY` entries. -/
inductive OrderItem.Alike : OrderItem → OrderItem → Prop
  | mk {info info' : NodeInfo} {key key' : Option Expr} {descending : Bool}
      (hinfo : like.info info info') (hkey : Option.Rel Expr.Alike key key') :
      OrderItem.Alike (.mk info key descending) (.mk info' key' descending)

/-- Alike definitions of a `WITH`. -/
inductive CommonTable.Alike : CommonTable → CommonTable → Prop
  | mk {info info' : NodeInfo} {ident ident' : Option Token} {columns columns' : Option ColumnNames}
      {query query' : Option Query} (hinfo : like.info info info')
      (hident : Option.Rel like.token ident ident')
      (hcolumns : Option.Rel (ColumnNames.Alike like) columns columns')
      (hquery : Option.Rel Query.Alike query query') :
      CommonTable.Alike (.mk info ident columns query) (.mk info' ident' columns' query')

/-- **Alike queries.** -/
inductive Query.Alike : Query → Query → Prop
  | select {info info' : NodeInfo} {head head' : Option SelectClause} {source source' : Option FromClause}
      {filter filter' : Option Condition} {grouping grouping' : Option GroupByClause}
      {having having' : Option Condition} (hinfo : like.info info info')
      (hhead : Option.Rel SelectClause.Alike head head')
      (hsource : Option.Rel FromClause.Alike source source')
      (hfilter : Option.Rel Condition.Alike filter filter')
      (hgrouping : Option.Rel GroupByClause.Alike grouping grouping')
      (hhaving : Option.Rel Condition.Alike having having') :
      Query.Alike (.select info head source filter grouping having)
        (.select info' head' source' filter' grouping' having')
  | combined {info info' : NodeInfo} {left left' : Option Query} {operator : Option SetOperator}
      {right right' : Option Query} (hinfo : like.info info info')
      (hleft : Option.Rel Query.Alike left left') (hright : Option.Rel Query.Alike right right') :
      Query.Alike (.combined info left operator right) (.combined info' left' operator right')
  | ordered {info info' : NodeInfo} {input input' : Option Query} {items items' : List OrderItem}
      (hinfo : like.info info info') (hinput : Option.Rel Query.Alike input input')
      (hitems : List.Forall₂ OrderItem.Alike items items') :
      Query.Alike (.ordered info input items) (.ordered info' input' items')
  | withTables {info info' : NodeInfo} {tables tables' : List CommonTable} {body body' : Option Query}
      (hinfo : like.info info info') (htables : List.Forall₂ CommonTable.Alike tables tables')
      (hbody : Option.Rel Query.Alike body body') :
      Query.Alike (.withTables info tables body) (.withTables info' tables' body')
  | parenthesized {info info' : NodeInfo} {inner inner' : Option Query} (hinfo : like.info info info')
      (hinner : Option.Rel Query.Alike inner inner') :
      Query.Alike (.parenthesized info inner) (.parenthesized info' inner')

end

/-! ## What is looked at before binding -/

namespace Expr.Alike

variable {like} {it it' : Expr}

/-- Alike expressions stand at corresponding nodes. -/
theorem info (h : it.Alike like it') : like.info it.info it'.info := by
  cases h <;> assumption

/-- Whether an expression is a bare name, and which one. -/
theorem qualifier? (h : it.Alike like it') :
    Option.Rel (fun (part part' : NodeInfo × Token) => like.info part.1 part'.1 ∧
      like.token part.2 part'.2) (Binding.qualifier? it) (Binding.qualifier? it') := by
  cases h with
  | name hinfo hident =>
    cases hident with
    | none => exact .none
    | some hident => exact .some ⟨hinfo, hident⟩
  | _ => exact .none

/-- Whether an expression is a number without fraction and exponent, and which one. -/
theorem position? (h : it.Alike like it') :
    Option.Rel (fun (part part' : Token × Int) => like.token part.1 part'.1 ∧ part'.2 = part.2)
      it.position? it'.position? := by
  cases h with
  | literal hinfo htoken =>
    cases htoken with
    | none => exact .none
    | some htoken =>
      rw [Expr.position?, Expr.position?, like.token_kind_eq htoken, like.token_text_eq htoken]
      split
      · cases Integer.signedFitting? 64 _ with
        | none => exact .none
        | some position => exact .some ⟨htoken, rfl⟩
      · exact .none
  | _ => exact .none

end Expr.Alike

variable {like}

/-- Alike table references stand at corresponding nodes. -/
theorem TableRef.Alike.info {it it' : TableRef} (h : it.Alike like it') : like.info it.info it'.info := by
  cases h <;> assumption

/-- Alike queries stand at corresponding nodes. -/
theorem Query.Alike.info {it it' : Query} (h : it.Alike like it') : like.info it.info it'.info := by
  cases h <;> assumption

/-- **The own name** of an expression is that of one that is alike: it is found behind the same
parentheses. -/
theorem Expr.Alike.ownName? : ∀ {it it' : Expr}, it.Alike like it' → it'.ownName? = it.ownName?
  | .parenthesized _ (some inner), _, .parenthesized _ (.some h) => by
    have hinner : _ = inner.ownName? := Expr.Alike.ownName? h
    simpa only [Expr.ownName?, Expr.core, Expr.coreOr] using hinner
  | .parenthesized _ none, _, .parenthesized _ .none => rfl
  | .name _ _, _, .name _ h | .parameter _ _, _, .parameter _ h | .property _ _ _, _, .property _ _ h _ =>
    Likeness.map_ident_eq h
  | .literal _ _, _, .literal _ _ | .unary _ _ _, _, .unary _ _ _ | .binary _ _ _ _ _, _, .binary _ _ _ _
  | .method _ _ _ _, _, .method _ _ _ _ | .call _ _ _, _, .call _ _ _ | .countAll _ _, _, .countAll _ _
  | .cast _ _ _, _, .cast _ _ _ | .isNull _ _ _, _, .isNull _ _ | .cases _ _ _ _, _, .cases _ _ _ _
  | .subselect _ _, _, .subselect _ _ | .existence _ _, _, .existence _ _
  | .quantified _ _ _ _ _, _, .quantified _ _ _ _ => rfl

/-! ## Inside parentheses -/

/-- What stands inside the parentheses of alike expressions is alike. -/
theorem Expr.Alike.core : ∀ {it it' : Expr}, it.Alike like it' → it.core.Alike like it'.core
  | .parenthesized _ (some _), _, .parenthesized _ (.some h) => by
    rw [Expr.core, Expr.coreOr, Expr.core, Expr.coreOr]
    exact h.core
  | .parenthesized _ none, _, .parenthesized hinfo .none => .parenthesized hinfo .none
  | .name _ _, it', h | .parameter _ _, it', h | .literal _ _, it', h | .unary _ _ _, it', h
  | .binary _ _ _ _ _, it', h | .property _ _ _, it', h | .method _ _ _ _, it', h
  | .call _ _ _, it', h | .countAll _ _, it', h | .cast _ _ _, it', h | .isNull _ _ _, it', h
  | .cases _ _ _ _, it', h | .subselect _ _, it', h | .existence _ _, it', h
  | .quantified _ _ _ _ _, it', h => by
    have hcore : it'.core = it' := by
      cases h
      rfl
    rw [hcore]
    exact h

/-- What stands inside the parentheses of alike table references is alike. -/
theorem TableRef.Alike.core : ∀ {it it' : TableRef}, it.Alike like it' → it.core.Alike like it'.core
  | .parenthesized _ (some _), _, .parenthesized _ (.some h) => by
    rw [TableRef.core, TableRef.coreOr, TableRef.core, TableRef.coreOr]
    exact h.core
  | .parenthesized _ none, _, .parenthesized hinfo .none => .parenthesized hinfo .none
  | .named _ _ _, it', h | .derived _ _ _, it', h | .joined _ _ _ _ _, it', h => by
    have hcore : it'.core = it' := by
      cases h
      rfl
    rw [hcore]
    exact h

/-- What stands inside the parentheses of alike queries is alike. -/
theorem Query.Alike.core : ∀ {it it' : Query}, it.Alike like it' → it.core.Alike like it'.core
  | .parenthesized _ (some _), _, .parenthesized _ (.some h) => by
    rw [Query.core, Query.coreOr, Query.core, Query.coreOr]
    exact h.core
  | .parenthesized _ none, _, .parenthesized hinfo .none => .parenthesized hinfo .none
  | .select _ _ _ _ _ _, it', h | .combined _ _ _ _, it', h | .ordered _ _ _, it', h
  | .withTables _ _ _, it', h => by
    have hcore : it'.core = it' := by
      cases h
      rfl
    rw [hcore]
    exact h

end Ast

/-! ## What alike leaves say -/

namespace Likeness

variable {like : Likeness}

/-- What only the kind of a token decides is the same for alike tokens. -/
theorem bind_kind_eq {token token' : Option Token} {result : Type} (decide : Kind → Option result)
    (h : Option.Rel like.token token token') :
    (token'.bind fun it => decide it.kind) = token.bind fun it => decide it.kind := by
  cases h with
  | none => rfl
  | some h => simp only [Option.bind_some, like.token_kind_eq h]

/-- Alike tokens have the same value. -/
theorem value?_eq {token token' : Token} (h : like.token token token') :
    Literal.value? token' = Literal.value? token := by
  rw [Literal.value?, Literal.value?, like.token_kind_eq h, like.token_text_eq h]

/-- Alike aliases give the same name. -/
theorem aliasName?_eq {correlation correlation' : Option Ast.Alias}
    (h : Option.Rel (Ast.Alias.Alike like) correlation correlation') :
    Binding.aliasName? correlation' = Binding.aliasName? correlation := by
  cases h with
  | none => rfl
  | some h => exact map_ident_eq h.ident

/-- Alike column name lists give the same names. -/
theorem columnNames_eq {list list' : Option Ast.ColumnNames}
    (h : Option.Rel (Ast.ColumnNames.Alike like) list list') :
    (list'.toList.flatMap Ast.ColumnNames.idents).map Token.ident =
      (list.toList.flatMap Ast.ColumnNames.idents).map Token.ident := by
  cases h with
  | none => rfl
  | @some list list' h =>
    obtain ⟨info, idents⟩ := list
    obtain ⟨info', idents'⟩ := list'
    obtain ⟨-, hidents⟩ := h
    dsimp only at hidents
    simp only [Option.toList_some, List.flatMap_singleton]
    induction hidents with
    | nil => rfl
    | cons h _ ih => rw [List.map_cons, List.map_cons, like.ident_eq h, ih]

end Likeness

end QuerySemantics
