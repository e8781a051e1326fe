import QuerySemantics.Ast.Read
import QuerySemantics.Proofs.Tree.Placement

/-!
# Parts of pieces

What a piece of a tree consists of, whatever its form: the pieces that its typed accessors return,
and those that binding goes on to. A piece that stands alone or holds a name only has none.

## Main definitions

* `Piece.info?`: the node that a piece was read from.
* `Piece.parts`, `Piece.operands`: what the accessors of a piece return, with its clauses and through
  them.
* `Piece.core`, `Piece.isEmptyNest`: a piece without the parentheses around it, and parentheses around
  nothing.
* `Piece.early`, `Piece.late`, `Piece.visited`: the parts that binding goes on to, before and after
  the node enters a scope of its own.
* `Piece.enters`, `Piece.isRecorded`: the nodes that enter a scope, and those that are bound.
* `Piece.Reached`: binding one piece comes to another.

## Main results

* `Piece.mem_visited_iff`: binding goes on to every part, but for the target of a property without
  name.
* `Located.exists_child_of_mem_parts`: a part is read from a child.
* `Located.exists_node_of_reached`: what is reached is read from a node of the tree.
* `Located.Placed.reached_between`: reaching into a node goes over it.
-/

set_option autoImplicit false

namespace QuerySemantics

open Ast

namespace Piece

/-! ## Nodes of pieces -/

/-- The node that a piece was read from. -/
def info? : Piece → Option NodeInfo
  | .token _ => none
  | .unit it => some it.info
  | .expr it => some it.info
  | .query it => some it.info
  | .table it => some it.info
  | .selectClause it => some it.info
  | .top it => some it.info
  | .selectItem it => some it.info
  | .aliasClause it => some it.info
  | .fromClause it => some it.info
  | .condition it => some it.info
  | .groupBy it => some it.info
  | .orderItem it => some it.info
  | .commonTable it => some it.info
  | .columnNames it => some it.info
  | .arguments it => some it.info
  | .typeName it => some it.info
  | .caseLabel it => some it.info
  | .other info => some info

/-- A node is read with its own information. -/
theorem info?_ofNode (info : NodeInfo) (pieces : List Piece) :
    (ofNode info pieces).info? = some info := by
  unfold ofNode
  split <;> rfl

/-! ## Parts -/

/-- An expression that may be missing, as parts of a piece. -/
def ofExpr? (it : Option Expr) : List Piece :=
  it.toList.map .expr

/-- A query that may be missing, as parts of a piece. -/
def ofQuery? (it : Option Query) : List Piece :=
  it.toList.map .query

/-- A table reference that may be missing, as parts of a piece. -/
def ofTable? (it : Option TableRef) : List Piece :=
  it.toList.map .table

/-- **Parts**: the expressions, queries, table references, list entries and clauses that the typed
accessors of a piece return. -/
def parts : Piece → List Piece
  | .unit it => ofQuery? it.query ++ ofExpr? it.expression
  | .expr (.unary _ _ operand) => ofExpr? operand
  | .expr (.binary _ left _ _ right) => ofExpr? left ++ ofExpr? right
  | .expr (.parenthesized _ inner) => ofExpr? inner
  | .expr (.property _ target _) => ofExpr? target
  | .expr (.method _ target _ list) => ofExpr? target ++ list.toList.map .arguments
  | .expr (.call _ _ list) => list.toList.map .arguments
  | .expr (.cast _ operand _) => ofExpr? operand
  | .expr (.isNull _ operand _) => ofExpr? operand
  | .expr (.cases _ input labels otherwise) =>
    ofExpr? input ++ labels.map .caseLabel ++ ofExpr? otherwise
  | .expr (.subselect _ body) => ofQuery? body
  | .expr (.existence _ body) => ofQuery? body
  | .expr (.quantified _ left _ _ body) => ofExpr? left ++ ofQuery? body
  | .arguments (.mk _ items) => items.map .expr
  | .caseLabel (.mk _ test result) => ofExpr? test ++ ofExpr? result
  | .condition (.mk _ predicate) => ofExpr? predicate
  | .table (.derived _ body _) => ofQuery? body
  | .table (.joined _ left _ right clause) =>
    ofTable? left ++ ofTable? right ++ clause.toList.map .condition
  | .table (.parenthesized _ inner) => ofTable? inner
  | .selectItem (.column _ value _) => ofExpr? value
  | .selectClause (.mk _ _ _ items) => items.map .selectItem
  | .fromClause (.mk _ tables) => tables.map .table
  | .groupBy (.mk _ keys) => keys.map .expr
  | .orderItem (.mk _ key _) => ofExpr? key
  | .commonTable (.mk _ _ _ body) => ofQuery? body
  | .query (.select _ head source filter grouping having) =>
    source.toList.map .fromClause ++ filter.toList.map .condition ++
      grouping.toList.map .groupBy ++ having.toList.map .condition ++
      head.toList.map .selectClause
  | .query (.combined _ left _ right) => ofQuery? left ++ ofQuery? right
  | .query (.ordered _ input items) => ofQuery? input ++ items.map .orderItem
  | .query (.withTables _ tables body) => tables.map .commonTable ++ ofQuery? body
  | .query (.parenthesized _ inner) => ofQuery? inner
  | _ => []

/-- Whether a piece is a clause or a list entry that is not bound itself, but its parts are. -/
def isClause : Piece → Bool
  | .selectClause _ | .fromClause _ | .condition _ | .groupBy _ | .orderItem _ | .arguments _ =>
    true
  | _ => false

/-- **Operands**: the parts of a piece, with the parts of its clauses in place of the clauses. -/
def operands (piece : Piece) : List Piece :=
  piece.parts.flatMap fun part => if part.isClause then part.parts else [part]

/-- **Property without name**: what `o.` is read as. -/
def isNameless : Piece → Bool
  | .expr (.property _ _ none) => true
  | _ => false

/-- **Core**: the piece inside all parentheses around it. -/
def core : Piece → Piece
  | .expr it => .expr it.core
  | .query it => .query it.core
  | .table it => .table it.core
  | piece => piece

/-- **Parentheses with nothing inside**, possibly with more of them around. -/
def isEmptyNest : Piece → Bool
  | .expr it => (it.core matches .parenthesized _ _)
  | .query it => (it.core matches .parenthesized _ _)
  | .table it => (it.core matches .parenthesized _ _)
  | _ => false

/-! ## The way of binding -/

/-- **Early parts**: those that are bound before the node enters a scope of its own, in order. One
that is called for but missing is `none`. -/
def early : Piece → List (Option Piece)
  | .unit ⟨_, some body, _⟩ => [some (.query body)]
  | .unit ⟨_, none, expression⟩ => [expression.map .expr]
  | .expr (.unary _ _ operand) => [operand.map .expr]
  | .expr (.binary _ left _ _ right) => [left.map .expr, right.map .expr]
  | .expr (.parenthesized _ inner) => [inner.map .expr]
  | .expr (.property _ (some target) (some _)) => [some (.expr target)]
  | .expr (.method _ target _ list) => [target.map .expr, list.map .arguments]
  | .expr (.call _ _ list) => [list.map .arguments]
  | .expr (.cast _ operand _) => [operand.map .expr]
  | .expr (.isNull _ operand _) => [operand.map .expr]
  | .expr (.cases _ input labels otherwise) =>
    input.map .expr :: labels.map (some ∘ .caseLabel) ++ [otherwise.map .expr]
  | .expr (.subselect _ body) => [body.map .query]
  | .expr (.existence _ body) => [body.map .query]
  | .expr (.quantified _ left _ _ body) => [left.map .expr, body.map .query]
  | .arguments (.mk _ items) => items.map (some ∘ .expr)
  | .caseLabel (.mk _ test result) => [test.map .expr, result.map .expr]
  | .condition (.mk _ predicate) => [predicate.map .expr]
  | .table (.derived _ body _) => [body.map .query]
  | .table (.joined _ left _ right _) => [left.map .table, right.map .table]
  | .table (.parenthesized _ inner) => [inner.map .table]
  | .selectItem (.column _ value _) => [value.map .expr]
  | .selectClause (.mk _ _ _ items) => items.map (some ∘ .selectItem)
  | .fromClause (.mk _ tables) => tables.map (some ∘ .table)
  | .groupBy (.mk _ keys) => keys.map (some ∘ .expr)
  | .orderItem (.mk _ key _) => [key.map .expr]
  | .query (.select _ _ source _ _ _) => [source.map .fromClause]
  | .query (.combined _ left _ right) => [left.map .query, right.map .query]
  | .query (.ordered _ input _) => [input.map .query]
  | .query (.withTables _ tables _) => tables.map (some ∘ .commonTable)
  | .query (.parenthesized _ inner) => [inner.map .query]
  | _ => []

/-- **Late parts**: those that are bound in the scope that the node enters, in order. -/
def late : Piece → List (Option Piece)
  | .table (.joined _ _ _ _ clause) => [clause.map .condition]
  | .query (.select _ head _ filter grouping having) =>
    [filter.map .condition, grouping.map .groupBy, having.map .condition,
      head.map .selectClause]
  | .query (.ordered _ _ items) => items.map (some ∘ .orderItem)
  | .query (.withTables _ _ body) => [body.map .query]
  | .commonTable (.mk _ _ _ body) => [body.map .query]
  | _ => []

/-- **Visited parts**: those that binding goes on to. -/
def visited (piece : Piece) : List Piece :=
  (piece.early ++ piece.late).filterMap id

/-- Whether binding a node enters a scope and remembers it for the node. -/
def enters : Piece → Bool
  | .table (.joined _ _ _ _ _) | .commonTable _ => true
  | .query (.select _ _ _ _ _ _) | .query (.ordered _ _ _) | .query (.withTables _ _ _) => true
  | _ => false

/-- Whether binding a node remembers what it was bound to. Parentheses and clauses are passed
through. -/
def isRecorded : Piece → Bool
  | .expr (.parenthesized _ _) | .table (.parenthesized _ _) | .query (.parenthesized _ _) => false
  | .expr _ | .table _ | .query _ | .selectItem _ | .caseLabel _ | .commonTable _ => true
  | _ => false

/-- Whether a tree that is read as the piece is bound: units, queries and expressions are. -/
def isRoot : Piece → Bool
  | .unit _ | .query _ | .expr _ => true
  | _ => false

/-- Only nodes that enter a scope have late parts. -/
theorem late_eq_nil {piece : Piece} (h : piece.enters = false) : piece.late = [] := by
  unfold late
  split <;> first | rfl | simp [enters] at h

/-- A property without name has no parts that binding goes on to. -/
theorem visited_of_isNameless {piece : Piece} (h : piece.isNameless = true) : piece.visited = [] := by
  unfold isNameless at h
  split at h
  · rename_i target
    cases target <;> rfl
  · cases h

/-- **Binding goes on to the parts in order**, if the piece is no unit and no property without name. -/
theorem visited_eq_parts {piece : Piece} (hunit : ∀ it, piece ≠ .unit it)
    (hnameless : piece.isNameless = false) : piece.visited = piece.parts := by
  have hcons : ∀ {α : Type} (it : Option α) (wrap : α → Piece) (rest : List (Option Piece)),
      (it.map wrap :: rest).filterMap id = it.toList.map wrap ++ rest.filterMap id := by
    intro α it wrap rest
    cases it <;> rfl
  have hall : ∀ {α : Type} (items : List α) (wrap : α → Piece),
      (items.map (some ∘ wrap)).filterMap id = items.map wrap := by
    intro α items wrap
    rw [List.filterMap_map]
    exact congrFun List.filterMap_eq_map items
  cases piece with
  | unit it => exact absurd rfl (hunit it)
  | expr it =>
    cases it with
    | property info target ident =>
      cases target <;> cases ident <;> simp [visited, early, late, parts, ofExpr?]
      cases hnameless
    | _ =>
      simp only [visited, early, late, parts, ofExpr?, ofQuery?, hcons, hall, List.filterMap_append,
        List.filterMap_nil, List.append_nil, List.append_assoc]
  | query it | table it | selectItem it | selectClause it | fromClause it | condition it
  | groupBy it | orderItem it | arguments it | caseLabel it | commonTable it =>
    cases it <;>
      simp only [visited, early, late, parts, ofExpr?, ofQuery?, ofTable?, hcons, hall,
        List.filterMap_append, List.filterMap_nil, List.append_nil, List.nil_append, List.append_assoc]
  | _ => simp [visited, early, late, parts]

/-- **Binding goes on to every part**, but for the target of a property without name. A unit is
apart: of its query and its expression only one is bound. -/
theorem mem_visited_iff {piece part : Piece} (hunit : ∀ it, piece ≠ .unit it) :
    part ∈ piece.visited ↔ part ∈ piece.parts ∧ piece.isNameless = false := by
  cases hnameless : piece.isNameless
  · simp [visited_eq_parts hunit hnameless]
  · simp [visited_of_isNameless hnameless]

/-! ## Parts and children -/

/-- **Accessors unwrap**: what an accessor finds first among the pieces of a node is one of them, if
it only takes off the constructor. -/
theorem mem_of_findSome? {α : Type} {wrap : α → Piece} {access : Piece → Option α}
    (haccess : ∀ {piece it}, access piece = some it → piece = wrap it) {pieces : List Piece}
    {it : α} (h : pieces.findSome? access = some it) : wrap it ∈ pieces := by
  obtain ⟨piece, hmem, hpiece⟩ := List.exists_of_findSome?_eq_some h
  rwa [← haccess hpiece]

/-- What an accessor finds anywhere among the pieces of a node is one of them. -/
theorem mem_of_filterMap {α : Type} {wrap : α → Piece} {access : Piece → Option α}
    (haccess : ∀ {piece it}, access piece = some it → piece = wrap it) {pieces : List Piece}
    {it : α} (h : it ∈ pieces.filterMap access) : wrap it ∈ pieces := by
  obtain ⟨piece, hmem, hpiece⟩ := List.mem_filterMap.1 h
  rwa [← haccess hpiece]

/-- The expressions that the accessors of a node find are among its pieces. -/
theorem expr_mem {pieces : List Piece} {it : Expr} (h : expression? pieces = some it ∨
    secondExpression? pieces = some it ∨ caseInput? pieces = some it ∨
      caseElse? pieces = some it ∨ it ∈ pieces.filterMap expr?) : .expr it ∈ pieces := by
  have hunwrap : ∀ {piece : Piece} {it : Expr}, piece.expr? = some it → piece = .expr it := by
    intro piece it h
    cases piece <;> cases h
    rfl
  rcases h with h | h | h | h | h
  · exact mem_of_findSome? hunwrap h
  · exact mem_of_filterMap hunwrap (List.mem_of_getElem? h)
  · exact List.takeWhile_subset _ (mem_of_findSome? hunwrap h)
  · simp only [caseElse?, Option.bind_eq_bind, Option.bind_eq_some_iff] at h
    obtain ⟨keyword, -, h⟩ := h
    exact mem_of_filterMap hunwrap (List.mem_of_find?_eq_some h)
  · exact mem_of_filterMap hunwrap h

/-- The queries that the accessors of a node find are among its pieces. -/
theorem query_mem {pieces : List Piece} {it : Query} (h : pieces.findSome? query? = some it ∨
    (pieces.filterMap query?)[1]? = some it) : .query it ∈ pieces := by
  have hunwrap : ∀ {piece : Piece} {it : Query}, piece.query? = some it → piece = .query it := by
    intro piece it h
    cases piece <;> cases h
    rfl
  rcases h with h | h
  · exact mem_of_findSome? hunwrap h
  · exact mem_of_filterMap hunwrap (List.mem_of_getElem? h)

/-- The table references that the accessors of a node find are among its pieces. -/
theorem table_mem {pieces : List Piece} {it : TableRef} (h : pieces.findSome? table? = some it ∨
    (pieces.filterMap table?)[1]? = some it ∨ it ∈ pieces.filterMap table?) :
    .table it ∈ pieces := by
  have hunwrap : ∀ {piece : Piece} {it : TableRef}, piece.table? = some it → piece = .table it := by
    intro piece it h
    cases piece <;> cases h
    rfl
  rcases h with h | h | h
  · exact mem_of_findSome? hunwrap h
  · exact mem_of_filterMap hunwrap (List.mem_of_getElem? h)
  · exact mem_of_filterMap hunwrap h

/-- The condition of a kind that the accessor of a node finds is among its pieces. -/
theorem condition_mem {pieces : List Piece} {kind : Kind} {it : Condition}
    (h : pieces.findSome? (condition? kind) = some it) : .condition it ∈ pieces := by
  refine mem_of_findSome? (fun {piece it} h => ?_) h
  cases piece <;> simp only [condition?, reduceCtorEq] at h
  split at h <;> cases h
  rfl

/-- **Parts are children**: what an accessor of a node returns is one of the pieces of the node. -/
theorem mem_of_mem_parts {info : NodeInfo} {pieces : List Piece} {part : Piece}
    (h : part ∈ (ofNode info pieces).parts) : part ∈ pieces := by
  unfold ofNode at h
  split at h
  all_goals
    simp only [parts, ofExpr?, ofQuery?, ofTable?, List.mem_append, List.mem_map,
      Option.mem_toList, List.not_mem_nil] at h
  -- each case is left with what one accessor finds
  all_goals
    repeat' refine Or.elim h ?_ ?_ <;> clear h <;> intro h
  all_goals
    obtain ⟨it, h, rfl⟩ := h
    first
    | exact expr_mem (by simp [h])
    | exact query_mem (by simp [h])
    | exact table_mem (by simp [h])
    | exact condition_mem h
    | refine mem_of_findSome? (fun {piece it} h => ?_) h
      cases piece <;> cases h <;> rfl
    | refine mem_of_filterMap (fun {piece it} h => ?_) h
      cases piece <;> cases h <;> rfl

/-- Binding goes on to parts only. -/
theorem mem_parts_of_mem_visited {piece part : Piece} (h : part ∈ piece.visited) :
    part ∈ piece.parts := by
  by_cases hunit : ∃ it, piece = .unit it
  · obtain ⟨⟨info, body, expression⟩, rfl⟩ := hunit
    cases body <;> cases expression <;>
      simp_all [visited, early, late, parts, ofExpr?, ofQuery?]
  · exact ((mem_visited_iff fun it hit => hunit ⟨it, hit⟩).1 h).1

/-! ## What binding reaches -/

/-- **Reached**: binding the one piece comes to the other, over visited parts. -/
inductive Reached : Piece → Piece → Prop where
  | refl (piece : Piece) : Reached piece piece
  | step {piece part inner : Piece} : part ∈ piece.visited → Reached part inner →
      Reached piece inner

/-- Reaching goes on from what is reached. -/
theorem Reached.trans {piece part inner : Piece} (h₁ : Reached piece part)
    (h₂ : Reached part inner) : Reached piece inner := by
  induction h₁ with
  | refl => exact h₂
  | step hpart _ ih => exact .step hpart (ih h₂)

/-- A piece reaches itself and what its visited parts reach. -/
theorem reached_iff {piece inner : Piece} :
    Reached piece inner ↔ inner = piece ∨ ∃ part ∈ piece.visited, Reached part inner := by
  constructor
  · intro h
    cases h with
    | refl => exact .inl rfl
    | step hpart hinner => exact .inr ⟨_, hpart, hinner⟩
  · rintro (rfl | ⟨part, hpart, hinner⟩)
    · exact .refl _
    · exact .step hpart hinner

end Piece

namespace Located

/-- A tree is read as a piece of its own node. -/
theorem info?_piece (part : Located) : part.piece.info? = part.info? := by
  cases part with
  | token leaf => rfl
  | node info children => exact Piece.info?_ofNode info _

/-- **A part is read from a child.** -/
theorem exists_child_of_mem_parts {part : Located} {piece : Piece} (h : piece ∈ part.piece.parts) :
    ∃ child ∈ part.children, child.piece = piece := by
  cases part with
  | token leaf => simp [Located.piece, Piece.parts] at h
  | node info children =>
    have hmem := Piece.mem_of_mem_parts h
    rw [pieces_eq_map] at hmem
    exact List.mem_map.1 hmem

/-- An operand is read from a child, or from a child of a clause. -/
theorem exists_node_of_mem_operands {part : Located} {piece : Piece} {info : NodeInfo}
    (h : piece ∈ part.piece.operands) (hinfo : piece.info? = some info) :
    ∃ child ∈ part.children, ∃ node ∈ child.nodes, node.piece = piece := by
  obtain ⟨outer, houter, hpiece⟩ := List.mem_flatMap.1 h
  obtain ⟨child, hchild, rfl⟩ := exists_child_of_mem_parts houter
  refine ⟨child, hchild, ?_⟩
  split at hpiece
  · obtain ⟨inner, hinner, rfl⟩ := exists_child_of_mem_parts hpiece
    have hself : inner ∈ inner.nodes := mem_nodes_self (inner.info?_piece ▸ hinfo)
    exact ⟨inner, mem_nodes_of_child hinner hself, rfl⟩
  · obtain rfl := List.mem_singleton.1 hpiece
    exact ⟨child, mem_nodes_self (child.info?_piece ▸ hinfo), rfl⟩

/-- **What is reached is read from a node** of the tree. -/
theorem exists_node_of_reached {part : Located} {piece : Piece} {info : NodeInfo}
    (h : part.piece.Reached piece) (hinfo : piece.info? = some info) :
    ∃ node ∈ part.nodes, node.piece = piece := by
  generalize hread : part.piece = read at h
  induction h generalizing part with
  | refl =>
    subst hread
    exact ⟨part, mem_nodes_self (part.info?_piece ▸ hinfo), rfl⟩
  | step hpart _ ih =>
    subst hread
    obtain ⟨child, hchild, rfl⟩ :=
      exists_child_of_mem_parts (Piece.mem_parts_of_mem_visited hpart)
    obtain ⟨node, hnode, hpiece⟩ := ih hinfo rfl
    exact ⟨node, mem_nodes_of_child hchild hnode, hpiece⟩

/-- Nodes below a child are told apart from the node. -/
theorem Placed.piece_ne {part child inner : Located} {index offset next : Nat}
    (h : part.Placed index offset next) (hchild : child ∈ part.children)
    (hinner : inner ∈ child.nodes) : inner.piece ≠ part.piece := by
  intro heq
  cases part with
  | token leaf => simp [children] at hchild
  | node info parts =>
    have hinfo : inner.info? = some info := by
      rw [← inner.info?_piece, heq, info?_piece]
      rfl
    exact h.index_ne hchild hinner hinfo rfl

/-- **Reaching into a node goes over it**: if a node below another one is reached, then so is the
other one, and it reaches the first.

**Proof sketch.** By induction on the tree. The way down begins with a part, which is read from a
child; as the numbers of the nodes below two children differ, it is the child that holds both
nodes. -/
theorem Placed.reached_between {part outer inner : Located} {index offset next : Nat}
    (h : part.Placed index offset next) (houter : outer ∈ part.nodes)
    (hinner : inner ∈ outer.nodes) (hreached : part.piece.Reached inner.piece) :
    part.piece.Reached outer.piece ∧ outer.piece.Reached inner.piece := by
  induction part using Located.induction generalizing index offset next with
  | token leaf => simp [nodes] at houter
  | node info parts ih =>
    have hplaced := id h
    rw [nodes, List.mem_cons, mem_nodesOf] at houter
    rcases houter with rfl | ⟨child, hchild, houter⟩
    · exact ⟨.refl _, hreached⟩
    · have hbelow := mem_nodes_trans hinner houter
      rcases Piece.reached_iff.1 hreached with heq | ⟨start, hstart, hrest⟩
      · exact absurd heq (hplaced.piece_ne hchild hbelow)
      · obtain ⟨own, children', heq⟩ := exists_info_of_mem_nodes hbelow
        have hinfo : inner.info? = some own := heq ▸ rfl
        obtain ⟨other, hother, rfl⟩ :=
          exists_child_of_mem_parts (Piece.mem_parts_of_mem_visited hstart)
        obtain ⟨inner', hinner', hpiece⟩ :=
          exists_node_of_reached hrest (inner.info?_piece.trans hinfo)
        -- the way down goes into the child that holds both nodes
        have hinfo' : inner'.info? = some own := by
          rw [← inner'.info?_piece, hpiece, info?_piece, hinfo]
        obtain ⟨-, -, h⟩ := h
        have hnumber : inner.index? = some own.index := by rw [index?, hinfo, Option.map_some]
        have hnumber' : inner'.index? = some own.index := by rw [index?, hinfo', Option.map_some]
        obtain rfl : other = child := h.eq_of_index hother hchild hinner' hbelow hnumber' hnumber
        obtain ⟨first, last, hplaced, -⟩ := h.placed_of_mem hchild
        obtain ⟨h₁, h₂⟩ := ih other hchild hplaced houter hrest
        exact ⟨.step hstart h₁, h₂⟩

end Located

end QuerySemantics
