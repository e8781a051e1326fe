import QuerySemantics.Proofs.Ast.Parts

/-!
# Parts apart

The parts of a node that binding goes on to are read from different children, so that nothing below one
of them is below another. There is one exception: an expression behind the `ELSE` of a `CASE` without
labels is both its operand and its `ELSE`.

## Main definitions

* `Piece.leaves`: parts that binding looks into without going on to them.
* `Piece.Covers`: the numbers of the nodes that binding a piece comes to or looks into.
* `Piece.isDoubled`: a `CASE` that reads one expression twice.
* `Piece.Apart`, `Piece.AllApart`: the parts of a piece share no numbers; nor do those of what it reaches.
* `Piece.Spread`: nor do several pieces.

## Main results

* `Piece.nodup_parts`: the accessors of a node return different pieces, except for a doubled `CASE`.
* `Located.Placed.allApart`: the parts of a located tree are apart if it reaches no doubled `CASE`.
-/

set_option autoImplicit false

namespace QuerySemantics

open Ast

namespace Piece

/-! ## Leaves and numbers -/

/-- **Leaves**: the parts that binding a piece looks into but does not go on to. -/
def leaves : Piece → List Piece
  | .expr (.cast _ _ target) => target.toList.map .typeName
  | .selectClause (.mk _ _ limit _) => limit.toList.map .top
  | .commonTable (.mk _ _ columns _) => columns.toList.map .columnNames
  | _ => []

/-- The number of the node that a piece was read from. -/
def index? (piece : Piece) : Option Nat :=
  piece.info?.map NodeInfo.index

/-- What binding a piece looks at: the piece and its leaves. -/
def Views (piece node : Piece) : Prop :=
  node = piece ∨ node ∈ piece.leaves

/-- **Covering** a number: binding the piece comes to the node with that number or looks into it. -/
def Covers (piece : Piece) (number : Nat) : Prop :=
  ∃ inner, piece.Reached inner ∧ ∃ node, inner.Views node ∧ node.index? = some number

/-- **Doubled**: a `CASE` whose operand and whose `ELSE` are one and the same node. -/
def isDoubled : Piece → Bool
  | .expr (.cases _ (some input) _ (some otherwise)) => input.info == otherwise.info
  | _ => false

/-- **Apart**: nothing that binding one part of a piece looks at is looked at for another part, or for
the piece itself. -/
structure Apart (piece : Piece) : Prop where
  own : ∀ part ∈ piece.visited, ∀ node, piece.Views node → ∀ number, node.index? = some number →
    ¬part.Covers number
  parts : piece.visited.Pairwise fun part other => ∀ number, part.Covers number → ¬other.Covers number
  leaves : ∀ leaf ∈ piece.leaves, ∀ number, piece.index? = some number → leaf.index? ≠ some number

/-- Everything that binding a piece comes to has its parts apart. -/
def AllApart (piece : Piece) : Prop :=
  ∀ inner, piece.Reached inner → inner.Apart

/-- A piece covers its own number. -/
theorem covers_self {piece : Piece} {number : Nat} (h : piece.index? = some number) :
    piece.Covers number :=
  ⟨piece, .refl piece, piece, .inl rfl, h⟩

/-- A piece covers what it reaches covers. -/
theorem Covers.of_reached {piece part : Piece} {number : Nat} (hreached : piece.Reached part)
    (h : part.Covers number) : piece.Covers number := by
  obtain ⟨inner, hinner, hviews⟩ := h
  exact ⟨inner, hreached.trans hinner, hviews⟩

/-- **Spread**: everything that binding some pieces comes to has its parts apart, and the pieces are
apart from each other. -/
structure Spread (pieces : List Piece) : Prop where
  each : ∀ piece ∈ pieces, piece.AllApart
  pairwise : pieces.Pairwise fun part other => ∀ number, part.Covers number → ¬other.Covers number

/-- The parts of a piece are spread. -/
theorem AllApart.spread {piece : Piece} (h : piece.AllApart) : Spread piece.visited where
  each _ hpart _ hinner := h _ (.step hpart hinner)
  pairwise := (h piece (.refl piece)).parts

/-- What is left of spread pieces without the first is spread, and apart from the first. -/
theorem Spread.of_cons {piece : Piece} {rest : List Piece} (h : Spread (piece :: rest)) :
    piece.AllApart ∧ Spread rest ∧
      ∀ other ∈ rest, ∀ number, piece.Covers number → ¬other.Covers number := by
  obtain ⟨heach, hpairwise⟩ := h
  obtain ⟨hfirst, hrest⟩ := List.pairwise_cons.1 hpairwise
  exact ⟨heach piece List.mem_cons_self,
    ⟨fun other hother => heach other (List.mem_cons_of_mem _ hother), hrest⟩, hfirst⟩

/-- Both of two rows that are spread together are spread, and apart from each other. -/
theorem Spread.of_append {pieces others : List Piece} (h : Spread (pieces ++ others)) :
    Spread pieces ∧ Spread others ∧
      ∀ part ∈ pieces, ∀ other ∈ others, ∀ number, part.Covers number → ¬other.Covers number := by
  obtain ⟨heach, hpairwise⟩ := h
  obtain ⟨hpieces, hothers, hbetween⟩ := List.pairwise_append.1 hpairwise
  exact ⟨⟨fun part hpart => heach part (List.mem_append_left _ hpart), hpieces⟩,
    ⟨fun part hpart => heach part (List.mem_append_right _ hpart), hothers⟩, hbetween⟩

/-! ## Different parts -/

section Parts

variable {pieces : List Piece}

/-- Unwrapped pieces, wrapped again, are a part of the list that they come from. -/
theorem map_filterMap_sublist {α : Type} {wrap : α → Piece} {access : Piece → Option α}
    (haccess : ∀ {piece it}, access piece = some it → piece = wrap it) (pieces : List Piece) :
    ((pieces.filterMap access).map wrap).Sublist pieces := by
  induction pieces with
  | nil => exact .refl _
  | cons piece rest ih =>
    cases hpiece : access piece with
    | none =>
      rw [List.filterMap_cons_none hpiece]
      exact ih.cons _
    | some it =>
      rw [List.filterMap_cons_some hpiece, List.map_cons, ← haccess hpiece]
      exact ih.cons_cons _

/-- Nodes of a list with different numbers are different nodes. -/
theorem nodup_map_filterMap {α : Type} {wrap : α → Piece} {access : Piece → Option α}
    (haccess : ∀ {piece it}, access piece = some it → piece = wrap it)
    (hnumbers : pieces.Pairwise fun piece other => ∀ number, piece.index? = some number →
      other.index? ≠ some number) (hnode : ∀ it, (wrap it).info?.isSome = true) :
    ((pieces.filterMap access).map wrap).Nodup := by
  have hsub := hnumbers.sublist (map_filterMap_sublist haccess pieces)
  rw [List.pairwise_map] at hsub
  rw [List.Nodup, List.pairwise_map]
  refine hsub.imp fun {it other} hne heq => ?_
  obtain ⟨info, hinfo⟩ := Option.isSome_iff_exists.1 (hnode it)
  have hindex : (wrap it).index? = some info.index := by rw [index?, hinfo, Option.map_some]
  exact hne _ hindex (heq ▸ hindex)

/-- Two expressions that the accessors of a node find at different places are different. -/
theorem first_ne_second {α : Type} {items : List α} {first second : α} (h : items.Nodup)
    (hfirst : items.head? = some first) (hsecond : items[1]? = some second) : first ≠ second := by
  match items, h with
  | _ :: _ :: _, h =>
    cases hfirst
    cases hsecond
    exact fun heq => (List.nodup_cons.1 h).1 (heq ▸ List.mem_cons_self)

/-- What is found as a condition of a kind is of that kind. -/
theorem kind_of_condition? {kind : Kind} {it : Condition}
    (h : pieces.findSome? (condition? kind) = some it) : it.info.kind = kind := by
  obtain ⟨piece, -, hpiece⟩ := List.exists_of_findSome?_eq_some h
  cases piece <;> simp only [condition?, reduceCtorEq] at hpiece
  split at hpiece
  · cases hpiece
    assumption
  · cases hpiece

/-- **Different parts**: the accessors of a node return different nodes, unless it is a doubled `CASE`. -/
theorem nodup_parts {info : NodeInfo} (hnumbers : pieces.Pairwise fun piece other =>
      ∀ number, piece.index? = some number → other.index? ≠ some number)
    (hdoubled : (ofNode info pieces).isDoubled = false) : (ofNode info pieces).parts.Nodup := by
  have hone : ∀ {α : Type} (it : Option α) (wrap : α → Piece), (it.toList.map wrap).Nodup := by
    intro α it wrap
    cases it <;> simp
  -- lists of entries of one kind
  have hlist : ∀ {α : Type} {wrap : α → Piece} {access : Piece → Option α},
      (∀ {piece it}, access piece = some it → piece = wrap it) →
        (∀ it, (wrap it).info?.isSome = true) → ((pieces.filterMap access).map wrap).Nodup :=
    fun haccess hnode => nodup_map_filterMap haccess hnumbers hnode
  have hexprs : ((pieces.filterMap expr?).map Piece.expr).Nodup :=
    hlist (by rintro (_ | _) _ h <;> cases h; rfl) fun _ => rfl
  have hqueries : ((pieces.filterMap query?).map Piece.query).Nodup :=
    hlist (by rintro (_ | _) _ h <;> cases h; rfl) fun _ => rfl
  have htables : ((pieces.filterMap table?).map Piece.table).Nodup :=
    hlist (by rintro (_ | _) _ h <;> cases h; rfl) fun _ => rfl
  have hitems : ((pieces.filterMap selectItem?).map Piece.selectItem).Nodup :=
    hlist (by rintro (_ | _) _ h <;> cases h; rfl) fun _ => rfl
  have hkeys : ((pieces.filterMap orderItem?).map Piece.orderItem).Nodup :=
    hlist (by rintro (_ | _) _ h <;> cases h; rfl) fun _ => rfl
  have hdefinitions : ((pieces.filterMap commonTable?).map Piece.commonTable).Nodup :=
    hlist (by rintro (_ | _) _ h <;> cases h; rfl) fun _ => rfl
  have hlabels : ((pieces.filterMap caseLabel?).map Piece.caseLabel).Nodup :=
    hlist (by rintro (_ | _) _ h <;> cases h; rfl) fun _ => rfl
  -- the first two of one kind
  have hpair : ∀ {α : Type} {access : Piece → Option α} {first second : α} {wrap : α → Piece},
      ((pieces.filterMap access).map wrap).Nodup → pieces.findSome? access = some first →
        (pieces.filterMap access)[1]? = some second → first ≠ second := by
    intro α access first second wrap hnodup hfirst hsecond
    have hitems : (pieces.filterMap access).Nodup :=
      List.Pairwise.of_map wrap (fun _ _ hne heq => hne (congrArg wrap heq)) hnodup
    exact first_ne_second hitems (by rwa [List.head?_filterMap]) hsecond
  unfold ofNode at hdoubled ⊢
  split
  all_goals
    simp only [parts, ofExpr?, ofQuery?, ofTable?, List.nodup_append, hone, hexprs, htables, hitems,
      hkeys, hdefinitions, hlabels, List.nodup_nil, true_and, List.forall_mem_append,
      List.forall_mem_map, ne_eq, reduceCtorEq, not_false_eq_true, implies_true, and_true,
      Option.mem_toList, Piece.expr.injEq, Piece.query.injEq, Piece.table.injEq,
      Piece.condition.injEq]
  -- what is left are two accessors for nodes of one kind
  · intro filter hfilter having hhaving heq
    exact absurd (kind_of_condition? hfilter) (heq ▸ kind_of_condition? hhaving ▸ fun h => by cases h)
  · exact fun left hleft right hright => hpair hqueries hleft hright
  · exact fun left hleft right hright => hpair htables hleft hright
  · exact fun left hleft right hright => hpair hexprs hleft hright
  · rename_i hkind
    intro input hinput otherwise hotherwise heq
    simp [hkind, hinput, hotherwise, heq, isDoubled] at hdoubled
  · exact fun condition hcondition result hresult => hpair hexprs hcondition hresult

end Parts

/-! ## Visited parts -/

/-- Binding goes on to parts in the order in which the accessors are listed. -/
theorem visited_sublist_parts (piece : Piece) : piece.visited.Sublist piece.parts := by
  by_cases hunit : ∃ it, piece = .unit it
  · obtain ⟨⟨info, body, value⟩, rfl⟩ := hunit
    cases body <;> cases value <;> simp [visited, early, late, parts, ofExpr?, ofQuery?]
  · cases hnameless : piece.isNameless
    · exact visited_eq_parts (fun it heq => hunit ⟨it, heq⟩) hnameless ▸ List.Sublist.refl _
    · rw [visited_of_isNameless hnameless]
      exact List.nil_sublist _

/-! ## Leaves and parts -/

/-- Whether a piece is of a form that leaves have. -/
def isLeaf : Piece → Bool
  | .typeName _ | .top _ | .columnNames _ => true
  | _ => false

/-- The leaves of a piece are leaves. -/
theorem isLeaf_of_mem_leaves {piece leaf : Piece} (h : leaf ∈ piece.leaves) : leaf.isLeaf = true := by
  unfold leaves at h
  split at h
  · obtain ⟨it, -, rfl⟩ := List.mem_map.1 h
    rfl
  · obtain ⟨it, -, rfl⟩ := List.mem_map.1 h
    rfl
  · obtain ⟨it, -, rfl⟩ := List.mem_map.1 h
    rfl
  · cases h

/-- Parts are no leaves. -/
theorem isLeaf_of_mem_parts {piece part : Piece} (h : part ∈ piece.parts) : part.isLeaf = false := by
  unfold parts at h
  split at h
  all_goals
    simp only [ofExpr?, ofQuery?, ofTable?, List.mem_append, List.mem_map, List.not_mem_nil] at h
  all_goals
    repeat' refine Or.elim h ?_ ?_ <;> clear h <;> intro h
  all_goals
    obtain ⟨it, -, rfl⟩ := h
    rfl

/-- Leaves are read from children. -/
theorem mem_of_mem_leaves {info : NodeInfo} {pieces : List Piece} {leaf : Piece}
    (h : leaf ∈ (ofNode info pieces).leaves) : leaf ∈ pieces := by
  unfold ofNode at h
  split at h
  all_goals simp only [leaves, List.not_mem_nil, List.mem_map, Option.mem_toList] at h
  all_goals
    obtain ⟨it, h, rfl⟩ := h
    refine mem_of_findSome? (fun {piece it} h => ?_) h
    cases piece <;> cases h <;> rfl

end Piece

namespace Located

/-! ## Located trees -/

/-- A piece has the number of the tree that it was read from. -/
theorem index?_piece (part : Located) : part.piece.index? = part.index? := by
  rw [Piece.index?, info?_piece, index?]

/-- A tree with a number is among its own nodes. -/
theorem mem_nodes_of_index? {part : Located} {number : Nat} (h : part.index? = some number) :
    part ∈ part.nodes := by
  obtain ⟨info, hinfo, -⟩ := Option.map_eq_some_iff.1 h
  exact mem_nodes_self hinfo

/-- **What binding looks at is a node** of the tree. -/
theorem exists_node_of_covers {part : Located} {number : Nat} (h : part.piece.Covers number) :
    ∃ node ∈ part.nodes, node.index? = some number := by
  obtain ⟨inner, hreached, viewed, hviewed, hnumber⟩ := h
  rcases hviewed with rfl | hleaf
  · obtain ⟨info, hinfo, -⟩ := Option.map_eq_some_iff.1 hnumber
    obtain ⟨node, hnode, rfl⟩ := exists_node_of_reached hreached hinfo
    exact ⟨node, hnode, node.index?_piece ▸ hnumber⟩
  · have hinfo : ∃ info, inner.info? = some info := by
      unfold Piece.leaves at hleaf
      split at hleaf <;> first | exact ⟨_, rfl⟩ | cases hleaf
    obtain ⟨info, hinfo⟩ := hinfo
    obtain ⟨node, hnode, rfl⟩ := exists_node_of_reached hreached hinfo
    obtain ⟨own, children, rfl⟩ := exists_info_of_mem_nodes hnode
    have hmem := Piece.mem_of_mem_leaves hleaf
    rw [pieces_eq_map] at hmem
    obtain ⟨child, hchild, rfl⟩ := List.mem_map.1 hmem
    rw [index?_piece] at hnumber
    have hself := mem_nodes_of_index? hnumber
    exact ⟨child, mem_nodes_trans (mem_nodes_of_child hchild hself) hnode, hnumber⟩

/-- Children of a placed tree have different numbers. -/
theorem PlacedAll.pairwise_index {parts : List Located} {index offset next stop : Nat}
    (h : PlacedAll parts index offset next stop) : (pieces parts).Pairwise fun piece other =>
      ∀ number, piece.index? = some number → other.index? ≠ some number := by
  induction parts generalizing index offset next stop with
  | nil => exact .nil
  | cons head rest ih =>
    obtain ⟨middle, hhead, hrest⟩ := h
    refine .cons (fun other hother number hnumber hnumber' => ?_) (ih hrest)
    rw [pieces_eq_map] at hother
    obtain ⟨child, hchild, rfl⟩ := List.mem_map.1 hother
    rw [index?_piece] at hnumber hnumber'
    obtain ⟨first, last, hplaced, hfirst, -⟩ := hrest.placed_of_mem hchild
    have hbelow := hhead.index_bounds (mem_nodes_of_index? hnumber) hnumber
    have habove := hplaced.index_bounds (mem_nodes_of_index? hnumber') hnumber'
    omega

/-- **The parts of a node are apart**, as they are read from different children. -/
theorem Placed.apart {info : NodeInfo} {children : List Located} {index offset next : Nat}
    (h : (Located.node info children).Placed index offset next)
    (hdoubled : (Located.node info children).piece.isDoubled = false) :
    (Located.node info children).piece.Apart := by
  have hplaced := id h
  obtain ⟨-, -, hall⟩ := h
  -- what a part covers lies below the child that it is read from
  have hpart : ∀ part ∈ (Located.node info children).piece.visited, ∃ child ∈ children,
      child.piece = part ∧ ∀ number, part.Covers number →
        ∃ node ∈ child.nodes, node.index? = some number := by
    intro part hpart
    obtain ⟨child, hchild, rfl⟩ := exists_child_of_mem_parts (Piece.mem_parts_of_mem_visited hpart)
    exact ⟨child, hchild, rfl, fun number => exists_node_of_covers⟩
  have hleaf : ∀ leaf ∈ (Located.node info children).piece.leaves,
      ∃ child ∈ children, child.piece = leaf := by
    intro leaf hleaf
    have hmem := Piece.mem_of_mem_leaves hleaf
    rw [pieces_eq_map] at hmem
    exact List.mem_map.1 hmem
  have hbelow : ∀ child ∈ children, ∀ node ∈ child.nodes, ∀ number, node.index? = some number →
      number ≠ info.index := by
    intro child hchild node hnode number hnumber
    obtain ⟨own, hown, rfl⟩ := Option.map_eq_some_iff.1 hnumber
    exact hplaced.index_ne hchild hnode hown
  have hindex : (Located.node info children).piece.index? = some info.index := index?_piece _
  refine ⟨fun part hvisited node hviews number hnumber hcovers => ?_, ?_,
    fun leaf hmem number hnumber hsame => ?_⟩
  · obtain ⟨child, hchild, rfl, hcovered⟩ := hpart part hvisited
    obtain ⟨below, hnode, hnode'⟩ := hcovered number hcovers
    rcases hviews with rfl | hmem
    · rw [hindex] at hnumber
      exact hbelow child hchild below hnode number hnode' (Option.some.inj hnumber).symm
    · obtain ⟨other, hother, rfl⟩ := hleaf node hmem
      rw [index?_piece] at hnumber
      obtain rfl := hall.eq_of_index hchild hother hnode (mem_nodes_of_index? hnumber) hnode' hnumber
      have hparts := Piece.isLeaf_of_mem_parts (Piece.mem_parts_of_mem_visited hvisited)
      rw [Piece.isLeaf_of_mem_leaves hmem] at hparts
      cases hparts
  · have hnodup := (Piece.nodup_parts hall.pairwise_index hdoubled).sublist
      (Piece.visited_sublist_parts _)
    refine hnodup.imp_of_mem fun {part other} hvisited hvisited' hne number hcovers hcovers' => hne ?_
    obtain ⟨child, hchild, rfl, hcovered⟩ := hpart part hvisited
    obtain ⟨child', hchild', rfl, hcovered'⟩ := hpart other hvisited'
    obtain ⟨node, hnode, hnumber⟩ := hcovered number hcovers
    obtain ⟨node', hnode', hnumber'⟩ := hcovered' number hcovers'
    rw [hall.eq_of_index hchild hchild' hnode hnode' hnumber hnumber']
  · obtain ⟨child, hchild, rfl⟩ := hleaf leaf hmem
    rw [index?_piece] at hsame
    rw [hindex] at hnumber
    exact hbelow child hchild child (mem_nodes_of_index? hsame) number hsame
      (Option.some.inj hnumber).symm

/-- **All parts are apart** in a located tree that reaches no doubled `CASE`. -/
theorem Placed.allApart {part : Located} {index offset next : Nat} (h : part.Placed index offset next)
    (hdoubled : ∀ inner, part.piece.Reached inner → inner.isDoubled = false) :
    part.piece.AllApart := by
  intro inner hreached
  cases hinfo : inner.info? with
  | none =>
    have hvisited : inner.visited = [] := by
      cases inner with
      | token leaf => rfl
      | _ => cases hinfo
    have hleaves : inner.leaves = [] := by
      cases inner with
      | token leaf => rfl
      | _ => cases hinfo
    exact ⟨by simp [hvisited], by simp [hvisited], by simp [hleaves]⟩
  | some info =>
    obtain ⟨node, hnode, rfl⟩ := exists_node_of_reached hreached hinfo
    obtain ⟨own, children, rfl⟩ := exists_info_of_mem_nodes hnode
    obtain ⟨_, _, hplaced, -⟩ := h.placed_of_mem hnode
    exact hplaced.apart (hdoubled _ hreached)

end Located

end QuerySemantics
