import Mathlib.Data.List.Pairwise
import QuerySemantics.Proofs.Ast.Apart
import QuerySemantics.Proofs.Diagnostic.Message

/-!
# Remarks

What a pass reports, with the nodes that it reports about. A node is reported about when it is bound,
or when what stands around it is bound, and each time what is shown of the diagnostics differs. So in a
pass that comes to no node twice the same is never reported twice about one node.

## Main definitions

* `Remark`: a diagnostic and the node that it is about.
* `Piece.Marks`: the spans by which diagnostics refer to a node.
* `Piece.Gives`: the remarks that the rules for one node may give.
* `Told`: the remarks of a walk through pieces and everything below them.

## Main results

* `Told.concerns`: the remarks of a walk are about what it comes to.
* `Told.nodup`: a walk through pieces that are apart gives no remark twice.
* `Located.exists_subject`: what concerns the reading of a tree is about a node of the tree.
-/

set_option autoImplicit false

namespace QuerySemantics

/-! ## Remarks about nodes -/

/-- **Remark**: a diagnostic and the node that it is about. -/
structure Remark where
  site : NodeInfo
  diagnostic : Diagnostic

namespace Remark

/-- What tells remarks apart: the node, and what is shown of the diagnostic. -/
def key (it : Remark) : Nat × Span × Category × String :=
  (it.site.index, it.diagnostic.shown)

/-- Whether the problem is imposed by what stands around the node. -/
def isImposed (it : Remark) : Bool :=
  it.diagnostic.problem.isImposed

/-- Remarks that are not told apart are about one node. -/
theorem index_eq {it other : Remark} (h : it.key = other.key) : it.site.index = other.site.index :=
  congrArg Prod.fst h

/-- Remarks that are not told apart are both imposed or both not. -/
theorem isImposed_eq {it other : Remark} (h : it.key = other.key) : it.isImposed = other.isImposed :=
  Problem.isImposed_eq (congrArg (·.2.2.1) h) (congrArg (·.2.2.2) h)

end Remark

namespace Piece

/-- The tokens of a piece that diagnostics refer to. -/
def tokens : Piece → List Token
  | .expr (.name _ ident) | .expr (.property _ _ ident) | .expr (.method _ _ ident _)
  | .expr (.call _ ident _) | .expr (.countAll _ ident) => ident.toList
  | .expr (.literal _ leaf) => leaf.toList
  | .table (.named _ ident _) => ident.toList
  | .selectItem (.wildcard _ qualifier) => qualifier.toList
  | .top it => it.value.toList
  | .typeName it => it.ident.toList
  | _ => []

/-- Whether diagnostics refer to a piece by its own span. -/
def isReferred : Piece → Bool
  | .expr _ | .query _ | .condition _ | .columnNames _ => true
  | _ => false

/-- **Marking** a span: diagnostics about the piece may stand there. -/
def Marks (piece : Piece) (span : Span) : Prop :=
  (piece.isReferred = true ∧ ∃ info, piece.info? = some info ∧ info.span = span) ∨
    ∃ token ∈ piece.tokens, token.span = span

/-- Diagnostics may stand where a piece stands that they refer to. -/
theorem marks_self {piece : Piece} {info : NodeInfo} (hinfo : piece.info? = some info)
    (h : piece.isReferred = true) : piece.Marks info.span :=
  .inl ⟨h, info, hinfo, rfl⟩

/-- Diagnostics may stand where a token stands that they refer to. -/
theorem marks_token {piece : Piece} {token : Token} (h : token ∈ piece.tokens) :
    piece.Marks token.span :=
  .inr ⟨token, h, rfl⟩

/-- Being a remark about a piece. -/
def IsSubjectOf (piece : Piece) (it : Remark) : Prop :=
  piece.info? = some it.site ∧ piece.Marks it.diagnostic.span

/-- A remark that the rules for a piece give about the piece or a leaf. -/
def Allows (piece : Piece) (it : Remark) : Prop :=
  ∃ node, piece.Views node ∧ node.IsSubjectOf it ∧ it.isImposed = false

/-- A remark that the rules for a piece give about a part. -/
def Imposes (piece : Piece) (it : Remark) : Prop :=
  ∃ part ∈ piece.visited, part.IsSubjectOf it ∧ it.isImposed = true

/-- **Given remarks**: those that the rules for a piece may give, each at most once. -/
structure Gives (piece : Piece) (own : List Remark) : Prop where
  nodup : (own.map Remark.key).Nodup
  about : ∀ it ∈ own, piece.Allows it ∨ piece.Imposes it

/-- Given remarks of one category. -/
structure GivesIn (piece : Piece) (category : Category) (own : List Remark) : Prop extends
    piece.Gives own where
  category : ∀ it ∈ own, it.diagnostic.category = category

/-- Given remarks about columns of a set operation, from an ordinal on. -/
structure GivesFrom (piece : Piece) (ordinal : Nat) (own : List Remark) : Prop extends
    piece.Gives own where
  ordinals : ∀ it ∈ own, ∃ column left right,
    it.diagnostic.problem = .setOperationTypes column left right ∧ ordinal ≤ column

/-- **Accounting** for a remark: it is about something that binding the piece looks at, and if it is
about the piece, then it is not imposed. -/
def Accounts (piece : Piece) (it : Remark) : Prop :=
  ∃ inner, piece.Reached inner ∧ ∃ node, inner.Views node ∧ node.IsSubjectOf it ∧
    (piece.index? = some it.site.index → it.isImposed = false)

/-- **Concerning**: a remark is about something that binding the piece looks at. -/
def Concerns (piece : Piece) (it : Remark) : Prop :=
  ∃ inner, piece.Reached inner ∧ ∃ node, inner.Views node ∧ node.IsSubjectOf it

variable {piece : Piece} {it : Remark}

/-- A remark that a piece accounts for concerns it. -/
theorem Accounts.concerns (h : piece.Accounts it) : piece.Concerns it := by
  obtain ⟨inner, hreached, node, hviews, hsubject, -⟩ := h
  exact ⟨inner, hreached, node, hviews, hsubject⟩

/-- What concerns a part concerns the piece. -/
theorem Concerns.of_part {part : Piece} (hpart : part ∈ piece.visited) (h : part.Concerns it) :
    piece.Concerns it := by
  obtain ⟨inner, hreached, hnode⟩ := h
  exact ⟨inner, .step hpart hreached, hnode⟩

/-- What the rules for a piece give concerns it. -/
theorem concerns_of_gives (h : piece.Allows it ∨ piece.Imposes it) : piece.Concerns it := by
  rcases h with ⟨node, hviews, hsubject, -⟩ | ⟨part, hpart, hsubject, -⟩
  · exact ⟨piece, .refl piece, node, hviews, hsubject⟩
  · exact ⟨part, .step hpart (.refl part), part, .inl rfl, hsubject⟩

/-- A piece may give no remarks. -/
theorem Gives.nil : piece.Gives [] where
  nodup := List.nodup_nil
  about _ hit := absurd hit List.not_mem_nil

/-- A piece may give a remark about itself, a leaf or a part. -/
theorem Gives.single (h : piece.Allows it ∨ piece.Imposes it) : piece.Gives [it] where
  nodup := List.pairwise_singleton _ _
  about _ hit := List.mem_singleton.1 hit ▸ h

section Single

variable {info : NodeInfo} {span : Span} {problem : Problem}

/-- A remark about a piece. -/
theorem Gives.self (hinfo : piece.info? = some info) (hmarks : piece.Marks span)
    (hown : problem.isImposed = false) : piece.Gives [⟨info, ⟨span, problem⟩⟩] :=
  .single (.inl ⟨piece, .inl rfl, ⟨hinfo, hmarks⟩, hown⟩)

/-- A remark about a leaf of a piece. -/
theorem Gives.leaf {leaf : Piece} (hleaf : leaf ∈ piece.leaves) (hinfo : leaf.info? = some info)
    (hmarks : leaf.Marks span) (hown : problem.isImposed = false) :
    piece.Gives [⟨info, ⟨span, problem⟩⟩] :=
  .single (.inl ⟨leaf, .inr hleaf, ⟨hinfo, hmarks⟩, hown⟩)

/-- A remark that is imposed on a part of a piece. -/
theorem Gives.part {part : Piece} (hpart : part ∈ piece.visited) (hinfo : part.info? = some info)
    (hmarks : part.Marks span) (himposed : problem.isImposed = true) :
    piece.Gives [⟨info, ⟨span, problem⟩⟩] :=
  .single (.inr ⟨part, hpart, ⟨hinfo, hmarks⟩, himposed⟩)

end Single

/-- No remarks are remarks of any category. -/
theorem GivesIn.nil {category : Category} : piece.GivesIn category [] where
  toGives := .nil
  category _ hit := absurd hit List.not_mem_nil

/-- Remarks of different categories are told apart. -/
theorem GivesIn.append {category category' : Category} {own own' : List Remark}
    (h : piece.GivesIn category own) (h' : piece.GivesIn category' own') (hne : category ≠ category') :
    piece.Gives (own ++ own') where
  nodup := by
    rw [List.map_append, List.nodup_append]
    refine ⟨h.nodup, h'.nodup, ?_⟩
    simp only [List.forall_mem_map]
    intro it hit other hother hkey
    refine hne ?_
    rw [← h.category it hit, ← h'.category other hother]
    exact congrArg (·.2.2.1) hkey
  about _ hit := (List.mem_append.1 hit).elim (h.about _) (h'.about _)

/-- No remarks are remarks from any column on. -/
theorem GivesFrom.nil {ordinal : Nat} : piece.GivesFrom ordinal [] where
  toGives := .nil
  ordinals _ hit := absurd hit List.not_mem_nil

/-- Columns behind a column are also columns from it on. -/
theorem GivesFrom.of_succ {ordinal : Nat} {own : List Remark}
    (h : piece.GivesFrom (ordinal + 1) own) : piece.GivesFrom ordinal own where
  toGives := h.toGives
  ordinals it hit := by
    obtain ⟨column, left, right, hproblem, hle⟩ := h.ordinals it hit
    exact ⟨column, left, right, hproblem, Nat.le_of_succ_le hle⟩

/-- A remark about a column is told apart from those about the columns behind it. -/
theorem GivesFrom.cons {info : NodeInfo} {span : Span} {ordinal : Nat} {left right : SqlType}
    {own : List Remark} (h : piece.GivesFrom (ordinal + 1) own) (hinfo : piece.info? = some info)
    (hmarks : piece.Marks span) : piece.GivesFrom ordinal
      (⟨info, ⟨span, .setOperationTypes ordinal left right⟩⟩ :: own) where
  nodup := by
    rw [List.map_cons, List.nodup_cons]
    refine ⟨fun hmem => ?_, h.nodup⟩
    obtain ⟨it, hit, hkey⟩ := List.mem_map.1 hmem
    obtain ⟨column, left', right', hproblem, hle⟩ := h.ordinals it hit
    have hmessage : it.diagnostic.problem.message = _ := congrArg (·.2.2.2) hkey
    rw [hproblem] at hmessage
    have := Problem.ordinal_eq hmessage
    omega
  about it hit := by
    rcases List.mem_cons.1 hit with rfl | hit
    · exact .inl ⟨piece, .inl rfl, ⟨hinfo, hmarks⟩, rfl⟩
    · exact h.about it hit
  ordinals it hit := by
    rcases List.mem_cons.1 hit with rfl | hit
    · exact ⟨ordinal, left, right, rfl, Nat.le_refl _⟩
    · exact h.of_succ.ordinals it hit

/-- The number of what a remark is about. -/
theorem IsSubjectOf.index? (h : piece.IsSubjectOf it) : piece.index? = some it.site.index := by
  rw [Piece.index?, h.1, Option.map_some]

/-- A piece covers what it accounts for. -/
theorem Accounts.covers (h : piece.Accounts it) : piece.Covers it.site.index := by
  obtain ⟨inner, hreached, node, hviews, hsubject, -⟩ := h
  exact ⟨inner, hreached, node, hviews, hsubject.index?⟩

/-- A piece accounts for what a part accounts for. -/
theorem Apart.accounts_of_part (h : piece.Apart) {part : Piece} (hpart : part ∈ piece.visited)
    (hit : part.Accounts it) : piece.Accounts it := by
  obtain ⟨inner, hreached, node, hviews, hsubject, -⟩ := id hit
  exact ⟨inner, .step hpart hreached, node, hviews, hsubject, fun hindex =>
    absurd hit.covers (h.own part hpart piece (.inl rfl) _ hindex)⟩

/-- A piece accounts for what its rules give. -/
theorem Apart.accounts_of_gives (h : piece.Apart) (hit : piece.Allows it ∨ piece.Imposes it) :
    piece.Accounts it := by
  rcases hit with ⟨node, hviews, hsubject, hown⟩ | ⟨part, hpart, hsubject, -⟩
  · exact ⟨piece, .refl piece, node, hviews, hsubject, fun _ => hown⟩
  · exact ⟨part, .step hpart (.refl part), part, .inl rfl, hsubject, fun hindex =>
      absurd (covers_self hsubject.index?) (h.own part hpart piece (.inl rfl) _ hindex)⟩

/-- What the rules for a piece give is told apart from what a part accounts for. -/
theorem Apart.key_ne (h : piece.Apart) {part : Piece} (hpart : part ∈ piece.visited) {other : Remark}
    (hit : part.Accounts it) (hother : piece.Allows other ∨ piece.Imposes other) :
    it.key ≠ other.key := by
  intro hkey
  have hindex := Remark.index_eq hkey
  have hcovers := hit.covers
  rw [hindex] at hcovers
  rcases hother with ⟨node, hviews, hsubject, -⟩ | ⟨part', hpart', hsubject, himposed⟩
  · exact h.own part hpart node hviews _ hsubject.index? hcovers
  · -- both are about the same part, but one is imposed on it and the other is not
    have hsymm : Std.Symm fun part other : Piece =>
        ∀ number, part.Covers number → ¬other.Covers number :=
      ⟨fun _ _ hapart number hcovers hcovers' => hapart number hcovers' hcovers⟩
    obtain rfl : part = part' := Classical.byContradiction fun hne =>
      h.parts.forall hpart hpart' hne _ hcovers (covers_self hsubject.index?)
    obtain ⟨_, _, _, _, _, hown⟩ := hit
    rw [← Remark.isImposed_eq hkey, hown (hindex ▸ hsubject.index?)] at himposed
    cases himposed

end Piece

/-! ## Walks -/

/-- **Told**: the remarks of a walk through pieces, with everything below them. -/
inductive Told : List Piece → List Remark → Prop where
  | nil : Told [] []
  | cons {piece : Piece} {rest : List Piece} {below own others : List Remark} :
      Told piece.visited below → piece.Gives own → Told rest others →
        Told (piece :: rest) (below ++ own ++ others)
  | perm {pieces : List Piece} {remarks remarks' : List Remark} :
      Told pieces remarks → remarks.Perm remarks' → Told pieces remarks'

namespace Told

variable {piece : Piece} {pieces pieces' : List Piece} {below own remarks remarks' : List Remark}

/-- A walk through one piece. -/
theorem one (h : Told piece.visited below) (hown : piece.Gives own) : Told [piece] (below ++ own) := by
  have hone := Told.cons h hown .nil
  rwa [List.append_nil] at hone

/-- A walk through a piece about which nothing is to be said. -/
theorem quiet (h : Told piece.visited below) : Told [piece] below := by
  have hone := one h Piece.Gives.nil
  rwa [List.append_nil] at hone

/-- **Sequence** of walks. -/
theorem append (h : Told pieces remarks) (h' : Told pieces' remarks') :
    Told (pieces ++ pieces') (remarks ++ remarks') := by
  induction h with
  | nil => exact h'
  | cons hbelow hown _ _ ih =>
    rw [List.append_assoc]
    exact .cons hbelow hown ih
  | perm _ hperm ih => exact .perm ih (hperm.append_right _)

/-- **The remarks of a walk** concern the pieces that it goes through. -/
theorem concerns (h : Told pieces remarks) : ∀ it ∈ remarks, ∃ piece ∈ pieces, piece.Concerns it := by
  induction h with
  | nil => exact fun _ hit => absurd hit List.not_mem_nil
  | @cons piece rest below own others _ hown _ ih₁ ih₂ =>
    intro it hit
    rcases List.mem_append.1 hit with hit | hit
    · refine ⟨piece, List.mem_cons_self, ?_⟩
      rcases List.mem_append.1 hit with hit | hit
      · obtain ⟨part, hpart, hit⟩ := ih₁ it hit
        exact hit.of_part hpart
      · exact Piece.concerns_of_gives (hown.about it hit)
    · obtain ⟨piece', hpiece', hit⟩ := ih₂ it hit
      exact ⟨piece', List.mem_cons_of_mem _ hpiece', hit⟩
  | perm _ hperm ih => exact fun it hit => ih it (hperm.mem_iff.2 hit)

/-- **No remark is given twice** on a walk through pieces that are apart. -/
theorem nodup (h : Told pieces remarks) (hspread : Piece.Spread pieces) :
    (remarks.map Remark.key).Nodup ∧ ∀ it ∈ remarks, ∃ piece ∈ pieces, piece.Accounts it := by
  induction h with
  | nil => exact ⟨List.nodup_nil, fun _ hit => absurd hit List.not_mem_nil⟩
  | @cons piece rest below own others _ hown _ ih₁ ih₂ =>
    obtain ⟨hall, hrest, hfirst⟩ := hspread.of_cons
    obtain ⟨hnodup₁, hbelow⟩ := ih₁ hall.spread
    obtain ⟨hnodup₂, hothers⟩ := ih₂ hrest
    have hapart := hall piece (.refl piece)
    have hpiece : ∀ it ∈ below ++ own, piece.Accounts it := by
      intro it hit
      rcases List.mem_append.1 hit with hit | hit
      · obtain ⟨part, hpart, hit⟩ := hbelow it hit
        exact hapart.accounts_of_part hpart hit
      · exact hapart.accounts_of_gives (hown.about it hit)
    constructor
    · simp only [List.map_append, List.nodup_append, List.forall_mem_append, List.forall_mem_map]
      refine ⟨⟨hnodup₁, hown.nodup, fun it hit other hother => ?_⟩, hnodup₂, ?_⟩
      · obtain ⟨part, hpart, hit⟩ := hbelow it hit
        exact hapart.key_ne hpart hit (hown.about other hother)
      · have hbehind : ∀ it ∈ below ++ own, ∀ other ∈ others, it.key ≠ other.key := by
          intro it hit other hother hkey
          obtain ⟨piece', hpiece', hother⟩ := hothers other hother
          have hcovers := (hpiece it hit).covers
          rw [Remark.index_eq hkey] at hcovers
          exact hfirst piece' hpiece' _ hcovers hother.covers
        exact List.forall_mem_append.1 hbehind
    · intro it hit
      rcases List.mem_append.1 hit with hit | hit
      · exact ⟨piece, List.mem_cons_self, hpiece it hit⟩
      · obtain ⟨piece', hpiece', hit⟩ := hothers it hit
        exact ⟨piece', List.mem_cons_of_mem _ hpiece', hit⟩
  | perm _ hperm ih =>
    obtain ⟨hnodup, haccounts⟩ := ih hspread
    exact ⟨(hperm.map Remark.key).nodup_iff.1 hnodup, fun it hit => haccounts it (hperm.mem_iff.2 hit)⟩

end Told

/-- **What concerns the reading of a tree** is about a node of the tree. -/
theorem Located.exists_subject {part : Located} {it : Remark} (h : part.piece.Concerns it) :
    ∃ node ∈ part.nodes, node.piece.IsSubjectOf it := by
  obtain ⟨inner, hreached, viewed, hviewed, hsubject⟩ := h
  rcases hviewed with rfl | hleaf
  · obtain ⟨node, hnode, rfl⟩ := exists_node_of_reached hreached hsubject.1
    exact ⟨node, hnode, hsubject⟩
  · obtain ⟨info, hinfo⟩ : ∃ info, inner.info? = some info := by
      unfold Piece.leaves at hleaf
      split at hleaf <;> first | exact ⟨_, rfl⟩ | cases hleaf
    obtain ⟨node, hnode, rfl⟩ := exists_node_of_reached hreached hinfo
    obtain ⟨own, children, rfl⟩ := exists_info_of_mem_nodes hnode
    have hmem := Piece.mem_of_mem_leaves hleaf
    rw [pieces_eq_map] at hmem
    obtain ⟨child, hchild, rfl⟩ := List.mem_map.1 hmem
    have hself : child ∈ child.nodes := mem_nodes_self (child.info?_piece ▸ hsubject.1)
    exact ⟨child, mem_nodes_trans (mem_nodes_of_child hchild hself) hnode, hsubject⟩

end QuerySemantics
