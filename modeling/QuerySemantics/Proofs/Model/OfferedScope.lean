import QuerySemantics.Proofs.Binding.Lookup
import QuerySemantics.Proofs.Model.Coverage
import QuerySemantics.Proofs.Model.Lookup

/-!
# The scope at a position

Binding knows the scope at hand as it goes down the tree. The semantic model finds a scope again from
the outside, by the innermost node around a position that entered one. Both agree at every expression.
What makes them agree is that the parts of a node that are bound before it enters its own scope are
queries and tables, and inside these no expression stands without another node that enters a scope.

## Main definitions

* `Binding.Log.scopeIn?`: the scope that the log knows for a position in a tree.
* `Piece.isRelational`: queries, tables and the like.
* `BindingResult.scopeOf?`: the scope at hand when a node was bound.

## Main results

* `Binding.Visit.scope_eq`: the scope at hand is the one found in the visited tree.
* `SemanticModel.scopeAt_eq`: the scope that a model offers in an expression is the scope in which it
  was bound, and offers what the expression refers to.
-/

set_option autoImplicit false

namespace QuerySemantics

open Ast

namespace Piece

/-! ## Relational pieces -/

/-- **Relational pieces**: queries, tables, the definitions of tables and the list of tables. -/
def isRelational : Piece → Bool
  | .query _ | .table _ | .fromClause _ | .commonTable _ => true
  | _ => false

/-- A part that may be missing is relational if it is wrapped as such. -/
theorem all_isRelational_map {α : Type} (wrap : α → Piece) (h : ∀ it, (wrap it).isRelational = true)
    (it : Option α) : (it.map wrap).all isRelational = true := by
  cases it with
  | none => rfl
  | some it => exact h it

/-- Only relational pieces enter scopes. -/
theorem isRelational_of_enters {piece : Piece} (h : piece.enters = true) :
    piece.isRelational = true := by
  cases piece with
  | table it | query it | commonTable it => rfl
  | _ => cases h

/-- What a relational piece binds before it enters a scope of its own is relational. -/
theorem isRelational_of_mem_early {piece part : Piece} (h : piece.isRelational = true)
    (hpart : some part ∈ piece.early) : part.isRelational = true := by
  have hquery := all_isRelational_map .query fun _ => rfl
  have htable := all_isRelational_map .table fun _ => rfl
  have hfrom := all_isRelational_map .fromClause fun _ => rfl
  have hall : piece.early.all (Option.all isRelational) := by
    cases piece with
    | table it | query it | fromClause it =>
      cases it <;> simp [early, hquery, htable, hfrom, isRelational]
    | commonTable it => rfl
    | _ => cases h
  exact List.all_eq_true.1 hall _ hpart

end Piece

namespace Binding

/-! ## Scopes at positions -/

namespace Log

variable {log log' : Log} {position : Nat}

/-- Whether the log knows a scope that the node entered. -/
def marks (log : Log) (info : NodeInfo) : Bool :=
  (log.scope? info.index).isSome

/-- **Scope in a tree**: that of the innermost node around the position which entered one. -/
def scopeIn? (log : Log) (position : Nat) (part : Located) : Option Scope :=
  (part.innermostAt log.marks position part.start).bind fun info => log.scope? info.index

/-- Logs that know the same scopes of the nodes of a tree agree in it. -/
theorem scopeIn?_congr {part : Located} {index offset next : Nat}
    (hplaced : part.Placed index offset next) (hstart : offset ≤ position)
    (hstop : position < part.stop)
    (h : ∀ node ∈ part.nodes, ∀ info, node.info? = some info →
      log.scope? info.index = log'.scope? info.index) :
    log.scopeIn? position part = log'.scopeIn? position part := by
  have hmarks : part.innermostAt log.marks position offset =
      part.innermostAt log'.marks position offset :=
    Located.innermostAt_congr hplaced hstart hstop fun node hnode info hinfo _ _ => by
      rw [marks, marks, h node hnode info hinfo]
  rw [scopeIn?, scopeIn?, hplaced.le.2.1, hmarks]
  cases hfound : part.innermostAt log'.marks position offset with
  | none => rfl
  | some info =>
    obtain ⟨-, -, -, node, hnode, hinfo⟩ :=
      Located.exists_of_innermostAt hplaced hstart hstop hfound
    exact h node hnode info hinfo

/-- **The scope in a node** is that in the child around the position, or else the node's own. -/
theorem scopeIn?_node {info : NodeInfo} {children : List Located} {child : Located}
    {index offset next : Nat} (hplaced : (Located.node info children).Placed index offset next)
    (hchild : child ∈ children) (hstart : child.start ≤ position) (hstop : position < child.stop) :
    log.scopeIn? position (.node info children) =
      (log.scopeIn? position child).or (log.scope? info.index) := by
  obtain ⟨-, hoffset, hchildren⟩ := hplaced
  obtain ⟨first, last, hplaced', -⟩ := hchildren.placed_of_mem hchild
  have hwalk : Located.innermostOf log.marks position children info.start =
      child.innermostAt log.marks position child.start := by
    rw [hoffset]
    exact hchildren.innermostOf_eq hchild hstart hstop
  rw [scopeIn?, scopeIn?, Located.innermostAt, Located.start, hwalk]
  cases hfound : child.innermostAt log.marks position child.start with
  | some found =>
    have hmarked := (Located.exists_of_innermostAt hplaced' hstart hstop hfound).1
    obtain ⟨scope, hscope⟩ := Option.isSome_iff_exists.1 hmarked
    simp [hscope]
  | none =>
    cases hscope : log.scope? info.index <;> simp [marks, hscope]

end Log

/-- A node that enters no scope binds its parts in the one at hand. -/
theorem Enters.scope_eq {scope inner : Scope} {early : List Step} {piece : Piece}
    (h : Enters scope early piece inner) (henters : piece.enters = false) :
    ∀ step ∈ early, step.scope = scope := by
  cases h with
  | stays _ hscope => exact hscope
  | _ => cases henters

/-- **The scope of a part** is the one that the node entered, or else the one at hand: but for what a
relational node binds before it enters its own. -/
theorem Enters.scope_of_step {scope inner : Scope} {early late : List Step} {piece : Piece} {step : Step}
    (h : Enters scope early piece inner) (hlate : late.map Step.piece = piece.late)
    (hscope : ∀ step ∈ late, step.scope = inner) (hstep : step ∈ early ++ late)
    (hearly : piece.isRelational = true → step ∉ early) :
    step.scope = (if piece.enters then some inner else none).getD scope ∧
      (piece.isRelational = true → (if piece.enters then some inner else none).isSome = true) := by
  cases henters : piece.enters with
  | true =>
    have hmem := (List.mem_append.1 hstep).resolve_left (hearly (Piece.isRelational_of_enters henters))
    exact ⟨hscope _ hmem, fun _ => rfl⟩
  | false =>
    rw [Piece.late_eq_nil henters, List.map_eq_nil_iff] at hlate
    rw [hlate, List.append_nil] at hstep
    exact ⟨h.scope_eq henters _ hstep, fun hrelational => absurd hstep (hearly hrelational)⟩

namespace Visit

variable {scope : Scope} {outcome : Outcome} {first last : SymbolId} {log : Log}

/-- **What a step over a node leaves**: visits of its parts, and for the node itself its own record
and the scope that it entered. -/
theorem node_inv {piece : Piece} {info : NodeInfo} (hinfo : piece.info? = some info)
    (h : Visit [⟨scope, some piece, outcome⟩] first last log) :
    ∃ inner early late own middle stop log', early.map Step.piece = piece.early ∧
      late.map Step.piece = piece.late ∧ Enters scope early piece inner ∧
        (∀ step ∈ late, step.scope = inner) ∧ Visit (early ++ late) first middle log' ∧
          Concludes scope inner early middle stop piece outcome own ∧
            (∀ record ∈ log.records, record ∈ own ∨ record ∈ log'.records) ∧
              (∀ index, index ≠ info.index → log.record? index = log'.record? index ∧
                log.scope? index = log'.scope? index) ∧
                (log'.scope? info.index = none → log.scope? info.index =
                  if piece.enters then some inner else none) := by
  cases h with
  | @node _ inner _ _ early late _ _ middle stop next _ log₁ log₂ _ own hearly hlate henters hscope
      h₁ h₂ hle hown hrest =>
    have hrecord : ∀ index, index ≠ info.index → Log.record? ⟨own, []⟩ index = none := by
      intro index hindex
      refine List.find?_eq_none.2 fun record hrecord => ?_
      have hmem : record.info ∈ own.map Record.info := List.mem_map_of_mem hrecord
      rw [hown.map_info, hinfo] at hmem
      split at hmem
      · obtain rfl := List.mem_singleton.1 hmem
        simpa using hindex.symm
      · exact absurd hmem List.not_mem_nil
    have hentry : ∀ index, Log.scope? ⟨[], entry piece inner⟩ index =
        if piece.enters = true ∧ index = info.index then some inner else none := by
      intro index
      cases hcase : piece.enters with
      | false => simp [Log.scope?, entry, hcase]
      | true =>
        by_cases hindex : index = info.index
        · simp [Log.scope?, entry, hcase, hinfo, hindex]
        · simp [Log.scope?, entry, hcase, hinfo, hindex, Ne.symm hindex]
    cases hrest with
    | nil hle' =>
      refine ⟨inner, early, late, own, stop, next, log₂ ++ log₁, hearly, hlate, henters, hscope,
        h₁.append h₂, hown, fun record hrecord => ?_, fun index hindex => ?_, fun hnone => ?_⟩
      · simpa [or_assoc] using hrecord
      · simp only [Log.empty_append, Log.record?_append, Log.scope?_append, hrecord index hindex,
          hentry, hindex, and_false]
        exact ⟨rfl, rfl⟩
      · rw [Log.scope?_append, Option.or_eq_none_iff] at hnone
        simp only [Log.empty_append, Log.scope?_append, hnone, hentry, and_true, Option.none_or,
          Option.or_none]
        rfl

/-- The steps over the parts of a tree are steps over its children. -/
theorem exists_child_of_step {part : Located} {early late : List Step} {step : Step} {start : Piece}
    (hearly : early.map Step.piece = part.piece.early)
    (hlate : late.map Step.piece = part.piece.late) (hstep : step ∈ early ++ late)
    (hstart : step.piece = some start) : ∃ child ∈ part.children, child.piece = start := by
  have hmem : step.piece ∈ part.piece.early ++ part.piece.late := by
    rw [← hearly, ← hlate, ← List.map_append]
    exact List.mem_map_of_mem hstep
  have hvisited : start ∈ part.piece.visited :=
    List.mem_filterMap.2 ⟨step.piece, hmem, hstart⟩
  exact Located.exists_child_of_mem_parts (Piece.mem_parts_of_mem_visited hvisited)

/-- A position in a node: inside its text, and in no node below with a scope of its own. -/
structure Bare (log : Log) (node : Located) (position : Nat) : Prop where
  start : node.start ≤ position
  stop : position < node.stop
  nested : ∀ child ∈ node.children, ∀ inner ∈ child.nodes, ∀ info, inner.info? = some info →
    info.start ≤ position → position < info.stop → log.scope? info.index = none

/-- A position stays bare for a log that knows the same scopes in a tree around the node. -/
theorem Bare.congr {log' : Log} {part node : Located} {position : Nat} (hbare : Bare log node position)
    (hnode : node ∈ part.nodes)
    (hagree : ∀ inner ∈ part.nodes, ∀ info, inner.info? = some info →
      log.scope? info.index = log'.scope? info.index) : Bare log' node position := by
  refine ⟨hbare.start, hbare.stop, fun below hbelow inner hinner info hinfo h₁ h₂ => ?_⟩
  have hmem := Located.mem_nodes_trans (Located.mem_nodes_of_child hbelow hinner) hnode
  rw [← hagree inner hmem info hinfo]
  exact hbare.nested below hbelow inner hinner info hinfo h₁ h₂

/-- At a bare position of a node that entered no scope, none is found in the node. -/
theorem Bare.scopeIn?_eq_none {own : NodeInfo} {children : List Located} {position : Nat}
    {index offset next : Nat} (hbare : Bare log (.node own children) position)
    (hplaced : (Located.node own children).Placed index offset next)
    (hnone : log.scope? own.index = none) : log.scopeIn? position (.node own children) = none := by
  rw [Log.scopeIn?, Option.bind_eq_none_iff]
  intro found hfound
  rw [hplaced.le.2.1] at hfound
  obtain ⟨-, hoffset, -⟩ := id hplaced
  obtain ⟨-, hstart, hstop, inner, hinner, hinfo⟩ :=
    Located.exists_of_innermostAt hplaced (hoffset ▸ hbare.start) hbare.stop hfound
  rw [Located.nodes, List.mem_cons, Located.mem_nodesOf] at hinner
  rcases hinner with rfl | ⟨child, hchild, hinner⟩
  · obtain rfl : own = found := Option.some.inj hinfo
    exact hnone
  · exact hbare.nested child hchild inner hinner found hinfo hstart hstop

section Parts

variable {own : NodeInfo} {children : List Located} {early late : List Step} {index offset next : Nat}

/-- What the steps over the parts of a node come to has other numbers than the node. -/
theorem index_ne_of_comes (hplaced : (Located.node own children).Placed index offset next)
    (hearly : early.map Step.piece = (Located.node own children).piece.early)
    (hlate : late.map Step.piece = (Located.node own children).piece.late) {piece : Piece}
    {info : NodeInfo} (hcomes : Comes (early ++ late) piece) (hinfo : piece.info? = some info) :
    info.index ≠ own.index := by
  obtain ⟨step, hstep, start, hstart, hreached⟩ := hcomes
  obtain ⟨child, hchild, rfl⟩ := exists_child_of_step hearly hlate hstep hstart
  obtain ⟨inner, hinner, rfl⟩ := Located.exists_node_of_reached hreached hinfo
  exact hplaced.index_ne hchild hinner (inner.info?_piece ▸ hinfo)

/-- The steps over the parts of a node record no scope at the node itself. -/
theorem scope?_of_parts_eq_none (hvisit : Visit (early ++ late) first last log)
    (hplaced : (Located.node own children).Placed index offset next)
    (hearly : early.map Step.piece = (Located.node own children).piece.early)
    (hlate : late.map Step.piece = (Located.node own children).piece.late) :
    log.scope? own.index = none := by
  rw [← Option.not_isSome_iff_eq_none, hvisit.isSome_scope?_iff]
  rintro ⟨piece, info, hcomes, -, hinfo, heq⟩
  exact index_ne_of_comes hplaced hearly hlate hcomes hinfo heq

/-- **The record of an expression** has the scope at hand: none of its parts has its number. -/
theorem scope_of_record {inner : Scope} {middle stop : SymbolId} {it : Expr} {records : List Record}
    {record : Record} (hvisit : Visit (early ++ late) first last log)
    (hplaced : (Located.node own children).Placed index offset next)
    (hearly : early.map Step.piece = (Located.node own children).piece.early)
    (hlate : late.map Step.piece = (Located.node own children).piece.late)
    (hown : Concludes scope inner early middle stop (.expr it) outcome records)
    (hrecord : record ∈ records ∨ record ∈ log.records) (hindex : record.info.index = own.index) :
    record.scope = scope := by
  rcases hrecord with hmem | hmem
  · cases hown with
    | expr => rw [List.mem_singleton.1 hmem]
    | _ => exact absurd hmem List.not_mem_nil
  · obtain ⟨piece, hcomes, -, hinfo⟩ := (hvisit.exists_record_iff record.info).1 ⟨record, hmem, rfl⟩
    exact absurd hindex (index_ne_of_comes hplaced hearly hlate hcomes hinfo)

/-- **The last step over a child** decides the look-ups in it, if a node in it was recorded. -/
theorem exists_last_over (hvisit : Visit (early ++ late) first last log)
    (hplaced : (Located.node own children).Placed index offset next)
    (hearly : early.map Step.piece = (Located.node own children).piece.early)
    (hlate : late.map Step.piece = (Located.node own children).piece.late) {child node : Located}
    (hchild : child ∈ children) (hnode : node ∈ child.nodes) {info : NodeInfo}
    (hinfo : node.info? = some info) {record : Record}
    (hrecord : log.record? info.index = some record) :
    ∃ scope outcome first last log', ⟨scope, some child.piece, outcome⟩ ∈ early ++ late ∧
      Visit [⟨scope, some child.piece, outcome⟩] first last log' ∧
        ∀ inner ∈ child.nodes, ∀ info, inner.info? = some info →
          log.record? info.index = log'.record? info.index ∧
            log.scope? info.index = log'.scope? info.index := by
  obtain ⟨-, -, hchildren⟩ := id hplaced
  have hnumber : ∀ {inner : Located} {info : NodeInfo}, inner.info? = some info →
      inner.index? = some info.index :=
    fun hinfo => by rw [Located.index?, hinfo, Option.map_some]
  have honly : Apart (early ++ late) child.piece fun index =>
      ∃ inner ∈ child.nodes, inner.index? = some index := by
    rintro step hstep start hstart piece info hreached hinfo ⟨inner, hinner, hindex⟩
    obtain ⟨other, hother, rfl⟩ := exists_child_of_step hearly hlate hstep hstart
    obtain ⟨inner', hinner', rfl⟩ := Located.exists_node_of_reached hreached hinfo
    rw [hchildren.eq_of_index hother hchild hinner' hinner (hnumber (inner'.info?_piece ▸ hinfo))
      hindex]
  have hover : ∃ step ∈ early ++ late, step.piece = some child.piece := by
    obtain ⟨piece, info', ⟨step, hstep, start, hstart, hreached⟩, -, hpiece, heq⟩ :=
      (hvisit.isSome_record?_iff info.index).1 (by rw [hrecord]; rfl)
    have hsame := honly step hstep start hstart piece info' hreached hpiece
      (heq ▸ ⟨node, hnode, hnumber hinfo⟩)
    exact ⟨step, hstep, hsame ▸ hstart⟩
  obtain ⟨⟨scope, _, outcome⟩, hstep, rfl, first', last', log', hvisit', hlook⟩ :=
    hvisit.exists_last honly hover
  exact ⟨scope, outcome, first', last', log', hstep, hvisit', fun inner hinner info hinfo =>
    hlook info.index ⟨inner, hinner, hnumber hinfo⟩⟩

end Parts

/-- A node that enters no scope has none in the log. -/
theorem scope?_eq_none_of_not_enters {own : NodeInfo} {children : List Located} {index offset next : Nat}
    (hplaced : (Located.node own children).Placed index offset next)
    (h : Visit [⟨scope, some (Located.node own children).piece, outcome⟩] first last log)
    (henters : (Located.node own children).piece.enters = false) : log.scope? own.index = none := by
  obtain ⟨_, early, late, _, _, _, _, hearly, hlate, -, -, hvisit, -, -, -, hself⟩ :=
    h.node_inv ((Located.node own children).info?_piece.trans rfl)
  rw [hself (hvisit.scope?_of_parts_eq_none hplaced hearly hlate), henters]
  rfl

/-- **The scope at hand is the one found in the tree**, at a bare position of an expression. In a
relational tree it is found inside the tree.

**Proof sketch.** By induction on the tree. If the expression stands below a child, then the last step
over the child decides what is looked up there. That step is taken in the scope that the node entered,
which is found if nothing is found in the child; or in the scope at hand, if the node enters none; or
the child is relational, and then something is found in it. -/
theorem scope_eq {part node : Located} {it : Expr} {info : NodeInfo} {record : Record}
    {position index offset next : Nat} (hplaced : part.Placed index offset next)
    (h : Visit [⟨scope, some part.piece, outcome⟩] first last log) (hnode : node ∈ part.nodes)
    (hinfo : node.info? = some info) (hexpr : node.piece = .expr it)
    (hrecord : log.record? info.index = some record) (hbare : Bare log node position) :
    record.scope = (log.scopeIn? position part).getD scope ∧
      (part.piece.isRelational = true → (log.scopeIn? position part).isSome = true) := by
  induction part using Located.induction generalizing scope outcome first last log index offset next
  with
  | token leaf => simp [Located.nodes] at hnode
  | node own children ih =>
    obtain ⟨inner, early, late, records, middle, stop, log', hearly, hlate, henters, hscope, hvisit,
      hown, hrecords, hbelow, hself⟩ :=
        h.node_inv ((Located.node own children).info?_piece.trans rfl)
    obtain ⟨-, -, hchildren⟩ := id hplaced
    have hnone : log'.scope? own.index = none := hvisit.scope?_of_parts_eq_none hplaced hearly hlate
    rw [Located.nodes, List.mem_cons, Located.mem_nodesOf] at hnode
    rcases hnode with rfl | ⟨child, hchild, hnode⟩
    · -- the expression itself has a record of its own and enters no scope
      obtain rfl : own = info := Option.some.inj hinfo
      have hscope' : record.scope = scope :=
        hvisit.scope_of_record hplaced hearly hlate (hexpr ▸ hown)
          (hrecords record (List.mem_of_find?_eq_some hrecord)) (by simpa using List.find?_some hrecord)
      rw [hexpr] at hself
      rw [hbare.scopeIn?_eq_none hplaced (hself hnone), hscope', hexpr]
      exact ⟨rfl, fun h => by cases h⟩
    · obtain ⟨_, _, hplaced', -⟩ := hchildren.placed_of_mem hchild
      obtain ⟨_, _, -, -, -, hle, hge⟩ := hplaced'.placed_of_mem hnode
      have hstart : child.start ≤ position := Nat.le_trans hle hbare.start
      have hstop : position < child.stop := Nat.lt_of_lt_of_le hbare.stop hge
      have hrecord' : log'.record? info.index = some record := by
        rw [← (hbelow _ (hplaced.index_ne hchild hnode hinfo)).1, hrecord]
      obtain ⟨scope', outcome', _, _, log'', hstep, hvisit', hlook⟩ :=
        hvisit.exists_last_over hplaced hearly hlate hchild hnode hinfo hrecord'
      have hagree : ∀ inner ∈ child.nodes, ∀ info, inner.info? = some info →
          log.scope? info.index = log''.scope? info.index := by
        intro inner hinner info hinfo
        rw [(hbelow _ (hplaced.index_ne hchild hinner hinfo)).2, (hlook inner hinner info hinfo).2]
      obtain ⟨heq, hrelational⟩ := ih child hchild hplaced' hvisit' hnode
        ((hlook node hnode info hinfo).1 ▸ hrecord') (hbare.congr hnode hagree)
      rw [← Log.scopeIn?_congr hplaced' hstart hstop hagree] at heq hrelational
      rw [Log.scopeIn?_node hplaced hchild hstart hstop]
      cases hfound : log.scopeIn? position child with
      | some found =>
        rw [hfound] at heq
        exact ⟨heq, fun _ => rfl⟩
      | none =>
        -- then the child is not relational, and what counts is the scope of its step
        rw [hfound] at heq hrelational
        have hlater : (Located.node own children).piece.isRelational = true →
            ⟨scope', some child.piece, outcome'⟩ ∉ early := by
          intro h hmem
          have hpart : some child.piece ∈ (Located.node own children).piece.early := by
            rw [← hearly]
            exact List.mem_map_of_mem hmem
          cases hrelational (Piece.isRelational_of_mem_early h hpart)
        rw [hself hnone, Option.none_or, heq]
        exact henters.scope_of_step hlate hscope hstep hlater

end Visit

end Binding

open Binding

/-! ## Scopes of models -/

/-- **Scope at hand** when the node with a number was bound. -/
def BindingResult.scopeOf? (result : BindingResult) (index : Nat) : Option Scope :=
  (result.records.find? (·.info.index == index)).map (·.scope)

namespace SemanticModel

variable {analysis : Analysis} {next : SymbolId} {elements : List Element}

/-- A compilation unit is read as a unit. -/
theorem exists_unit_of_element (h : analysis.tree.element = .node .compilationUnit elements) :
    ∃ own children it, analysis.tree.root = .node own children ∧
      analysis.tree.root.piece = .unit it := by
  rw [SyntaxTree.root, h]
  exact ⟨_, _, _, rfl, rfl⟩

/-- Below its root, a model knows the scopes of the log at a position: the nodes around it have text. -/
theorem scope?_of_log {model : SemanticModel} {log : Log} {own info : NodeInfo} {node : Located}
    {position : Nat} (hknown : model.result.coincidences = model.analysis.tree.coincidences)
    (hscopes : model.result.scopes = log.scopes ++ [(own, model.result.rootScope)])
    (hnode : node ∈ model.analysis.tree.root.nodes) (hinfo : node.info? = some info)
    (hstart : info.start ≤ position) (hstop : position < info.stop) (hne : info.index ≠ own.index) :
    model.result.scope? info.index = log.scope? info.index := by
  have halone := SyntaxTree.alone_of_text hnode hinfo (Nat.lt_of_le_of_lt hstart hstop)
  rw [BindingResult.scope?_eq hknown halone, Log.scope?, Log.scope?]
  change (model.result.scopes.find? _).map _ = _
  rw [hscopes, List.find?_append]
  simp [Ne.symm hne]

/-- The walk of a model to a position finds the scope in the tree, if the root enters none. -/
theorem scopeAt_eq_scopeIn? {model : SemanticModel} {log : Log} {own : NodeInfo}
    {children : List Located} (hknown : model.result.coincidences = model.analysis.tree.coincidences)
    (hroot : model.analysis.tree.root = .node own children)
    (hscopes : model.result.scopes = log.scopes ++ [(own, model.result.rootScope)])
    (hnone : log.scope? own.index = none) (position : Nat) :
    model.scopeAt position =
      (log.scopeIn? position model.analysis.tree.root).getD model.result.rootScope := by
  have hplaced := hroot ▸ model.analysis.tree.placed_root
  obtain ⟨-, hoffset, hchildren⟩ := id hplaced
  have hlog : ∀ node ∈ Located.nodesOf children, ∀ info, node.info? = some info →
      info.start ≤ position → position < info.stop →
        model.result.scope? info.index = log.scope? info.index := by
    intro node hnode info hinfo hstart hstop
    obtain ⟨child, hchild, hinner⟩ := Located.mem_nodesOf.1 hnode
    refine scope?_of_log hknown hscopes ?_ hinfo hstart hstop (hplaced.index_ne hchild hinner hinfo)
    rw [hroot]
    exact .tail _ hnode
  have hmarks : Located.innermostOf (fun info => (model.result.scope? info.index).isSome) position
      children 0 = Located.innermostOf log.marks position children 0 :=
    Located.innermostOf_congr hchildren fun node hnode info hinfo hstart hstop => by
      rw [hlog node hnode info hinfo hstart hstop, Log.marks]
  have hwalk : model.analysis.tree.root.innermostAt log.marks position
      model.analysis.tree.root.start = Located.innermostOf log.marks position children 0 := by
    rw [hroot, Located.innermostAt, Located.start, hoffset, Log.marks, hnone]
    cases Located.innermostOf log.marks position children 0 <;> rfl
  rw [Log.scopeIn?, hwalk, scopeAt, Located.innermost, hroot, Located.children, hmarks]
  cases hfound : Located.innermostOf log.marks position children 0 with
  | none => rfl
  | some found =>
    obtain ⟨-, hstart, hstop, node, hnode, hinfo⟩ := Located.exists_of_innermostOf hchildren hfound
    rw [Option.bind_some, Option.bind_some, hlog node hnode found hinfo hstart hstop]

/-- A position that no node with a scope covers inside an expression of a model is bare in the log: the
expression is below the root, whose scope the model keeps itself. -/
theorem bare_of_nested {model : SemanticModel} {log : Log} {own info : NodeInfo}
    {children : List Located} {node : Located} {it : Expr} {unit : Ast.Unit} {position : Nat}
    (hknown : model.result.coincidences = model.analysis.tree.coincidences)
    (hscopes : model.result.scopes = log.scopes ++ [(own, model.result.rootScope)])
    (hroot : model.analysis.tree.root = .node own children)
    (hunit : model.analysis.tree.root.piece = .unit unit)
    (hnode : node ∈ model.analysis.tree.root.nodes) (hinfo : node.info? = some info)
    (hexpr : node.piece = .expr it) (hstart : info.start ≤ position) (hstop : position < info.stop)
    (hnested : ∀ child ∈ node.children, ∀ inner ∈ child.nodes, ∀ own, inner.info? = some own →
      own.start ≤ position → position < own.stop → model.result.scope? own.index = none) :
    Visit.Bare log node position := by
  have hplaced := hroot ▸ model.analysis.tree.placed_root
  obtain ⟨_, _, rfl⟩ := Located.exists_info_of_mem_nodes hnode
  obtain rfl := Option.some.inj hinfo
  refine ⟨hstart, hstop, fun child hchild inner hinner info hinfo h₁ h₂ => ?_⟩
  have hne : info.index ≠ own.index := by
    have hroot' := id hnode
    rw [hroot, Located.nodes, List.mem_cons, Located.mem_nodesOf] at hroot'
    rcases hroot' with heq | ⟨outer, houter, hmem⟩
    · rw [heq, ← hroot, hunit] at hexpr
      cases hexpr
    · have hinner' := Located.mem_nodes_trans (Located.mem_nodes_of_child hchild hinner) hmem
      exact hplaced.index_ne houter hinner' hinfo
  have hmem := Located.mem_nodes_trans (Located.mem_nodes_of_child hchild hinner) hnode
  rw [← scope?_of_log hknown hscopes hmem hinfo h₁ h₂ hne]
  exact hnested child hchild inner hinner info hinfo h₁ h₂

/-- **What a model knows of a node with text** is the record of its own that the log has. -/
theorem boundNode?_of_record {node : Located} {info : NodeInfo} {record : Record}
    (hnode : node ∈ analysis.tree.root.nodes) (hinfo : node.info? = some info)
    (htext : info.start < info.stop)
    (hrecord : (analysis.tree.bind analysis.options analysis.catalog next).1.log.record? info.index =
      some record) :
    (analysis.model next).1.boundNode? (analysis.tree.ref info) = some record.node := by
  have halone := SyntaxTree.alone_of_text hnode hinfo htext
  have hown : (analysis.tree.bind analysis.options analysis.catalog next).1.boundNode? info.index =
      some record.node := by
    rw [BindingResult.boundNode?_eq analysis.tree.coincidences_bind halone, BindingResult.latest?]
    exact congrArg (Option.map Record.node) hrecord
  have hrecorded := ((isSome_result_of_alone hnode hinfo halone).1 (by rw [hown]; rfl)).2.2
  rw [boundNode?_ref hnode hinfo, Located.coreInfo_eq hinfo (Piece.core_of_isRecorded hrecorded), hown]

/-- **The scope offered is the scope used.** In an expression, outside of the nodes below it that have
a scope of their own, the scope that the model finds is the one in which the expression was bound. So
what the expression refers to is among the symbols offered there. -/
theorem scopeAt_eq {node : Located} {info : NodeInfo} {it : Expr} {scope : Scope} {position : Nat}
    (helement : analysis.tree.element = .node .compilationUnit elements)
    (hnode : node ∈ analysis.tree.root.nodes) (hinfo : node.info? = some info)
    (hexpr : node.piece = .expr it)
    (hbound : (analysis.model next).1.result.scopeOf? info.index = some scope)
    (hstart : info.start ≤ position) (hstop : position < info.stop)
    (hnested : ∀ child ∈ node.children, ∀ inner ∈ child.nodes, ∀ own, inner.info? = some own →
      own.start ≤ position → position < own.stop →
        (analysis.model next).1.result.scope? own.index = none) :
    (analysis.model next).1.scopeAt position = scope ∧
      ∀ symbol, (analysis.model next).1.symbol? (analysis.tree.ref info) = some symbol →
        symbol.kind.isScoped = true → symbol ∈ (analysis.model next).1.lookupSymbols position := by
  obtain ⟨own, children, unit, hroot, hunit⟩ := exists_unit_of_element helement
  obtain ⟨outcome, first, last, log, hvisit, hrecords, hscopes⟩ :=
    analysis.tree.bind_visits analysis.options analysis.catalog next
  rw [SyntaxTree.steps, hunit, if_pos (show (Piece.unit unit).isRoot = true from rfl),
    ← hunit] at hvisit
  rw [hroot] at hscopes
  have hnone : log.scope? own.index = none := by
    refine Visit.scope?_eq_none_of_not_enters (hroot ▸ analysis.tree.placed_root) (hroot ▸ hvisit) ?_
    rw [← hroot, hunit]
    rfl
  obtain ⟨record, hrecord, rfl⟩ : ∃ record, log.record? info.index = some record ∧
      record.scope = scope := by
    rw [← Option.map_eq_some_iff, ← hbound, Log.record?, ← hrecords]
    rfl
  have hbare : Visit.Bare log node position :=
    @bare_of_nested (analysis.model next).1 _ _ _ _ _ _ _ _ rfl hscopes hroot hunit hnode hinfo hexpr
      hstart hstop hnested
  obtain ⟨heq, -⟩ := Visit.scope_eq analysis.tree.placed_root hvisit hnode hinfo hexpr hrecord hbare
  have hscopeAt : (analysis.model next).1.scopeAt position = record.scope := by
    rw [heq]
    exact @scopeAt_eq_scopeIn? (analysis.model next).1 _ _ _ rfl hroot hscopes hnone position
  refine ⟨hscopeAt, fun symbol hsymbol hscoped => ?_⟩
  change symbol ∈ ((analysis.model next).1.scopeAt position).offered
  rw [hscopeAt]
  have hlog : (analysis.tree.bind analysis.options analysis.catalog next).1.log.record? info.index =
      some record := by
    rw [BindingResult.log, Log.record?, hrecords]
    exact hrecord
  rw [symbol?, boundExpr?, boundNode?_of_record hnode hinfo (Nat.lt_of_le_of_lt hstart hstop) hlog,
    Option.bind_some] at hsymbol
  obtain ⟨value, hvalue, hsymbol⟩ := Option.bind_eq_some_iff.1 hsymbol
  have hnode' : record.node = .expr value := by
    cases hcase : record.node <;> rw [hcase] at hvalue <;> cases hvalue
    rfl
  exact hvisit.grounded record (List.mem_of_find?_eq_some hrecord) value hnode' symbol hsymbol hscoped

/-- The analysis of a query that selects a name. -/
def selectedName : Analysis :=
  ⟨⟨0, .node .compilationUnit [.node .selectQuery [.node .selectClause [.token .selectKeyword "SELECT",
    .token .whitespace " ",
    .node .expressionSelectColumn [.node .nameExpression [.token .identifier "x"]]]]]⟩,
    (Catalog.empty 0).1, {}⟩

/-- A selected name is bound in the scope that its query enters, and this scope is found again at the
name. -/
theorem scopeAt_selectedName : ∃ scope,
    (selectedName.model 0).1.result.scopeOf? 4 = some scope ∧ scope.depth = 2 ∧
      (selectedName.model 0).1.scopeAt 7 = scope := by
  have hnode : Located.node ⟨.nameExpression, 4, 7, 8, some 7⟩ [.token ⟨.identifier, "x", 7⟩] ∈
      selectedName.tree.root.nodes :=
    .tail _ (.tail _ (.tail _ (.tail _ (.head _))))
  have hdepth : ((selectedName.model 0).1.result.scopeOf? 4).map Scope.depth = some 2 := by
    decide +kernel
  obtain ⟨scope, hbound, hdepth⟩ := Option.map_eq_some_iff.1 hdepth
  have hnested : ∀ child ∈ [Located.token ⟨.identifier, "x", 7⟩], ∀ inner ∈ child.nodes, ∀ own,
      inner.info? = some own → own.start ≤ 7 → 7 < own.stop →
        (selectedName.model 0).1.result.scope? own.index = none := by
    intro child hchild inner hinner
    obtain rfl := List.mem_singleton.1 hchild
    exact absurd hinner List.not_mem_nil
  have hoffered := scopeAt_eq rfl hnode rfl rfl hbound (Nat.le_refl 7) (Nat.lt_succ_self 7) hnested
  exact ⟨scope, hbound, hdepth, hoffered.1⟩

end SemanticModel

end QuerySemantics
