import QuerySemantics.Proofs.Ast.AlikeParts
import QuerySemantics.Proofs.Binding.Traversal
import QuerySemantics.Proofs.Model.Lookup

/-!
# Which nodes are bound

A semantic model knows the nodes that binding came to. So whether a node is bound is a question about
the shape of its tree: whether the way from the root down to it is never cut off. It is cut off at one
form only, the property without a name, whose target stays unbound.

What is known of a node is known of every node that coincides with it. So where nodes coincide, it is
enough that binding came to one of them; its operands coincide with those of the others.

## Main results

* `SemanticModel.isSome_boundNode?_iff`: the nodes that a model knows.
* `SemanticModel.operand_bound_iff`: the operands of a bound node are bound, unless they are nests of
  parentheses with nothing inside, or the target of a property without a name.
-/

set_option autoImplicit false

namespace QuerySemantics

open Ast Binding

namespace Piece

/-! ## Looking through parentheses -/

/-- The core of an expression is reached. -/
theorem reached_core_expr : ∀ it : Expr, Reached (.expr it) (.expr it.core)
  | .parenthesized info (some inner) => by
    have hinner : Piece.expr inner ∈ (Piece.expr (.parenthesized info (some inner))).visited := by
      simp [visited, early, late]
    rw [Expr.core, Expr.coreOr]
    exact .step hinner (reached_core_expr inner)
  | .parenthesized info none => .refl _
  | .name _ _ | .parameter _ _ | .literal _ _ | .unary _ _ _ | .binary _ _ _ _ _
  | .property _ _ _ | .method _ _ _ _ | .call _ _ _ | .countAll _ _ | .cast _ _ _
  | .isNull _ _ _ | .cases _ _ _ _ | .subselect _ _ | .existence _ _ | .quantified _ _ _ _ _ =>
    .refl _

/-- The core of a query is reached. -/
theorem reached_core_query : ∀ it : Query, Reached (.query it) (.query it.core)
  | .parenthesized info (some inner) => by
    have hinner : Piece.query inner ∈ (Piece.query (.parenthesized info (some inner))).visited := by
      simp [visited, early, late]
    rw [Query.core, Query.coreOr]
    exact .step hinner (reached_core_query inner)
  | .parenthesized info none => .refl _
  | .select _ _ _ _ _ _ | .combined _ _ _ _ | .ordered _ _ _ | .withTables _ _ _ => .refl _

/-- The core of a table reference is reached. -/
theorem reached_core_table : ∀ it : TableRef, Reached (.table it) (.table it.core)
  | .parenthesized info (some inner) => by
    have hinner : Piece.table inner ∈ (Piece.table (.parenthesized info (some inner))).visited := by
      simp [visited, early, late]
    rw [TableRef.core, TableRef.coreOr]
    exact .step hinner (reached_core_table inner)
  | .parenthesized info none => .refl _
  | .named _ _ _ | .derived _ _ _ | .joined _ _ _ _ _ => .refl _

/-- **Binding looks through parentheses.** -/
theorem reached_core (piece : Piece) : piece.Reached piece.core := by
  cases piece with
  | expr it => exact reached_core_expr it
  | query it => exact reached_core_query it
  | table it => exact reached_core_table it
  | _ => exact .refl _

/-- Whether a piece is of a form that is bound, with parentheses looked through. -/
def isBindable : Piece → Bool
  | .expr _ | .query _ | .table _ | .selectItem _ | .caseLabel _ | .commonTable _ => true
  | _ => false

/-- The core of a piece that is bound itself is the piece. -/
theorem core_of_isRecorded {piece : Piece} (h : piece.isRecorded = true) : piece.core = piece := by
  cases piece with
  | expr it | query it | table it =>
    cases it with
    | parenthesized info inner => cases h
    | _ => rfl
  | _ => rfl

/-- Parts are pieces to bind or clauses: names, types and the rest are read, but are not parts. -/
theorem isPart_of_mem_parts {piece part : Piece} (h : part ∈ piece.parts) :
    part.isClause = true ∨ part.isBindable = true := by
  have hall : piece.parts.all fun part => part.isClause || part.isBindable := by
    cases piece with
    | expr it | query it | table it | selectItem it | selectClause it | fromClause it
    | condition it | groupBy it | orderItem it | arguments it | caseLabel it | commonTable it =>
      cases it <;> simp [parts, ofExpr?, ofQuery?, ofTable?, isClause, isBindable]
    | unit it => simp [parts, ofExpr?, ofQuery?, isClause, isBindable]
    | _ => rfl
  simpa using List.all_eq_true.1 hall part h

/-- The parts of a clause are pieces to bind. -/
theorem isBindable_of_isClause {clause part : Piece} (hclause : clause.isClause = true)
    (h : part ∈ clause.parts) : part.isBindable = true := by
  have hall : clause.parts.all isBindable := by
    cases clause with
    | selectClause it | fromClause it | condition it | groupBy it | orderItem it | arguments it =>
      cases it
      simp [parts, ofExpr?, isBindable]
    | _ => cases hclause
  exact List.all_eq_true.1 hall part h

/-- Operands are pieces to bind. -/
theorem isBindable_of_mem_operands {piece operand : Piece} (h : operand ∈ piece.operands) :
    operand.isBindable = true := by
  obtain ⟨part, hpart, hoperand⟩ := List.mem_flatMap.1 h
  split at hoperand
  · rename_i hclause
    exact isBindable_of_isClause hclause hoperand
  · rename_i hclause
    obtain rfl := List.mem_singleton.1 hoperand
    exact (isPart_of_mem_parts hpart).resolve_left hclause

/-- **The core of a piece to bind is bound**, but for a nest of parentheses with nothing inside. -/
theorem isRecorded_core {piece : Piece} (h : piece.isBindable = true) :
    piece.core.isRecorded = !piece.isEmptyNest := by
  cases piece with
  | expr it => cases hcore : it.core <;> simp [core, hcore, isRecorded, isEmptyNest]
  | query it => cases hcore : it.core <;> simp [core, hcore, isRecorded, isEmptyNest]
  | table it => cases hcore : it.core <;> simp [core, hcore, isRecorded, isEmptyNest]
  | selectItem it | caseLabel it | commonTable it => rfl
  | _ => cases h

/-- The way down to an operand of a recorded piece is cut off by a missing name only. -/
theorem reached_of_mem_operands {piece operand : Piece} (h : operand ∈ piece.operands)
    (hunit : ∀ it, piece ≠ .unit it) (hnameless : piece.isNameless = false) :
    piece.Reached operand := by
  obtain ⟨part, hpart, hoperand⟩ := List.mem_flatMap.1 h
  have hvisited : part ∈ piece.visited := (mem_visited_iff hunit).2 ⟨hpart, hnameless⟩
  split at hoperand
  · rename_i hclause
    have hinner : operand ∈ part.visited := by
      refine (mem_visited_iff ?_).2 ⟨hoperand, ?_⟩
      · rintro it rfl
        cases hclause
      · cases part <;> first | rfl | cases hclause
    exact .step hvisited (.step hinner (.refl _))
  · obtain rfl := List.mem_singleton.1 hoperand
    exact .step hvisited (.refl _)

/-- A piece is its own core, or its operands have the core that it has. -/
theorem core_eq_or (piece : Piece) :
    piece.core = piece ∨ ∀ operand ∈ piece.operands, operand.core = piece.core := by
  cases piece with
  | expr it | query it | table it =>
    cases it with
    | parenthesized info inner =>
      cases inner with
      | none => exact .inl rfl
      | some inner =>
        refine .inr fun operand hoperand => ?_
        obtain rfl := List.mem_singleton.1 hoperand
        rfl
    | _ => exact .inl rfl
  | _ => exact .inl rfl

end Piece

/-- The core of an operand is read from a node below. -/
theorem Located.exists_node_of_core_operand {part : Located} {operand : Piece} {info : NodeInfo}
    (h : operand ∈ part.piece.operands) (hinfo : operand.core.info? = some info) :
    ∃ node ∈ part.nodes, node.info? = some info := by
  have hown : (operand.info?).isSome = true := by
    cases operand with
    | token leaf => cases hinfo
    | _ => rfl
  obtain ⟨own, hown⟩ := Option.isSome_iff_exists.1 hown
  obtain ⟨child, hchild, node, hnode, rfl⟩ := exists_node_of_mem_operands h hown
  obtain ⟨inner, hinner, hpiece⟩ := exists_node_of_reached node.piece.reached_core hinfo
  exact ⟨inner, mem_nodes_of_child hchild (mem_nodes_trans hinner hnode),
    by rw [← inner.info?_piece, hpiece, hinfo]⟩

/-! ## Nodes that coincide -/

namespace SyntaxTree

variable {tree : SyntaxTree} {index other : Nat} {node node' : Located}

/-- A node is read like what it consists of, moved to its number and its offset. -/
theorem alike_of_node? (h : tree.node? index = some node) :
    (node.element.locate 0 0).1.piece.Alike (Likeness.shift index node.start) node.piece := by
  have halike : (node.element.locate 0 0).1.Alike (Likeness.shift index node.start)
      ((node.element.locate 0 0).1.shift index node.start) := Located.alike_shift _
  rw [← eq_shift h] at halike
  exact halike.piece

/-- A node that coincides with another one is read like what that one consists of, moved. -/
theorem Same.alike (h : tree.Same index other) (hnode : tree.node? index = some node)
    (hnode' : tree.node? other = some node') :
    (node.element.locate 0 0).1.piece.Alike (Likeness.shift other node'.start) node'.piece :=
  h.element_eq hnode hnode' ▸ alike_of_node? hnode'

/-- Nodes that coincide are recorded both or neither. -/
theorem Same.isRecorded_eq (h : tree.Same index other) (hnode : tree.node? index = some node)
    (hnode' : tree.node? other = some node') : node'.piece.isRecorded = node.piece.isRecorded :=
  (h.alike hnode hnode').isRecorded_eq.trans (alike_of_node? hnode).isRecorded_eq.symm

/-- Nodes that coincide are properties without a name both or neither. -/
theorem Same.isNameless_eq (h : tree.Same index other) (hnode : tree.node? index = some node)
    (hnode' : tree.node? other = some node') : node'.piece.isNameless = node.piece.isNameless :=
  (h.alike hnode hnode').isNameless_eq.trans (alike_of_node? hnode).isNameless_eq.symm

/-- **Operands of nodes that coincide** correspond: their cores coincide. -/
theorem Same.exists_operand (h : tree.Same index other) (hnode : tree.node? index = some node)
    (hnode' : tree.node? other = some node') {operand : Piece} (hoperand : operand ∈ node.piece.operands)
    {inner : NodeInfo} (hinner : operand.core.info? = some inner) :
    ∃ operand' ∈ node'.piece.operands, operand'.isEmptyNest = operand.isEmptyNest ∧
      ∃ inner', operand'.core.info? = some inner' ∧ tree.Same inner.index inner'.index := by
  obtain ⟨place, hplace⟩ := List.mem_iff_getElem?.1 hoperand
  -- what both consist of has an operand there too, which either node has moved
  obtain ⟨base, hbase, halike⟩ := ((alike_of_node? hnode).operands.getElem? place).exists_left hplace
  obtain ⟨operand', hplace', halike'⟩ :=
    ((h.alike hnode hnode').operands.getElem? place).exists_right hbase
  obtain ⟨info, hinfo, hmoved⟩ := halike.core.info?.exists_left hinner
  obtain ⟨inner', hinner', hmoved'⟩ := halike'.core.info?.exists_right hinfo
  obtain ⟨part, hpart, hpartInfo⟩ := Located.exists_node_of_core_operand (List.mem_of_getElem? hbase) hinfo
  refine ⟨operand', List.mem_of_getElem? hplace', halike'.isEmptyNest_eq.trans halike.isEmptyNest_eq.symm,
    inner', hinner', ?_⟩
  rw [hmoved, hmoved']
  exact h.below hnode hpart hpartInfo

end SyntaxTree

/-! ## Bound nodes -/

/-- The core of what a node is read as has the node's core information. -/
theorem Located.info?_core {part : Located} {info : NodeInfo} (h : part.info? = some info) :
    part.piece.core.info? = some (part.coreInfo info) := by
  have hpiece := part.info?_piece.trans h
  unfold coreInfo
  cases hread : part.piece <;> rw [hread] at hpiece <;> first | rfl | exact hpiece

/-- A node without parentheses to look through is its own core. -/
theorem Located.coreInfo_eq {part : Located} {info : NodeInfo} (h : part.info? = some info)
    (hcore : part.piece.core = part.piece) : part.coreInfo info = info := by
  have hread := Located.info?_core h
  rw [hcore, part.info?_piece, h] at hread
  exact (Option.some.inj hread).symm

namespace SemanticModel

variable {analysis : Analysis} {next : SymbolId} {node : Located} {info : NodeInfo}

/-- A model takes those nodes for one that coincide in its tree. -/
theorem isSame_iff (analysis : Analysis) (next : SymbolId) (index other : Nat) :
    (analysis.model next).1.result.isSame index other = true ↔ analysis.tree.Same index other :=
  BindingResult.isSame_iff rfl

/-- A number has a record if it is that of a node that the root reaches and whose form is one that is
recorded. -/
theorem exists_record_iff {index : Nat} :
    (∃ record ∈ (analysis.tree.bind analysis.options analysis.catalog next).1.records,
        record.info.index = index) ↔
      analysis.tree.root.piece.isRoot = true ∧ ∃ node, analysis.tree.node? index = some node ∧
        analysis.tree.root.piece.Reached node.piece ∧ node.piece.isRecorded = true := by
  obtain ⟨outcome, first, last, log, hvisit, hrecords, -⟩ :=
    analysis.tree.bind_visits analysis.options analysis.catalog next
  rw [hrecords]
  constructor
  · rintro ⟨record, hrecord, rfl⟩
    obtain ⟨piece, hpiece, hrecorded, hinfo⟩ :=
      (hvisit.exists_record_iff record.info).1 ⟨record, hrecord, rfl⟩
    obtain ⟨hroot, hreached⟩ := SyntaxTree.comes_steps.1 hpiece
    obtain ⟨node, hnode, rfl⟩ := Located.exists_node_of_reached hreached hinfo
    have hnumber : node.index? = some record.info.index := by
      rw [Located.index?, ← node.info?_piece, hinfo, Option.map_some]
    exact ⟨hroot, node, SyntaxTree.node?_eq_some_iff.2 ⟨hnode, hnumber⟩, hreached, hrecorded⟩
  · rintro ⟨hroot, node, hnode, hreached, hrecorded⟩
    obtain ⟨-, hnumber⟩ := SyntaxTree.node?_eq_some_iff.1 hnode
    obtain ⟨info, hinfo, rfl⟩ := Option.map_eq_some_iff.1 hnumber
    obtain ⟨record, hrecord, heq⟩ := (hvisit.exists_record_iff info).2
      ⟨node.piece, SyntaxTree.comes_steps.2 ⟨hroot, hreached⟩, hrecorded, node.info?_piece.trans hinfo⟩
    exact ⟨record, hrecord, congrArg NodeInfo.index heq⟩

/-- **What is found for a node** is a record of a node that coincides with it, that the root reaches and
whose form is one that is recorded. -/
theorem isSome_result_iff {index : Nat} :
    ((analysis.tree.bind analysis.options analysis.catalog next).1.boundNode? index).isSome = true ↔
      analysis.tree.root.piece.isRoot = true ∧ ∃ (other : Nat) (node : Located),
        analysis.tree.Same index other ∧ analysis.tree.node? other = some node ∧
          analysis.tree.root.piece.Reached node.piece ∧ node.piece.isRecorded = true := by
  rw [BindingResult.isSome_boundNode?_iff analysis.tree.coincidences_bind]
  constructor
  · rintro ⟨record, hrecord, hsame⟩
    obtain ⟨hroot, node, hnode⟩ := exists_record_iff.1 ⟨record, hrecord, rfl⟩
    exact ⟨hroot, _, node, hsame, hnode⟩
  · rintro ⟨hroot, other, node, hsame, hnode⟩
    obtain ⟨record, hrecord, rfl⟩ := exists_record_iff.2 ⟨hroot, node, hnode⟩
    exact ⟨record, hrecord, hsame⟩

/-- A node that coincides with no other is recorded if the root reaches it and its form is one that is
recorded. -/
theorem isSome_result_of_alone (hnode : node ∈ analysis.tree.root.nodes) (hinfo : node.info? = some info)
    (halone : analysis.tree.Alone info.index) :
    ((analysis.tree.bind analysis.options analysis.catalog next).1.boundNode?
        info.index).isSome = true ↔
      analysis.tree.root.piece.isRoot = true ∧ analysis.tree.root.piece.Reached node.piece ∧
        node.piece.isRecorded = true := by
  have hown : analysis.tree.node? info.index = some node :=
    SyntaxTree.node?_eq_some_iff.2 ⟨hnode, by rw [Located.index?, hinfo, Option.map_some]⟩
  rw [isSome_result_iff]
  refine and_congr_right fun _ => ⟨?_, fun h => ⟨_, node, .inl rfl, hown, h⟩⟩
  rintro ⟨other, node', hsame, hnode', h⟩
  obtain rfl := halone other hsame
  cases hown.symm.trans hnode'
  exact h

/-- The model knows a node by its core. -/
theorem boundNode?_ref (hnode : node ∈ analysis.tree.root.nodes) (hinfo : node.info? = some info) :
    (analysis.model next).1.boundNode? (analysis.tree.ref info) =
      (analysis.tree.bind analysis.options analysis.catalog next).1.boundNode?
        (node.coreInfo info).index := by
  have hnode? : analysis.tree.node? info.index = some node :=
    SyntaxTree.node?_eq_some_iff.2 ⟨hnode, by rw [Located.index?, hinfo, Option.map_some]⟩
  change (if (analysis.tree.bind analysis.options analysis.catalog next).1.contains
    (analysis.tree.ref info) then _ else none) = _
  rw [SyntaxTree.contains_bind, if_pos (by simp [SyntaxTree.ref])]
  change ((analysis.tree.node? info.index).bind fun part => part.info?.bind fun info =>
    (analysis.tree.bind analysis.options analysis.catalog next).1.boundNode?
      (part.coreInfo info).index) = _
  rw [hnode?, Option.bind_some, hinfo, Option.bind_some]

/-- **The core of a node** is a node below it. -/
theorem exists_core (hnode : node ∈ analysis.tree.root.nodes) (hinfo : node.info? = some info) :
    ∃ inner ∈ node.nodes, inner.piece = node.piece.core ∧
      analysis.tree.node? (node.coreInfo info).index = some inner := by
  have hcore := Located.info?_core hinfo
  obtain ⟨inner, hinner, hpiece⟩ := Located.exists_node_of_reached node.piece.reached_core hcore
  refine ⟨inner, hinner, hpiece, SyntaxTree.node?_eq_some_iff.2 ⟨Located.mem_nodes_trans hinner hnode, ?_⟩⟩
  rw [Located.index?, ← inner.info?_piece, hpiece, hcore, Option.map_some]

/-- **The nodes that a model knows** are those whose core coincides with a node that the root reaches and
whose form is one that is recorded. -/
theorem isSome_boundNode?_iff (hnode : node ∈ analysis.tree.root.nodes)
    (hinfo : node.info? = some info) :
    ((analysis.model next).1.boundNode? (analysis.tree.ref info)).isSome = true ↔
      analysis.tree.root.piece.isRoot = true ∧ ∃ (other : Nat) (inner : Located),
        analysis.tree.Same (node.coreInfo info).index other ∧ analysis.tree.node? other = some inner ∧
          analysis.tree.root.piece.Reached inner.piece ∧ inner.piece.isRecorded = true := by
  rw [boundNode?_ref hnode hinfo, isSome_result_iff]

/-! ## Operands -/

/-- **Binding goes on to operands**, wherever it came to a node that coincides with theirs: an operand of
such a node is reached from there, and coincides with the operand. -/
theorem isSome_result_operand {other : Nat} {node' : Located} {operand : Piece} {core : NodeInfo}
    (hroot : analysis.tree.root.piece.isRoot = true) (hnode : analysis.tree.node? info.index = some node)
    (hsame : analysis.tree.Same info.index other) (hnode' : analysis.tree.node? other = some node')
    (hreached : analysis.tree.root.piece.Reached node'.piece) (hrecorded : node'.piece.isRecorded = true)
    (hname : node.piece.isNameless = false) (hoperand : operand ∈ node.piece.operands)
    (hcore : operand.core.info? = some core) (hnest : operand.isEmptyNest = false) :
    ((analysis.tree.bind analysis.options analysis.catalog next).1.boundNode?
      core.index).isSome = true := by
  obtain ⟨operand', hoperand', hnest', core', hcore', hbelow⟩ :=
    hsame.exists_operand hnode hnode' hoperand hcore
  have hunit : ∀ it, node'.piece ≠ .unit it := by
    rintro it hit
    rw [hit] at hrecorded
    cases hrecorded
  have hway := (hreached.trans (Piece.reached_of_mem_operands hoperand' hunit
    ((hsame.isNameless_eq hnode hnode').trans hname))).trans operand'.reached_core
  obtain ⟨last, hlast, hpiece⟩ := Located.exists_node_of_reached hway hcore'
  have hnumber : last.index? = some core'.index := by
    rw [Located.index?, ← last.info?_piece, hpiece, hcore', Option.map_some]
  refine isSome_result_iff.2 ⟨hroot, _, last, hbelow, SyntaxTree.node?_eq_some_iff.2 ⟨hlast, hnumber⟩, ?_⟩
  rw [hpiece, Piece.isRecorded_core (Piece.isBindable_of_mem_operands hoperand'), hnest', hnest]
  exact ⟨hway, rfl⟩

/-- The operands of a property without a name are not reached. -/
theorem not_reached_operand {part : Located} (hnode : node ∈ analysis.tree.root.nodes)
    (hname : node.piece.isNameless = true) {child inner : Located} (hchild : child ∈ node.children)
    (hpart : part ∈ child.nodes) (hinner : inner ∈ part.nodes) :
    ¬ analysis.tree.root.piece.Reached inner.piece := by
  intro hreached
  have hbelow := Located.mem_nodes_trans hinner hpart
  -- the way down goes over the node, and not on from there
  obtain ⟨-, hway⟩ := analysis.tree.placed_root.reached_between hnode
    (Located.mem_nodes_of_child hchild hbelow) hreached
  rcases Piece.reached_iff.1 hway with heq | ⟨start, hstart, -⟩
  · obtain ⟨_, _, hplaced, -⟩ := analysis.tree.placed_root.placed_of_mem hnode
    exact hplaced.piece_ne hchild hbelow heq
  · rw [Piece.visited_of_isNameless hname] at hstart
    exact absurd hstart List.not_mem_nil

/-- **Operands of bound nodes are bound**, with two exceptions: a nest of parentheses with nothing
inside, and the target of a property without a name, which is bound only if a node that coincides with it
has a record.

**Proof sketch.** What is known of the node is known of one that coincides with it and that binding
comes to. Where the name is there, binding goes on from that one to each operand, and the operands of the
two nodes coincide too. Where it is missing, it goes on to nothing, so that nothing below the node is
reached. -/
theorem operand_bound_iff {operand : Piece} {inner : NodeInfo}
    (hnode : node ∈ analysis.tree.root.nodes) (hinfo : node.info? = some info)
    (hbound : ((analysis.model next).1.boundNode? (analysis.tree.ref info)).isSome = true)
    (hoperand : operand ∈ node.piece.operands) (hinner : operand.info? = some inner) :
    ((analysis.model next).1.boundNode? (analysis.tree.ref inner)).isSome = true ↔
      operand.isEmptyNest = false ∧ (node.piece.isNameless = false ∨
        ∃ core, operand.core.info? = some core ∧ ∃ record ∈ (analysis.model next).1.result.records,
          record.info.index ≠ core.index ∧ analysis.tree.Same core.index record.info.index) := by
  obtain ⟨child, hchild, part, hpart, rfl⟩ := Located.exists_node_of_mem_operands hoperand hinner
  have hpart' := Located.mem_nodes_trans (Located.mem_nodes_of_child hchild hpart) hnode
  have hpartInfo := part.info?_piece.symm.trans hinner
  have hcoreInfo := Located.info?_core hpartInfo
  obtain ⟨core, hbelow, hpiece, hcore⟩ := exists_core hpart' hpartInfo
  rw [boundNode?_ref hpart' hpartInfo]
  constructor
  · intro hfound
    obtain ⟨hroot, other, node', hsame, hnode', hreached, hrecorded⟩ := isSome_result_iff.1 hfound
    have hnest := hrecorded
    rw [hsame.isRecorded_eq hcore hnode', hpiece,
      Piece.isRecorded_core (Piece.isBindable_of_mem_operands hoperand)] at hnest
    refine ⟨by simpa using hnest, ?_⟩
    cases hname : node.piece.isNameless with
    | false => exact .inl rfl
    | true =>
      obtain ⟨record, hrecord, rfl⟩ := exists_record_iff.2 ⟨hroot, node', hnode', hreached, hrecorded⟩
      refine .inr ⟨_, hcoreInfo, record, hrecord, fun heq => ?_, hsame⟩
      cases hcore.symm.trans (heq ▸ hnode')
      exact not_reached_operand hnode hname hchild hpart hbelow hreached
  · rintro ⟨hnest, hname | ⟨_, hcoreInfo', record, hrecord, -, hsame⟩⟩
    · rcases node.piece.core_eq_or with hself | hall
      · obtain ⟨hroot, other, node', hsame, hnode', hreached, hrecorded⟩ :=
          (isSome_boundNode?_iff hnode hinfo).1 hbound
        have hown : node.coreInfo info = info := by
          have hread := Located.info?_core hinfo
          rw [hself, node.info?_piece, hinfo] at hread
          exact (Option.some.inj hread).symm
        have hself? : analysis.tree.node? info.index = some node :=
          SyntaxTree.node?_eq_some_iff.2 ⟨hnode, by rw [Located.index?, hinfo, Option.map_some]⟩
        exact isSome_result_operand hroot hself? (hown ▸ hsame) hnode' hreached hrecorded hname hoperand
          hcoreInfo hnest
      · -- the operand stands inside the parentheses that the node is
        have hsame : part.coreInfo inner = node.coreInfo info := by
          have hread := congrArg Piece.info? (hall _ hoperand)
          rw [hcoreInfo, Located.info?_core hinfo] at hread
          exact Option.some.inj hread
        rw [hsame, ← boundNode?_ref hnode hinfo]
        exact hbound
    · cases hcoreInfo.symm.trans hcoreInfo'
      exact (BindingResult.isSome_boundNode?_iff analysis.tree.coincidences_bind).2 ⟨record, hrecord, hsame⟩

/-- The analysis of a member of the number one whose name is still missing. -/
def namelessMember (kind : Kind) : Analysis :=
  ⟨⟨0, .node .compilationUnit
    [.node kind [.node .literalExpression [.token .numericLiteral "1"], .token .dot "."]]⟩,
    (Catalog.empty 0).1, {}⟩

/-- The node of a member whose name is missing, with the number that it is a member of. -/
def namelessNode (kind : Kind) : Located :=
  .node ⟨kind, 1, 0, 2, some 0⟩
    [.node ⟨.literalExpression, 2, 0, 1, some 0⟩ [.token ⟨.numericLiteral, "1", 0⟩],
      .token ⟨.dot, ".", 1⟩]

/-- The target of a method without a name is bound. -/
theorem methodTarget_bound :
    let model := ((namelessMember .methodInvocationExpression).model 0).1
    (model.boundNode? ⟨0, 1⟩).isSome = true ∧ (model.boundNode? ⟨0, 2⟩).isSome = true := by
  have hnode : namelessNode .methodInvocationExpression ∈
      (namelessMember .methodInvocationExpression).tree.root.nodes :=
    .tail _ (.head _)
  have hbound : (((namelessMember .methodInvocationExpression).model 0).1.boundNode?
      ⟨0, 1⟩).isSome = true := by decide
  have hoperand : Piece.expr (.literal ⟨.literalExpression, 2, 0, 1, some 0⟩
      (some ⟨.numericLiteral, "1", 0⟩)) ∈
        (namelessNode .methodInvocationExpression).piece.operands := .head _
  exact ⟨hbound, (operand_bound_iff hnode rfl hbound hoperand rfl).2 ⟨rfl, .inl rfl⟩⟩

/-- **The target of a property without a name stays unbound**: not every operand of a bound node is
bound. -/
theorem propertyTarget_unbound : ¬ ∀ (analysis : Analysis) (next : SymbolId) (node : Located)
    (info : NodeInfo) (operand : Piece) (inner : NodeInfo), node ∈ analysis.tree.root.nodes →
      node.info? = some info →
        ((analysis.model next).1.boundNode? (analysis.tree.ref info)).isSome = true →
          operand ∈ node.piece.operands → operand.info? = some inner →
            operand.isEmptyNest = false →
              ((analysis.model next).1.boundNode? (analysis.tree.ref inner)).isSome = true := by
  intro h
  have hnode : namelessNode .propertyAccessExpression ∈
      (namelessMember .propertyAccessExpression).tree.root.nodes :=
    .tail _ (.head _)
  have hbound : (((namelessMember .propertyAccessExpression).model 0).1.boundNode?
      ⟨0, 1⟩).isSome = true := by decide
  have hunbound : (((namelessMember .propertyAccessExpression).model 0).1.boundNode?
      ⟨0, 2⟩).isSome = false := by decide
  have hoperand : Piece.expr (.literal ⟨.literalExpression, 2, 0, 1, some 0⟩
      (some ⟨.numericLiteral, "1", 0⟩)) ∈
        (namelessNode .propertyAccessExpression).piece.operands := .head _
  have htarget := h (namelessMember .propertyAccessExpression) 0 _ _ _ _ hnode rfl hbound hoperand
    rfl rfl
  exact absurd htarget (hunbound ▸ Bool.false_ne_true)

end SemanticModel

end QuerySemantics
