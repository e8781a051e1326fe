import QuerySemantics.Proofs.Tree.Placement
import QuerySemantics.Proofs.Tree.Shift

/-!
# Nodes that coincide

What is known of a node is kept under its offset and what it consists of. Two nodes of a tree are one and
the same there if they have no text, begin at one offset and consist of the same. A node with text is
never taken for another one, and neither is the root.

## Main definitions

* `SyntaxTree.Same`: numbers of nodes that are one and the same.
* `SyntaxTree.Distinct`: trees in which no two nodes coincide.

## Main results

* `Element.eq_locate_of_mem_nodes`: each node of a located tree is a located element.
* `SyntaxTree.mem_coincidences`: the coincidences of a tree.
* `SyntaxTree.Same.eq_locate`: the same nodes are one element at one offset.
* `SyntaxTree.Same.below`: corresponding parts of nodes that coincide coincide.
* `SyntaxTree.Same.eq_of_text`, `SyntaxTree.Same.eq_zero`: nodes with text and the root are the same as
  themselves only.
-/

set_option autoImplicit false

namespace QuerySemantics

/-! ## Nodes as located elements -/

namespace Element

mutual

/-- A located element consists of the element. -/
theorem element_locate : ∀ (element : Element) (index start : Nat),
    (element.locate index start).1.element = element
  | .token _ _, _, _ => rfl
  | .node kind children, index, start =>
    congrArg (Element.node kind) (elementsOf_locateAll children (index + 1) start)

/-- Located elements consist of the elements. -/
theorem elementsOf_locateAll : ∀ (elements : List Element) (index start : Nat),
    Located.elementsOf (locateAll elements index start).1 = elements
  | [], _, _ => rfl
  | element :: rest, index, start => by
    rw [locateAll_cons, Located.elementsOf, element_locate element, elementsOf_locateAll rest]

end

mutual

/-- **Each node of a located tree** is a located part of the element. -/
theorem exists_locate_of_mem_nodes {node : Located} : ∀ {element : Element} {index start : Nat},
    node ∈ (element.locate index start).1.nodes → ∃ (inner : Element) (first offset : Nat),
      node = (inner.locate first offset).1 ∧ sizeOf inner ≤ sizeOf element
  | .token _ _, _, _, h => absurd h List.not_mem_nil
  | .node kind children, index, start, h => by
    rcases List.mem_cons.1 h with rfl | h
    · exact ⟨.node kind children, index, start, rfl, Nat.le_refl _⟩
    · obtain ⟨inner, first, offset, hnode, hsize⟩ := exists_locate_of_mem_nodesOf h
      exact ⟨inner, first, offset, hnode, by rw [Element.node.sizeOf_spec]; omega⟩

/-- Each node of located trees is a located part of the elements. -/
theorem exists_locate_of_mem_nodesOf {node : Located} : ∀ {elements : List Element} {index start : Nat},
    node ∈ Located.nodesOf (locateAll elements index start).1 → ∃ (inner : Element) (first offset : Nat),
      node = (inner.locate first offset).1 ∧ sizeOf inner ≤ sizeOf elements
  | [], _, _, h => absurd h List.not_mem_nil
  | element :: rest, index, start, h => by
    rw [locateAll_cons] at h
    rw [List.cons.sizeOf_spec]
    rcases List.mem_append.1 h with h | h
    · obtain ⟨inner, first, offset, hnode, hsize⟩ := exists_locate_of_mem_nodes h
      exact ⟨inner, first, offset, hnode, by omega⟩
    · obtain ⟨inner, first, offset, hnode, hsize⟩ := exists_locate_of_mem_nodesOf h
      exact ⟨inner, first, offset, hnode, by omega⟩

end

/-- Each node of a located tree is what it consists of, located where it begins. -/
theorem eq_locate_of_mem_nodes {element : Element} {index start number : Nat} {node : Located}
    (h : node ∈ (element.locate index start).1.nodes) (hnumber : node.index? = some number) :
    node = (node.element.locate number node.start).1 := by
  obtain ⟨inner, first, offset, rfl, -⟩ := exists_locate_of_mem_nodes h
  have hplaced := inner.placed_locate first offset
  rw [element_locate, hplaced.le.2.1]
  cases inner with
  | token kind text => cases hnumber
  | node kind children =>
    obtain rfl : first = number := Option.some.inj hnumber
    rfl

/-- **A proper part of an element** is not the element. -/
theorem element_ne_of_mem_nodesOf {kind : Kind} {children : List Element} {index start : Nat}
    {node : Located} (h : node ∈ Located.nodesOf (locateAll children index start).1) :
    node.element ≠ .node kind children := by
  intro heq
  obtain ⟨inner, first, offset, rfl, hsize⟩ := exists_locate_of_mem_nodesOf h
  rw [element_locate] at heq
  rw [heq, Element.node.sizeOf_spec] at hsize
  omega

end Element

namespace SyntaxTree

variable {tree : SyntaxTree} {index other third : Nat} {node node' : Located}

/-- **A node with a number** is what it consists of, located where it begins. -/
theorem eq_locate (h : tree.node? index = some node) :
    node = (node.element.locate index node.start).1 := by
  obtain ⟨hmem, hnumber⟩ := node?_eq_some_iff.1 h
  exact Element.eq_locate_of_mem_nodes hmem hnumber

/-- A node with a number is what it consists of, moved to its number and its offset. -/
theorem eq_shift (h : tree.node? index = some node) :
    node = (node.element.locate 0 0).1.shift index node.start := by
  have hmoved := congrArg Prod.fst (node.element.locate_shift index node.start 0 0)
  rw [Nat.zero_add, Nat.zero_add] at hmoved
  exact (eq_locate h).trans hmoved

/-- A node ends behind its text. -/
theorem stop_node (h : tree.node? index = some node) : node.stop = node.start + node.element.length := by
  exact (congrArg Located.stop (eq_locate h)).trans (node.element.stop_locate _ _)

/-! ## Coincidences -/

/-- **The coincidences of a tree**: numbers of different nodes without text that begin at one offset and
consist of the same. -/
theorem mem_coincidences : (index, other) ∈ tree.coincidences ↔ index ≠ other ∧ ∃ node node',
    tree.node? index = some node ∧ tree.node? other = some node' ∧ node.element.length = 0 ∧
      node'.start = node.start ∧ node'.element = node.element := by
  have hentry : ∀ {entry : Located × Nat}, entry ∈ tree.root.nodes.zipIdx ↔
      tree.node? entry.2 = some entry.1 := List.mem_zipIdx_iff_getElem?
  simp only [coincidences, List.mem_flatMap, List.mem_map, List.mem_filter, hentry, Located.coincides,
    Bool.and_eq_true, beq_iff_eq, bne_iff_ne, decide_eq_true_eq, Prod.exists, Prod.mk.injEq]
  constructor
  · rintro ⟨node, _, ⟨hnode, hempty⟩, node', _, ⟨⟨hnode', -⟩, hne, ⟨-, hstart⟩, helement⟩, rfl, rfl⟩
    rw [stop_node hnode] at hempty
    exact ⟨hne, node, node', hnode, hnode', by omega, hstart.symm, helement.symm⟩
  · rintro ⟨hne, node, node', hnode, hnode', hempty, hstart, helement⟩
    have hstop := stop_node hnode
    have hstop' := stop_node hnode'
    rw [helement] at hstop'
    exact ⟨node, index, ⟨hnode, by omega⟩, node', other, ⟨⟨hnode', by omega⟩, hne, ⟨⟨by omega, by omega⟩,
      hstart.symm⟩, helement.symm⟩, rfl, rfl⟩

/-- **The same node**: two numbers of one node, or of nodes that coincide. -/
def Same (tree : SyntaxTree) (index other : Nat) : Prop :=
  index = other ∨ (index, other) ∈ tree.coincidences

/-- Kind, element and place are compared. -/
instance : Decidable (tree.Same index other) :=
  inferInstanceAs (Decidable (_ ∨ _))

/-- **Distinct** nodes: no two nodes without text begin at one offset and consist of the same. -/
def Distinct (tree : SyntaxTree) : Prop :=
  tree.coincidences = []

/-- The nodes of the tree are compared with each other. -/
instance : Decidable tree.Distinct :=
  inferInstanceAs (Decidable (_ = _))

/-- Distinct nodes are the same as themselves only. -/
theorem Distinct.same_iff (h : tree.Distinct) : tree.Same index other ↔ index = other := by
  rw [Same, show tree.coincidences = [] from h]
  exact or_iff_left List.not_mem_nil

namespace Same

/-- Being the same holds the other way round. -/
theorem symm (h : tree.Same index other) : tree.Same other index := by
  refine h.imp Eq.symm fun h => ?_
  obtain ⟨hne, node, node', hnode, hnode', hempty, hstart, helement⟩ := mem_coincidences.1 h
  exact mem_coincidences.2 ⟨hne.symm, node', node, hnode', hnode, helement ▸ hempty, hstart.symm,
    helement.symm⟩

/-- What is the same as a same node is the same. -/
theorem trans (h : tree.Same index other) (h' : tree.Same other third) : tree.Same index third := by
  rcases h with rfl | h
  · exact h'
  rcases h' with rfl | h'
  · exact .inr h
  obtain ⟨-, node, node', hnode, hnode', hempty, hstart, helement⟩ := mem_coincidences.1 h
  obtain ⟨-, _, last, hmiddle, hlast, -, hstart', helement'⟩ := mem_coincidences.1 h'
  cases hnode'.symm.trans hmiddle
  by_cases heq : index = third
  · exact .inl heq
  · exact .inr (mem_coincidences.2 ⟨heq, node, last, hnode, hlast, hempty, hstart'.trans hstart,
      helement'.trans helement⟩)

/-- **The same nodes are one element** at one offset. -/
theorem eq_locate (h : tree.Same index other) (hnode : tree.node? index = some node) :
    tree.node? other = some (node.element.locate other node.start).1 := by
  rcases h with rfl | h
  · rw [← SyntaxTree.eq_locate hnode, hnode]
  · obtain ⟨-, _, node', hfound, hnode', -, hstart, helement⟩ := mem_coincidences.1 h
    cases hnode.symm.trans hfound
    rw [hnode', SyntaxTree.eq_locate hnode', helement, hstart]

/-- The same nodes consist of the same. -/
theorem element_eq (h : tree.Same index other) (hnode : tree.node? index = some node)
    (hnode' : tree.node? other = some node') : node'.element = node.element := by
  have hlocated := Option.some.inj (hnode'.symm.trans (h.eq_locate hnode))
  rw [congrArg Located.element hlocated, Element.element_locate]

/-- The same nodes begin at one offset. -/
theorem start_eq (h : tree.Same index other) (hnode : tree.node? index = some node)
    (hnode' : tree.node? other = some node') : node'.start = node.start := by
  have hlocated := Option.some.inj (hnode'.symm.trans (h.eq_locate hnode))
  exact (congrArg Located.start hlocated).trans (node.element.placed_locate _ _).le.2.1

/-- **A node with text** is the same as itself only. -/
theorem eq_of_text (h : tree.Same index other) (hnode : tree.node? index = some node)
    (htext : node.start < node.stop) : index = other := by
  refine h.resolve_right fun h => ?_
  obtain ⟨-, _, _, hfound, -, hempty, -⟩ := mem_coincidences.1 h
  cases hnode.symm.trans hfound
  rw [stop_node hnode] at htext
  omega

/-- **Nodes that are moved** coincide where they did before. -/
theorem shift_iff {inner outer : SyntaxTree} {count offset : Nat}
    (hmoved : outer.node? (index + count) = (inner.node? index).map (Located.shift count offset))
    (hmoved' : outer.node? (other + count) = (inner.node? other).map (Located.shift count offset)) :
    outer.Same (index + count) (other + count) ↔ inner.Same index other := by
  unfold Same
  rw [Nat.add_right_cancel_iff, mem_coincidences, mem_coincidences, hmoved, hmoved']
  refine or_congr_right (and_congr (by omega) ⟨?_, ?_⟩)
  · rintro ⟨_, _, hmoved, hmoved', hempty, hstart, helement⟩
    obtain ⟨node, hnode, rfl⟩ := Option.map_eq_some_iff.1 hmoved
    obtain ⟨node', hnode', rfl⟩ := Option.map_eq_some_iff.1 hmoved'
    simp only [Located.element_shift, Located.start_shift] at hempty hstart helement
    exact ⟨node, node', hnode, hnode', hempty, Nat.add_right_cancel hstart, helement⟩
  · rintro ⟨node, node', hnode, hnode', hempty, hstart, helement⟩
    refine ⟨_, _, congrArg _ hnode, congrArg _ hnode', ?_, ?_, ?_⟩
    · rw [Located.element_shift, hempty]
    · rw [Located.start_shift, Located.start_shift, hstart]
    · rw [Located.element_shift, Located.element_shift, helement]

/-- **Parts of nodes that coincide** coincide: what the two nodes consist of has a part with a number, and
both have it behind their own numbers. -/
theorem below (h : tree.Same index other) (hnode : tree.node? index = some node) {part : Located}
    {info : NodeInfo} (hpart : part ∈ (node.element.locate 0 0).1.nodes) (hinfo : part.info? = some info) :
    tree.Same (info.index + index) (info.index + other) := by
  rcases h with rfl | h
  · exact .inl rfl
  obtain ⟨hne, _, node', hfound, hnode', hempty, hstart, helement⟩ := mem_coincidences.1 h
  cases hnode.symm.trans hfound
  -- the part moved to either node is a node of the tree
  have hmoved : ∀ {number : Nat} {outer : Located}, tree.node? number = some outer →
      outer.element = node.element →
        tree.node? (info.index + number) = some (part.shift number outer.start) := by
    intro number outer houter hsame
    have hmem := (node?_eq_some_iff.1 houter).1
    have hinner : part.shift number outer.start ∈ outer.nodes := by
      rw [congrArg Located.nodes (eq_shift houter), Located.nodes_shift, hsame]
      exact List.mem_map_of_mem hpart
    refine node?_eq_some_iff.2 ⟨Located.mem_nodes_trans hinner hmem, ?_⟩
    rw [Located.index?, Located.info?_shift, hinfo]
    rfl
  have htext : part.element.length = 0 := by
    obtain ⟨_, _, -, -, -, hfirst, hlast⟩ := (node.element.placed_locate 0 0).placed_of_mem hpart
    obtain ⟨inner, number, offset, rfl, -⟩ := Element.exists_locate_of_mem_nodes hpart
    rw [Element.stop_locate, node.element.stop_locate] at hlast
    rw [Element.element_locate]
    omega
  refine .inr (mem_coincidences.2 ⟨by omega, _, _, hmoved hnode rfl, hmoved hnode' helement, ?_, ?_, ?_⟩)
  · rw [Located.element_shift, htext]
  · rw [Located.start_shift, Located.start_shift, hstart]
  · rw [Located.element_shift, Located.element_shift]

/-- **The root** is the same as itself only: a part of an element is not the element. -/
theorem eq_zero (h : tree.Same 0 index) : index = 0 := by
  rcases h with h | h
  · exact h.symm
  obtain ⟨hne, root, node, hroot, hnode, -, -, helement⟩ := mem_coincidences.1 h
  obtain ⟨hmem, hnumber⟩ := node?_eq_some_iff.1 hnode
  have hfirst : tree.root.nodes[0]? = some root := hroot
  cases htree : tree.element with
  | token kind text =>
    rw [SyntaxTree.root, htree] at hmem
    cases hmem
  | node kind children =>
    rw [SyntaxTree.root, htree] at hmem hfirst
    cases hfirst
    rcases List.mem_cons.1 hmem with rfl | hmem
    · exact absurd (Option.some.inj hnumber) hne
    · have hself := (Element.node kind children).element_locate 0 0
      exact absurd (helement.trans hself) (Element.element_ne_of_mem_nodesOf hmem)

end Same

end SyntaxTree

end QuerySemantics
