import QuerySemantics.Tree.Basic

/-!
# Numbers and ranges of located trees

Locating a tree numbers its nodes in preorder and lays its elements one behind the other. So the
nodes below a node have the numbers of one interval, its children share this interval out among
them, and their ranges of text tile its own.

## Main definitions

* `Located.Placed`, `Located.PlacedAll`: the numbers and offsets that locating gives.

## Main results

* `SyntaxTree.placed_root`: the located form of a tree is placed from zero on.
* `SyntaxTree.node?_eq_some_iff`: the node with a number is the only node that carries it.
* `Located.PlacedAll.eq_of_index`: two children never share the number of a node.
* `Located.PlacedAll.innermostOf_eq`: the walk to a position goes into the child that covers it.
-/

set_option autoImplicit false

namespace QuerySemantics

namespace Located

/-! ## Induction over trees -/

mutual

/-- **Induction over a located tree**: a property that passes from the children to the node. -/
theorem induction {motive : Located → Prop} (token : ∀ leaf, motive (.token leaf))
    (node : ∀ info children, (∀ part ∈ children, motive part) → motive (.node info children)) :
    ∀ part, motive part
  | .token leaf => token leaf
  | .node info children => node info children (inductionAll token node children)

/-- A property that passes from the children to the node holds of every tree of a list. -/
theorem inductionAll {motive : Located → Prop} (token : ∀ leaf, motive (.token leaf))
    (node : ∀ info children, (∀ part ∈ children, motive part) → motive (.node info children)) :
    ∀ parts : List Located, ∀ part ∈ parts, motive part
  | [], _, h => absurd h (List.not_mem_nil)
  | first :: rest, part, h => by
    rcases List.mem_cons.1 h with h | h
    · rw [h]
      exact induction token node first
    · exact inductionAll token node rest part h

end

/-! ## Placement -/

mutual

/-- **Placement** of a tree whose first node has the number `index` and which begins at `offset`;
`next` is the number behind its nodes. -/
def Placed : Located → (index offset next : Nat) → Prop
  | .token leaf, index, offset, next => leaf.start = offset ∧ next = index
  | .node info children, index, offset, next =>
    info.index = index ∧ info.start = offset ∧
      PlacedAll children (index + 1) offset next info.stop

/-- Placement of trees that follow each other, up to the offset `stop`. -/
def PlacedAll : List Located → (index offset next stop : Nat) → Prop
  | [], index, offset, next, stop => next = index ∧ stop = offset
  | part :: rest, index, offset, next, stop =>
    ∃ middle, Placed part index offset middle ∧ PlacedAll rest middle part.stop next stop

end

/-- Elements end where those behind the first one end. -/
theorem stopOf_cons (offset : Nat) (part : Located) (rest : List Located) :
    stopOf offset (part :: rest) = stopOf part.stop rest := by
  cases rest with
  | nil => rfl
  | cons next rest => simp [stopOf, List.getLast?_cons]

end Located

namespace Element

mutual

/-- **Locating places**: an element is placed from the number and offset that it is given. -/
theorem placed_locate : ∀ (element : Element) (index offset : Nat),
    (element.locate index offset).1.Placed index offset (element.locate index offset).2
  | .token _ _, _, _ => ⟨rfl, rfl⟩
  | .node _ children, index, offset =>
    ⟨rfl, rfl, placedAll_locateAll children (index + 1) offset⟩

/-- Elements that follow each other are placed from the number and offset that they are given. -/
theorem placedAll_locateAll : ∀ (elements : List Element) (index offset : Nat),
    Located.PlacedAll (locateAll elements index offset).1 index offset
      (locateAll elements index offset).2
      (Located.stopOf offset (locateAll elements index offset).1)
  | [], _, _ => ⟨rfl, rfl⟩
  | element :: rest, index, offset => by
    refine ⟨_, placed_locate element index offset, ?_⟩
    rw [locateAll, Located.stopOf_cons]
    exact placedAll_locateAll rest _ _

end

mutual

/-- **Where an element ends**: as many bytes behind its offset as its text takes. -/
theorem stop_locate : ∀ (element : Element) (index offset : Nat),
    (element.locate index offset).1.stop = offset + element.length
  | .token _ _, _, _ => rfl
  | .node _ children, index, offset => stopOf_locateAll children (index + 1) offset

/-- Elements end as many bytes behind their offset as their text takes. -/
theorem stopOf_locateAll : ∀ (elements : List Element) (index offset : Nat),
    Located.stopOf offset (locateAll elements index offset).1 = offset + lengthOf elements
  | [], _, _ => rfl
  | element :: rest, index, offset => by
    rw [locateAll, Located.stopOf_cons, stop_locate element, stopOf_locateAll rest, lengthOf,
      Nat.add_assoc]

end

/-- Elements are located one behind the other. -/
theorem locateAll_cons (element : Element) (rest : List Element) (index offset : Nat) :
    locateAll (element :: rest) index offset =
      let first := element.locate index offset
      let behind := locateAll rest first.2 (offset + element.length)
      (first.1 :: behind.1, behind.2) := by
  rw [← stop_locate element index]
  rfl

end Element

/-- **Placed root**: the numbers and offsets of a tree begin at zero. -/
theorem SyntaxTree.placed_root (tree : SyntaxTree) :
    tree.root.Placed 0 0 (tree.element.locate 0 0).2 :=
  tree.element.placed_locate 0 0

namespace Located

/-! ## Bounds -/

mutual

/-- Numbers and offsets only go up. -/
theorem Placed.le : ∀ {part : Located} {index offset next : Nat},
    part.Placed index offset next → index ≤ next ∧ part.start = offset ∧ offset ≤ part.stop
  | .token leaf, index, offset, next, h => by
    obtain ⟨rfl, rfl⟩ := h
    exact ⟨Nat.le_refl _, rfl, Nat.le_add_right _ _⟩
  | .node info children, index, offset, next, h => by
    obtain ⟨rfl, rfl, h⟩ := h
    have := h.le
    exact ⟨by omega, rfl, this.2⟩

/-- Numbers and offsets only go up along elements that follow each other. -/
theorem PlacedAll.le : ∀ {parts : List Located} {index offset next stop : Nat},
    PlacedAll parts index offset next stop → index ≤ next ∧ offset ≤ stop
  | [], index, offset, next, stop, h => by
    obtain ⟨rfl, rfl⟩ := h
    exact ⟨Nat.le_refl _, Nat.le_refl _⟩
  | part :: rest, index, offset, next, stop, h => by
    obtain ⟨middle, hpart, hrest⟩ := h
    have h₁ := hpart.le
    have h₂ := hrest.le
    exact ⟨by omega, by omega⟩

end

/-- **A child is placed** within its siblings. -/
theorem PlacedAll.placed_of_mem {part : Located} : ∀ {parts : List Located}
    {index offset next stop : Nat}, PlacedAll parts index offset next stop → part ∈ parts →
      ∃ first last, part.Placed first part.start last ∧ index ≤ first ∧ last ≤ next ∧
        offset ≤ part.start ∧ part.stop ≤ stop
  | [], _, _, _, _, _, hmem => absurd hmem List.not_mem_nil
  | head :: rest, index, offset, next, stop, h, hmem => by
    obtain ⟨middle, hhead, hrest⟩ := h
    have h₁ := hhead.le
    have h₂ := hrest.le
    rcases List.mem_cons.1 hmem with rfl | hmem
    · refine ⟨index, middle, ?_, by omega, by omega, by omega, by omega⟩
      rw [h₁.2.1]
      exact hhead
    · obtain ⟨first, last, hpart, h₃, h₄, h₅, h₆⟩ := hrest.placed_of_mem hmem
      exact ⟨first, last, hpart, by omega, h₄, by omega, h₆⟩

/-! ## Nodes and their numbers -/

/-- The nodes of several trees are the nodes of one of them. -/
theorem mem_nodesOf {node : Located} {parts : List Located} :
    node ∈ nodesOf parts ↔ ∃ part ∈ parts, node ∈ part.nodes := by
  induction parts with
  | nil => simp [nodesOf]
  | cons part rest ih => simp [nodesOf, ih]

/-- A node is among its own nodes. -/
theorem mem_nodes_self {part : Located} {info : NodeInfo} (h : part.info? = some info) :
    part ∈ part.nodes := by
  cases part with
  | token leaf => simp [info?] at h
  | node own children => simp [nodes]

/-- The nodes below a child are below the node. -/
theorem mem_nodes_of_child {node part child : Located} (hchild : child ∈ part.children)
    (h : node ∈ child.nodes) : node ∈ part.nodes := by
  cases part with
  | token leaf => simp [children] at hchild
  | node info children =>
    rw [nodes, List.mem_cons, mem_nodesOf]
    exact .inr ⟨child, hchild, h⟩

/-- What is below a node below a tree is below the tree. -/
theorem mem_nodes_trans {inner outer part : Located} (h₁ : inner ∈ outer.nodes)
    (h₂ : outer ∈ part.nodes) : inner ∈ part.nodes := by
  induction part using Located.induction with
  | token leaf => simp [nodes] at h₂
  | node info children ih =>
    rw [nodes, List.mem_cons, mem_nodesOf] at h₂
    rcases h₂ with rfl | ⟨child, hchild, h₂⟩
    · exact h₁
    · have hbelow : inner ∈ child.nodes := ih child hchild h₂
      exact mem_nodes_of_child (show child ∈ (Located.node info children).children from hchild)
        hbelow

/-- Every node has its information. -/
theorem exists_info_of_mem_nodes {node part : Located} (h : node ∈ part.nodes) :
    ∃ info children, node = .node info children := by
  induction part using Located.induction with
  | token leaf => simp [nodes] at h
  | node info children ih =>
    rw [nodes, List.mem_cons, mem_nodesOf] at h
    rcases h with rfl | ⟨child, hchild, h⟩
    · exact ⟨info, children, rfl⟩
    · exact ih child hchild h

/-- The number of a node. -/
def index? (part : Located) : Option Nat :=
  part.info?.map NodeInfo.index

mutual

/-- **Numbering**: the nodes of a placed tree have the numbers of one interval, in order. -/
theorem Placed.index_nodes : ∀ {part : Located} {index offset next : Nat},
    part.Placed index offset next →
      part.nodes.map index? = (List.range' index (next - index)).map some
  | .token leaf, index, offset, next, h => by
    obtain ⟨-, rfl⟩ := h
    simp [nodes]
  | .node info children, index, offset, next, h => by
    obtain ⟨rfl, -, h⟩ := h
    have hle := h.le.1
    have : next - info.index = (next - (info.index + 1)) + 1 := by omega
    rw [nodes, List.map_cons, h.index_nodesOf, this, List.range'_succ]
    rfl

/-- The nodes of placed trees have the numbers of one interval, in order. -/
theorem PlacedAll.index_nodesOf : ∀ {parts : List Located} {index offset next stop : Nat},
    PlacedAll parts index offset next stop →
      (nodesOf parts).map index? = (List.range' index (next - index)).map some
  | [], index, offset, next, stop, h => by
    obtain ⟨rfl, -⟩ := h
    simp [nodesOf]
  | part :: rest, index, offset, next, stop, h => by
    obtain ⟨middle, hpart, hrest⟩ := h
    have h₁ := hpart.le.1
    have h₂ := hrest.le.1
    have : next - index = (middle - index) + (next - middle) := by omega
    rw [nodesOf, List.map_append, hpart.index_nodes, hrest.index_nodesOf, this,
      ← List.range'_append_1, List.map_append]
    congr 4
    omega

end

/-- The node at a place of the preorder has the number of that place. -/
theorem Placed.index_getElem? {part node : Located} {index offset next place : Nat}
    (h : part.Placed index offset next) (hnode : part.nodes[place]? = some node) :
    node.index? = some (index + place) ∧ index + place < next := by
  have hmap : (part.nodes.map index?)[place]? = some node.index? := by
    rw [List.getElem?_map, hnode, Option.map_some]
  rw [h.index_nodes, List.getElem?_map] at hmap
  by_cases hlt : place < next - index
  · rw [List.getElem?_range' hlt] at hmap
    simp only [Option.map_some, Option.some.injEq, Nat.one_mul] at hmap
    exact ⟨hmap.symm, by omega⟩
  · rw [List.getElem?_eq_none (by simpa using Nat.le_of_not_lt hlt)] at hmap
    cases hmap

/-- The numbers below a placed tree lie in its interval. -/
theorem Placed.index_bounds {part node : Located} {index offset next number : Nat}
    (h : part.Placed index offset next) (hnode : node ∈ part.nodes)
    (hnumber : node.index? = some number) : index ≤ number ∧ number < next := by
  obtain ⟨place, hplace⟩ := List.mem_iff_getElem?.1 hnode
  obtain ⟨hindex, hlt⟩ := h.index_getElem? hplace
  rw [hnumber, Option.some.injEq] at hindex
  omega

/-- **Unique numbers**: two nodes of a placed tree with one number are the same node. -/
theorem Placed.eq_of_index {part node other : Located} {index offset next number : Nat}
    (h : part.Placed index offset next) (hnode : node ∈ part.nodes) (hother : other ∈ part.nodes)
    (h₁ : node.index? = some number) (h₂ : other.index? = some number) : node = other := by
  obtain ⟨place, hplace⟩ := List.mem_iff_getElem?.1 hnode
  obtain ⟨place', hplace'⟩ := List.mem_iff_getElem?.1 hother
  have hindex := (h.index_getElem? hplace).1
  have hindex' := (h.index_getElem? hplace').1
  rw [h₁, Option.some.injEq] at hindex
  rw [h₂, Option.some.injEq] at hindex'
  have : place = place' := by omega
  subst this
  exact Option.some.inj (hplace.symm.trans hplace')

/-- **Children apart**: two children never share the number of a node. -/
theorem PlacedAll.eq_of_index {part other node node' : Located} {number : Nat} :
    ∀ {parts : List Located} {index offset next stop : Nat},
      PlacedAll parts index offset next stop → part ∈ parts → other ∈ parts →
        node ∈ part.nodes → node' ∈ other.nodes →
          node.index? = some number → node'.index? = some number → part = other
  | [], _, _, _, _, _, hpart, _, _, _, _, _ => absurd hpart List.not_mem_nil
  | head :: rest, index, offset, next, stop, h, hpart, hother, hnode, hnode', h₁, h₂ => by
    obtain ⟨middle, hhead, hrest⟩ := h
    -- a number below `middle` belongs to the head, and one from `middle` on to the rest
    have hbehind : ∀ {it it' : Located}, it ∈ rest → it' ∈ it.nodes →
        it'.index? = some number → middle ≤ number := by
      intro it it' hit hit' hnumber
      obtain ⟨first, last, hplaced, hfirst, -⟩ := hrest.placed_of_mem hit
      exact Nat.le_trans hfirst (hplaced.index_bounds hit' hnumber).1
    rcases List.mem_cons.1 hpart with heq | hpart
    · rcases List.mem_cons.1 hother with heq' | hother
      · rw [heq, heq']
      · have := hhead.index_bounds (heq ▸ hnode) h₁
        have := hbehind hother hnode' h₂
        omega
    · rcases List.mem_cons.1 hother with heq' | hother
      · have := hhead.index_bounds (heq' ▸ hnode') h₂
        have := hbehind hpart hnode h₁
        omega
      · exact hrest.eq_of_index hpart hother hnode hnode' h₁ h₂

/-- The nodes below a child have other numbers than the node. -/
theorem Placed.index_ne {info own : NodeInfo} {children : List Located} {child inner : Located}
    {index offset next : Nat} (h : (Located.node own children).Placed index offset next)
    (hchild : child ∈ children) (hinner : inner ∈ child.nodes) (hinfo : inner.info? = some info) :
    info.index ≠ own.index := by
  obtain ⟨hindex, -, h⟩ := h
  obtain ⟨_, _, hplaced, hfirst, -⟩ := h.placed_of_mem hchild
  have hnumber : inner.index? = some info.index := by rw [index?, hinfo, Option.map_some]
  have hbounds := hplaced.index_bounds hinner hnumber
  omega

/-- **A node below a placed tree is placed**, within the numbers and the text of the tree. -/
theorem Placed.placed_of_mem {part node : Located} {index offset next : Nat}
    (h : part.Placed index offset next) (hnode : node ∈ part.nodes) :
    ∃ first last, node.Placed first node.start last ∧ index ≤ first ∧ last ≤ next ∧
      offset ≤ node.start ∧ node.stop ≤ part.stop := by
  induction part using Located.induction generalizing index offset next with
  | token leaf => simp [nodes] at hnode
  | node info children ih =>
    rw [nodes, List.mem_cons, mem_nodesOf] at hnode
    rcases hnode with rfl | ⟨child, hchild, hnode⟩
    · obtain ⟨-, hstart, -⟩ := id h
      refine ⟨index, next, ?_, Nat.le_refl _, Nat.le_refl _, Nat.le_of_eq hstart.symm,
        Nat.le_refl _⟩
      rw [show (Located.node info children).start = offset from hstart]
      exact h
    · obtain ⟨rfl, rfl, h⟩ := h
      obtain ⟨first, last, hplaced, h₁, h₂, h₃, h₄⟩ := h.placed_of_mem hchild
      obtain ⟨first', last', hplaced', h₁', h₂', h₃', h₄'⟩ := ih child hchild hplaced hnode
      have : (Located.node info children).stop = info.stop := rfl
      exact ⟨first', last', hplaced', by omega, by omega, by omega, by omega⟩

end Located

/-- **Node of a number**: the node of a tree with a number is the only one that carries it. -/
theorem SyntaxTree.node?_eq_some_iff {tree : SyntaxTree} {index : Nat} {node : Located} :
    tree.node? index = some node ↔ node ∈ tree.root.nodes ∧ node.index? = some index := by
  constructor
  · intro h
    refine ⟨List.mem_of_getElem? h, ?_⟩
    simpa using (tree.placed_root.index_getElem? h).1
  · rintro ⟨hmem, hnumber⟩
    obtain ⟨place, hplace⟩ := List.mem_iff_getElem?.1 hmem
    have hindex := (tree.placed_root.index_getElem? hplace).1
    rw [hnumber, Option.some.injEq, Nat.zero_add] at hindex
    rw [SyntaxTree.node?, hindex]
    exact hplace

/-- The node with a number carries it. -/
theorem SyntaxTree.exists_info_of_node? {tree : SyntaxTree} {index : Nat} {part : Located}
    (h : tree.node? index = some part) :
    ∃ info, part ∈ tree.root.nodes ∧ part.info? = some info ∧ info.index = index := by
  obtain ⟨hpart, hindex⟩ := node?_eq_some_iff.1 h
  obtain ⟨info, hinfo, hindex⟩ := Option.map_eq_some_iff.1 hindex
  exact ⟨info, hpart, hinfo, hindex⟩

namespace Located

/-! ## The walk to a position -/

/-- **Where the walk goes**: into the child that covers the position. -/
theorem PlacedAll.innermostOf_eq {marked : NodeInfo → Bool} {position : Nat} {part : Located} :
    ∀ {parts : List Located} {index offset next stop : Nat},
      PlacedAll parts index offset next stop → part ∈ parts →
        part.start ≤ position → position < part.stop →
          innermostOf marked position parts offset = innermostAt marked position part part.start
  | [], _, _, _, _, _, hpart, _, _ => absurd hpart List.not_mem_nil
  | head :: rest, index, offset, next, stop, h, hpart, h₁, h₂ => by
    obtain ⟨middle, hhead, hrest⟩ := h
    have hle := hhead.le
    rw [innermostOf]
    rcases List.mem_cons.1 hpart with rfl | hpart
    · rw [if_pos (by omega), hle.2.1]
    · obtain ⟨_, _, _, _, _, hstart, _⟩ := hrest.placed_of_mem hpart
      rw [if_neg (by omega)]
      exact hrest.innermostOf_eq hpart h₁ h₂

mutual

/-- What the walk finds in a tree is a marked node of it. -/
theorem exists_of_innermostAt {marked : NodeInfo → Bool} {position : Nat} {info : NodeInfo} :
    ∀ {part : Located} {index offset next : Nat}, part.Placed index offset next →
      offset ≤ position → position < part.stop →
        innermostAt marked position part offset = some info →
          marked info ∧ info.start ≤ position ∧ position < info.stop ∧
            ∃ node ∈ part.nodes, node.info? = some info
  | .token leaf, index, offset, next, h, h₁, h₂, hfound => by simp [innermostAt] at hfound
  | .node own children, index, offset, next, h, h₁, h₂, hfound => by
    obtain ⟨-, hstart, h⟩ := h
    rw [innermostAt] at hfound
    split at hfound
    · rename_i inner hinner
      cases hfound
      obtain ⟨hmarked, hs, ht, node, hnode, hinfo⟩ := exists_of_innermostOf h hinner
      exact ⟨hmarked, hs, ht, node, by simp [nodes, hnode], hinfo⟩
    · split at hfound
      · rename_i hmarked
        cases hfound
        exact ⟨hmarked, by omega, h₂, .node info children, by simp [nodes], rfl⟩
      · cases hfound

/-- What the walk finds among trees is a marked node of one of them that covers the position. -/
theorem exists_of_innermostOf {marked : NodeInfo → Bool} {position : Nat} {info : NodeInfo} :
    ∀ {parts : List Located} {index offset next stop : Nat},
      PlacedAll parts index offset next stop →
        innermostOf marked position parts offset = some info →
          marked info ∧ info.start ≤ position ∧ position < info.stop ∧
            ∃ node ∈ nodesOf parts, node.info? = some info
  | [], index, offset, next, stop, h, hfound => by simp [innermostOf] at hfound
  | part :: rest, index, offset, next, stop, h, hfound => by
    obtain ⟨middle, hpart, hrest⟩ := h
    rw [innermostOf] at hfound
    split at hfound
    · rename_i hin
      obtain ⟨hmarked, hs, ht, node, hnode, hinfo⟩ :=
        exists_of_innermostAt hpart hin.1 hin.2 hfound
      exact ⟨hmarked, hs, ht, node, by simp [nodesOf, hnode], hinfo⟩
    · obtain ⟨hmarked, hs, ht, node, hnode, hinfo⟩ := exists_of_innermostOf hrest hfound
      exact ⟨hmarked, hs, ht, node, by simp [nodesOf, hnode], hinfo⟩

end

mutual

/-- The walk in a tree looks at the marks of the nodes that cover the position. -/
theorem innermostAt_congr {marked marked' : NodeInfo → Bool} {position : Nat} :
    ∀ {part : Located} {index offset next : Nat}, part.Placed index offset next →
      offset ≤ position → position < part.stop →
        (∀ node ∈ part.nodes, ∀ info, node.info? = some info → info.start ≤ position →
          position < info.stop → marked info = marked' info) →
        innermostAt marked position part offset = innermostAt marked' position part offset
  | .token leaf, index, offset, next, h, h₁, h₂, hmarks => by simp [innermostAt]
  | .node own children, index, offset, next, h, h₁, h₂, hmarks => by
    obtain ⟨-, hstart, h⟩ := h
    have hown : marked own = marked' own :=
      hmarks (.node own children) (by simp [nodes]) own rfl (by omega) h₂
    rw [innermostAt, innermostAt, hown, innermostOf_congr h fun node hnode =>
      hmarks node (by simp [nodes, hnode])]

/-- The walk among trees looks at the marks of the nodes that cover the position. -/
theorem innermostOf_congr {marked marked' : NodeInfo → Bool} {position : Nat} :
    ∀ {parts : List Located} {index offset next stop : Nat},
      PlacedAll parts index offset next stop →
        (∀ node ∈ nodesOf parts, ∀ info, node.info? = some info → info.start ≤ position →
          position < info.stop → marked info = marked' info) →
        innermostOf marked position parts offset = innermostOf marked' position parts offset
  | [], index, offset, next, stop, h, hmarks => by simp [innermostOf]
  | part :: rest, index, offset, next, stop, h, hmarks => by
    obtain ⟨middle, hpart, hrest⟩ := h
    rw [innermostOf, innermostOf,
      innermostOf_congr hrest fun node hnode => hmarks node (by simp [nodesOf, hnode])]
    split
    · rename_i hin
      exact innermostAt_congr hpart hin.1 hin.2 fun node hnode =>
        hmarks node (by simp [nodesOf, hnode])
    · rfl

end

end Located

end QuerySemantics
