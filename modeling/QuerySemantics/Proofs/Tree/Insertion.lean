import QuerySemantics.Proofs.Ast.Congruence
import QuerySemantics.Proofs.Tree.Bare
import QuerySemantics.Proofs.Tree.Coincidence

/-!
# Trees with one more node

What stands at one place of a tree is replaced by something with one more node. The nodes behind the new
one move up by a number, all that stands behind the place moves in the text, and everything around it
stays.

## Main definitions

* `Layer`, `Path`: what stands around a place in a tree.
* `Path.fill`: the tree with a given element at the place.
* `Likeness.insert`: the likeness of trees one of which has one more node.
* `List.Inserts`: related lists, the second of which has one more entry.
* `Located.Differs`: trees read alike, one of which has one more node.

## Main results

* `Element.locate_insert`: what is located on one side of the place is alike.
* `Located.Differs.around`: trees around trees that differ differ in the same way.
* `Path.differs_fill`: whole trees that differ at one place.
-/

set_option autoImplicit false

/-! ## Lists -/

/-- **One more entry**: the lists are related entry by entry, but for one that only the second has. -/
inductive List.Inserts {α β : Type} (related : α → β → Prop) (new : β) : List α → List β → Prop
  | here {items : List α} {items' : List β} (h : List.Forall₂ related items items') :
      Inserts related new items (new :: items')
  | behind {it : α} {it' : β} {items : List α} {items' : List β} (hit : related it it')
      (h : Inserts related new items items') : Inserts related new (it :: items) (it' :: items')

namespace List.Inserts

variable {α β : Type} {related : α → β → Prop} {new : β} {items before after : List α}
  {items' before' after' : List β}

/-- Related lists in front. -/
theorem append_left (h : List.Inserts related new items items')
    (hbefore : List.Forall₂ related before before') :
    List.Inserts related new (before ++ items) (before' ++ items') := by
  induction hbefore with
  | nil => exact h
  | cons hit _ ih => exact .behind hit ih

/-- Related lists behind. -/
theorem append_right (h : List.Inserts related new items items')
    (hafter : List.Forall₂ related after after') :
    List.Inserts related new (items ++ after) (items' ++ after') := by
  induction h with
  | here h => exact .here (List.rel_append h hafter)
  | behind hit _ ih => exact .behind hit ih

/-- **The entries** of the lists: behind the new one they are one place further. -/
theorem getElem? (h : List.Inserts related new items items') : ∃ place, items'[place]? = some new ∧
    ∀ other, Option.Rel related items[other]? items'[if other < place then other else other + 1]? := by
  induction h with
  | here h =>
    refine ⟨0, rfl, fun other => ?_⟩
    rw [if_neg (Nat.not_lt_zero _), List.getElem?_cons_succ]
    exact h.getElem? other
  | behind hit _ ih =>
    obtain ⟨place, hnew, hothers⟩ := ih
    refine ⟨place + 1, hnew, fun other => ?_⟩
    cases other with
    | zero =>
      rw [if_pos (Nat.succ_pos _)]
      exact .some hit
    | succ other =>
      have hother := hothers other
      by_cases hlt : other < place
      · rw [if_pos hlt] at hother
        rw [if_pos (Nat.succ_lt_succ hlt)]
        exact hother
      · rw [if_neg hlt] at hother
        rw [if_neg (fun h => hlt (Nat.lt_of_succ_lt_succ h))]
        exact hother

end List.Inserts

namespace QuerySemantics

/-! ## Places in a tree -/

/-- **Layer** around a place: a node with its children before and behind the place. -/
structure Layer where
  kind : Kind
  before : List Element
  after : List Element

/-- A layer around an element. -/
def Layer.around (layer : Layer) (element : Element) : Element :=
  .node layer.kind (layer.before ++ element :: layer.after)

/-- **Path** to a place in a tree: the layers around it, the innermost one last. -/
inductive Path where
  | top
  | inside (outer : Path) (layer : Layer)

namespace Path

/-- The tree with an element at the place. -/
def fill : Path → Element → Element
  | .top, element => element
  | .inside outer layer, element => outer.fill (layer.around element)

/-- The offset of the place. -/
def start : Path → Nat
  | .top => 0
  | .inside outer layer => outer.start + Element.lengthOf layer.before

/-- The number of the first node at the place. -/
def index : Path → Nat
  | .top => 0
  | .inside outer layer => (Element.locateAll layer.before (outer.index + 1) outer.start).2

end Path

namespace Element

/-- Elements that follow each other are located one behind the other. -/
theorem locateAll_append : ∀ (before after : List Element) (index start : Nat),
    locateAll (before ++ after) index start =
      let first := locateAll before index start
      let behind := locateAll after first.2 (start + lengthOf before)
      (first.1 ++ behind.1, behind.2)
  | [], _, _, _ => rfl
  | element :: rest, after, index, start => by
    rw [List.cons_append, locateAll_cons, locateAll_cons]
    dsimp only
    rw [locateAll_append rest after, lengthOf, Nat.add_assoc]
    rfl

/-- The length of elements behind others is added. -/
theorem lengthOf_append (before after : List Element) :
    lengthOf (before ++ after) = lengthOf before + lengthOf after := by
  induction before with
  | nil => exact (Nat.zero_add _).symm
  | cons element rest ih => rw [List.cons_append, lengthOf, lengthOf, ih, Nat.add_assoc]

/-- The tokens of elements behind others come behind. -/
theorem leavesOf_append (before after : List Element) :
    leavesOf (before ++ after) = leavesOf before ++ leavesOf after := by
  induction before with
  | nil => rfl
  | cons element rest ih => rw [List.cons_append, leavesOf, leavesOf, ih, List.append_assoc]

end Element

/-! ## The likeness -/

/-- **One more node** in a tree, with the number `index`. `place` tells which offsets correspond, and `size`
how long an `ELSE` has to be for the same nodes to start behind it. -/
structure Insertion where
  index : Nat
  place : Nat → Nat → Prop
  size : Nat → Prop
  follows_iff {first first' last last' : Nat} (length : Nat) : size length → place first first' →
    place (first + length) (first' + length) → place last last' →
      (first' + length ≤ last' ↔ first + length ≤ last)

/-- The number that a node has with one more node in the tree. -/
def Insertion.number (more : Insertion) (index : Nat) : Nat :=
  if index < more.index then index else index + 1

/-- A leaf is long enough. -/
def Insertion.Fits (more : Insertion) (leaf : Kind × String) : Prop :=
  leaf.1 = .elseKeyword → more.size leaf.2.utf8ByteSize

/-- **Trees with one more node.** -/
def Likeness.insert (more : Insertion) : Likeness where
  info info info' := info'.kind = info.kind ∧
    info'.index = (if info.index < more.index then info.index else info.index + 1) ∧
      more.place info.start info'.start
  token leaf leaf' := leaf'.kind = leaf.kind ∧ leaf'.text = leaf.text ∧
    more.place leaf.start leaf'.start ∧ more.place leaf.stop leaf'.stop ∧
      more.Fits (leaf.kind, leaf.text)
  qualifies _ _ := True
  kind_eq h := h.1
  token_kind_eq h := h.1
  token_text_eq h := h.2.1
  follows_iff := by
    rintro leaf leaf' info info' helse ⟨-, htext, hstart, hstop, hsize⟩ ⟨-, -, hinfo⟩
    rw [Token.stop, Token.stop, htext] at hstop ⊢
    exact more.follows_iff _ (hsize helse) hstart hstop hinfo

/-- Different nodes have different numbers, with one more node or without. -/
theorem Likeness.faithful_insert (more : Insertion) : (Likeness.insert more).Faithful := by
  rintro info info' other other' ⟨-, hinfo, -⟩ ⟨-, hother, -⟩
  rw [hinfo, hother]
  split <;> split <;> omega

namespace Element

variable (more : Insertion)

mutual

/-- **On one side of the new node**, located elements are alike: in front of it with the same numbers,
and behind it with the next ones. -/
theorem locate_insert : ∀ (element : Element) (first first' start start' : Nat),
    first' = first ∧ (element.locate first start).2 ≤ more.index ∨
      first' = first + 1 ∧ more.index ≤ first →
    (∀ offset ≤ element.length, more.place (start + offset) (start' + offset)) →
    (∀ leaf ∈ element.leaves, more.Fits leaf) →
      (element.locate first start).1.Alike (.insert more)
          (element.locate first' start').1 ∧
        (element.locate first' start').2 + first = (element.locate first start).2 + first'
  | .token kind text, first, first', start, start', hnumber, hoffset, hsize => by
    refine ⟨.token ⟨rfl, rfl, hoffset 0 (Nat.zero_le _), hoffset _ (Nat.le_refl _), ?_⟩,
      Nat.add_comm _ _⟩
    exact hsize _ List.mem_cons_self
  | .node kind children, first, first', start, start', hnumber, hoffset, hsize => by
    have hlast : first < ((Element.node kind children).locate first start).2 :=
      ((placedAll_locateAll children (first + 1) start).le).1
    obtain ⟨hchildren, hnext⟩ := locateAll_insert children (first + 1) (first' + 1) start start'
      (hnumber.imp (fun h => ⟨congrArg (· + 1) h.1, h.2⟩) fun h => ⟨congrArg (· + 1) h.1,
        Nat.le_succ_of_le h.2⟩) hoffset hsize
    refine ⟨.node ⟨rfl, ?_, hoffset 0 (Nat.zero_le _)⟩ (fun _ _ _ _ => trivial) hchildren, ?_⟩
    · change first' = if first < more.index then first else first + 1
      split <;> omega
    · change (locateAll children (first' + 1) start').2 + first =
        (locateAll children (first + 1) start).2 + first'
      omega

/-- Several elements on one side of the new node. -/
theorem locateAll_insert : ∀ (elements : List Element) (first first' start start' : Nat),
    first' = first ∧ (locateAll elements first start).2 ≤ more.index ∨
      first' = first + 1 ∧ more.index ≤ first →
    (∀ offset ≤ lengthOf elements, more.place (start + offset) (start' + offset)) →
    (∀ leaf ∈ leavesOf elements, more.Fits leaf) →
      List.Forall₂ (Located.Alike (.insert more))
          (locateAll elements first start).1 (locateAll elements first' start').1 ∧
        (locateAll elements first' start').2 + first = (locateAll elements first start).2 + first'
  | [], first, first', _, _, _, _, _ => ⟨.nil, Nat.add_comm _ _⟩
  | element :: rest, first, first', start, start', hnumber, hoffset, hsize => by
    obtain ⟨hsizeFirst, hsizeRest⟩ := List.forall_mem_append.1 hsize
    rw [locateAll_cons, locateAll_cons]
    rw [locateAll_cons] at hnumber
    dsimp only at hnumber ⊢
    have hmiddle : first ≤ (element.locate first start).2 := (element.placed_locate first start).le.1
    have hlast := (placedAll_locateAll rest (element.locate first start).2
      (start + element.length)).le.1
    obtain ⟨halike, hnext⟩ := locate_insert element first first' start start'
      (hnumber.imp (fun h => ⟨h.1, Nat.le_trans hlast h.2⟩) id)
      (fun offset h => hoffset offset (Nat.le_add_right_of_le h)) hsizeFirst
    obtain ⟨hrest, hend⟩ := locateAll_insert rest (element.locate first start).2
      (element.locate first' start').2 (start + element.length) (start' + element.length)
      (by omega)
      (fun offset h => by
        rw [Nat.add_assoc, Nat.add_assoc]
        exact hoffset _ (Nat.add_le_add_left h _)) hsizeRest
    exact ⟨.cons halike hrest, by omega⟩

end

end Element

/-! ## Trees that differ at one place -/

namespace Located

/-- **A node that is kept** in the second tree, as is the node inside its parentheses. It consists of the
same, unless it is one around the place: then `length` bytes of it gave way to the new node. -/
structure Kept (like : Likeness) (length : Nat) (new part part' : Located) : Prop where
  info : ∀ info info', part.info? = some info → part'.info? = some info' → like.info info info'
  core : ∀ info info', part.info? = some info → part'.info? = some info' →
    like.info (part.coreInfo info) (part'.coreInfo info')
  element : part'.element = part.element ∨
    length ≤ part.element.length ∧ new.element.length ≤ part'.element.length

/-- **Trees that differ** by a node `new`, which only the second has, in place of `length` bytes. They are
read alike. -/
structure Differs (c : Congruence) (length : Nat) (part part' new : Located) : Prop where
  info : ∃ info info', part.info? = some info ∧ part'.info? = some info' ∧ c.info info info'
  piece : part.piece.Strict c.toCorrespondence part'.piece
  nodes : List.Inserts (Kept c.toLikeness length new) new part.nodes part'.nodes
  length_le : length ≤ part.element.length ∧ new.element.length ≤ part'.element.length

variable {c : Congruence} {length : Nat} {new part part' : Located} {info info' : NodeInfo}
  {before before' after after' : List Located}

/-- A node of a tree that is alike is kept. -/
theorem Alike.kept {like : Likeness} (h : part.Alike like part') :
    Kept like length new part part' where
  info _ _ hinfo hinfo' := by
    cases h with
    | token h => cases hinfo
    | node h _ _ =>
      cases hinfo
      cases hinfo'
      exact h
  core _ _ := h.coreInfo
  element := .inl h.element

/-- The nodes of alike trees are kept. -/
theorem kept_nodesOf {like : Likeness} {parts parts' : List Located}
    (h : List.Forall₂ (Alike like) parts parts') :
    List.Forall₂ (Kept like length new) (nodesOf parts) (nodesOf parts') :=
  (nodesOf_alike h).imp fun _ _ hpart => hpart.kept

/-- The nodes of elements behind others come behind. -/
theorem nodesOf_append (before after : List Located) :
    nodesOf (before ++ after) = nodesOf before ++ nodesOf after := by
  induction before with
  | nil => rfl
  | cons part rest ih => rw [List.cons_append, nodesOf, nodesOf, ih, List.append_assoc]

/-- Elements that were placed behind others come behind. -/
theorem elementsOf_append (before after : List Located) :
    elementsOf (before ++ after) = elementsOf before ++ elementsOf after := by
  induction before with
  | nil => rfl
  | cons part rest ih => rw [List.cons_append, elementsOf, elementsOf, ih, List.cons_append]

/-- A node is as long as what it has in front of a place, at the place and behind it. -/
theorem length_around (info : NodeInfo) (before inner after : List Located) :
    (node info (before ++ (inner ++ after))).element.length = Element.lengthOf (elementsOf before) +
      (Element.lengthOf (elementsOf inner) + Element.lengthOf (elementsOf after)) := by
  rw [element, Element.length, elementsOf_append, elementsOf_append, Element.lengthOf_append,
    Element.lengthOf_append]

/-- Pieces around a place. -/
theorem pieces_around {related : Piece → Piece → Prop} (inner inner' : List Located)
    (himp : ∀ piece piece', piece.Strict c.toCorrespondence piece' → related piece piece')
    (hbefore : List.Forall₂ (Alike c.toLikeness) before before')
    (hafter : List.Forall₂ (Alike c.toLikeness) after after')
    (h : List.Forall₂ related (pieces inner) (pieces inner')) :
    List.Forall₂ related (pieces (before ++ (inner ++ after)))
      (pieces (before' ++ (inner' ++ after'))) := by
  simp only [pieces_eq_map, List.map_append] at h ⊢
  simp only [← pieces_eq_map] at h ⊢
  exact List.rel_append ((pieces_strict hbefore).imp himp)
    (List.rel_append h ((pieces_strict hafter).imp himp))

/-- **Nodes around a place** where the second tree has one more node. -/
theorem differs_of_inner (inner inner' : List Located) (hinfo : c.info info info')
    (hpiece : (node info (before ++ (inner ++ after))).piece.Strict c.toCorrespondence
      (node info' (before' ++ (inner' ++ after'))).piece)
    (hbefore : List.Forall₂ (Alike c.toLikeness) before before')
    (hafter : List.Forall₂ (Alike c.toLikeness) after after')
    (h : List.Inserts (Kept c.toLikeness length new) new (nodesOf inner) (nodesOf inner'))
    (hlength : length ≤ Element.lengthOf (elementsOf inner) ∧
      new.element.length ≤ Element.lengthOf (elementsOf inner')) :
    (node info (before ++ (inner ++ after))).Differs c length
      (node info' (before' ++ (inner' ++ after'))) new := by
  have hle : length ≤ (node info (before ++ (inner ++ after))).element.length ∧
      new.element.length ≤ (node info' (before' ++ (inner' ++ after'))).element.length := by
    rw [length_around, length_around]
    omega
  have hnode : Kept c.toLikeness length new (node info (before ++ (inner ++ after)))
      (node info' (before' ++ (inner' ++ after'))) := by
    refine ⟨?_, ?_, .inr hle⟩
    · rintro _ _ ⟨⟩ ⟨⟩
      exact hinfo
    · rintro _ _ ⟨⟩ ⟨⟩
      exact coreInfo_strict hpiece hinfo
  refine ⟨⟨info, info', rfl, rfl, hinfo⟩, hpiece, ?_, hle⟩
  rw [nodes, nodes, nodesOf_append, nodesOf_append, nodesOf_append, nodesOf_append]
  exact .behind hnode ((h.append_right (kept_nodesOf hafter)).append_left (kept_nodesOf hbefore))

/-- **One layer more**: trees around trees that differ differ in the same way. -/
theorem Differs.around (h : part.Differs c length part' new) (hinfo : c.info info info')
    (hbefore : List.Forall₂ (Alike c.toLikeness) before before')
    (hafter : List.Forall₂ (Alike c.toLikeness) after after') :
    (node info (before ++ part :: after)).Differs c length (node info' (before' ++ part' :: after'))
      new := by
  refine differs_of_inner [part] [part'] hinfo ?_ hbefore hafter ?_ h.length_le
  · exact .ofNode_strict hinfo (pieces_around [part] [part'] (fun _ _ => id) hbefore hafter (.cons h.piece .nil))
  · simp only [nodesOf, List.append_nil]
    exact h.nodes

end Located

/-! ## Replacing elements at one place -/

section Replacing

variable {c : Congruence} {more : Insertion}

/-- **Elements replaced** from a number and an offset on by others with one more node, which has the number
of the insertion. What stands behind them moves from the end of the first ones to the end of the others. -/
structure Element.Moves (more : Insertion) (first start : Nat) (inner inner' : List Element) : Prop
    where
  next : (locateAll inner' first start).2 = (locateAll inner first start).2 + 1
  first_le : first ≤ more.index
  le_last : more.index ≤ (locateAll inner first start).2
  front : ∀ offset ≤ start, more.place offset offset
  back : ∀ offset, more.place (start + lengthOf inner + offset) (start + lengthOf inner' + offset)

/-- **Locating a node**: what it has in front of a place, at the place and behind it is located one behind
the other. -/
theorem Element.locate_node (kind : Kind) (before inner after : List Element) (first start : Nat) :
    let front := locateAll before (first + 1) start
    let middle := locateAll inner front.2 (start + lengthOf before)
    let back := locateAll after middle.2 (start + lengthOf before + lengthOf inner)
    ∃ info : NodeInfo, (Element.node kind (before ++ (inner ++ after))).locate first start =
        (.node info (front.1 ++ (middle.1 ++ back.1)), back.2) ∧
      info.kind = kind ∧ info.index = first ∧ info.start = start := by
  have hnode : ∀ children : List Element, ∃ info : NodeInfo,
      (Element.node kind children).locate first start = (.node info
        (locateAll children (first + 1) start).1, (locateAll children (first + 1) start).2) ∧
      info.kind = kind ∧ info.index = first ∧ info.start = start := fun _ => ⟨_, rfl, rfl, rfl, rfl⟩
  obtain ⟨info, hlocated, hinfo⟩ := hnode (before ++ (inner ++ after))
  refine ⟨info, ?_, hinfo⟩
  rw [hlocated, locateAll_append]
  dsimp only
  rw [locateAll_append]

/-- An element alone is placed where it starts. -/
theorem Element.locateAll_singleton (element : Element) (first start : Nat) :
    locateAll [element] first start =
      ([(element.locate first start).1], (element.locate first start).2) :=
  rfl

/-- **A node around elements that are replaced**: it stays, as does what it has in front of them, and what
it has behind them moves. -/
theorem Element.Moves.node (hlike : c.toLikeness = .insert more) (kind : Kind)
    {before inner inner' after : List Element} {first start : Nat}
    (h : Moves more (locateAll before (first + 1) start).2 (start + lengthOf before) inner inner')
    (hsize : ∀ leaf ∈ leavesOf before ++ leavesOf after, more.Fits leaf) :
    let front := locateAll before (first + 1) start
    ∃ (info info' : NodeInfo) (back back' : List Located),
      ((Element.node kind (before ++ (inner ++ after))).locate first start).1 = .node info
        (front.1 ++ ((locateAll inner front.2 (start + lengthOf before)).1 ++ back)) ∧
      ((Element.node kind (before ++ (inner' ++ after))).locate first start).1 = .node info'
        (front.1 ++ ((locateAll inner' front.2 (start + lengthOf before)).1 ++ back')) ∧
      info.kind = kind ∧ c.info info info' ∧
      List.Forall₂ (Located.Alike c.toLikeness) front.1 front.1 ∧
      List.Forall₂ (Located.Alike c.toLikeness) back back' ∧
      Moves more first start [.node kind (before ++ (inner ++ after))]
        [.node kind (before ++ (inner' ++ after))] := by
  obtain ⟨hbefore, hafter⟩ := List.forall_mem_append.1 hsize
  obtain ⟨info, hlocated, hkind, hnumber, hstart⟩ := locate_node kind before inner after first start
  obtain ⟨info', hlocated', hkind', hnumber', hstart'⟩ :=
    locate_node kind before inner' after first start
  have hfirst := (placedAll_locateAll before (first + 1) start).le.1
  have hlast := (placedAll_locateAll after (locateAll inner (locateAll before (first + 1) start).2
    (start + lengthOf before)).2 (start + lengthOf before + lengthOf inner)).le.1
  have hfront := (locateAll_insert more before (first + 1) (first + 1) start start
    (.inl ⟨rfl, h.first_le⟩) (fun _ hoffset => h.front _ (Nat.add_le_add_left hoffset _)) hbefore).1
  have hback := locateAll_insert more after _ _ _ _ (.inr ⟨h.next, h.le_last⟩)
    (fun offset _ => h.back offset) hafter
  have hbelow : info.index < more.index := hnumber ▸ Nat.lt_of_succ_le (Nat.le_trans hfirst h.first_le)
  have hinfo : c.info info info' := by
    rw [hlike]
    refine ⟨hkind'.trans hkind.symm, ?_, ?_⟩
    · rw [if_pos hbelow, hnumber, hnumber']
    · rw [hstart, hstart']
      exact h.front _ (Nat.le_add_right _ _)
  have hmoves : Moves more first start [.node kind (before ++ (inner ++ after))]
      [.node kind (before ++ (inner' ++ after))] := by
    have hnext := h.next
    have hbackNext := hback.2
    refine ⟨?_, ?_, ?_, fun offset hoffset => h.front _ (Nat.le_add_right_of_le hoffset),
      fun offset => ?_⟩
    · rw [locateAll_singleton, locateAll_singleton, hlocated, hlocated']
      dsimp only
      omega
    · omega
    · rw [locateAll_singleton, hlocated]
      exact Nat.le_trans h.le_last hlast
    · have hplace := h.back (lengthOf after + offset)
      simpa only [lengthOf, length, lengthOf_append, Nat.add_zero, Nat.add_assoc] using hplace
  rw [hlike] at hinfo ⊢
  exact ⟨info, info', _, _, congrArg Prod.fst hlocated, congrArg Prod.fst hlocated', hkind, hinfo,
    hfront, hback.1, hmoves⟩

/-- What stands at a place stands in the tree. -/
theorem Path.mem_leaves_fill {leaf : Kind × String} : ∀ (path : Path) {element : Element},
    leaf ∈ element.leaves → leaf ∈ (path.fill element).leaves
  | .top, _, h => h
  | .inside outer layer, element, h => outer.mem_leaves_fill (by
    rw [Layer.around, Element.leaves, Element.leavesOf_append, Element.leavesOf]
    exact List.mem_append_right _ (List.mem_append_left _ h))

/-- What stands around a place stands in the tree. -/
theorem Path.mem_leaves_around {leaf : Kind × String} {outer : Path} {layer : Layer} (element : Element)
    (h : leaf ∈ Element.leavesOf layer.before ++ Element.leavesOf layer.after) :
    leaf ∈ ((Path.inside outer layer).fill element).leaves := by
  refine outer.mem_leaves_fill ?_
  rw [Layer.around, Element.leaves, Element.leavesOf_append, Element.leavesOf]
  exact (List.mem_append.1 h).elim (List.mem_append_left _) fun h =>
    List.mem_append_right _ (List.mem_append_right _ h)

/-- **Whole trees that differ** where elements at one place of them differ.

**Proof sketch.** Induction over the path, from the inside out. What a layer has in front of the place
stays, and what it has behind the place moves. -/
theorem Path.differs_fill (hlike : c.toLikeness = .insert more) {length : Nat} {new : Located} :
    ∀ (path : Path) {element element' : Element},
      (element.locate path.index path.start).1.Differs c length
        (element'.locate path.index path.start).1 new →
      Element.Moves more path.index path.start [element] [element'] →
      (∀ leaf ∈ (path.fill element).leaves, more.Fits leaf) →
        ((path.fill element).locate 0 0).1.Differs c length ((path.fill element').locate 0 0).1 new
  | .top, _, _, h, _, _ => h
  | .inside outer layer, element, element', h, hmoves, hsize => by
    obtain ⟨info, info', back, back', hlocated, hlocated', -, hinfo, hfront, hback, hmoves⟩ :=
      hmoves.node hlike layer.kind fun leaf hleaf => hsize leaf (mem_leaves_around element hleaf)
    refine outer.differs_fill hlike ?_ hmoves hsize
    change Located.Differs c length ((Element.node layer.kind
      (layer.before ++ ([element] ++ layer.after))).locate outer.index outer.start).1
      ((Element.node layer.kind
        (layer.before ++ ([element'] ++ layer.after))).locate outer.index outer.start).1 new
    rw [hlocated, hlocated']
    exact h.around hinfo hfront hback

end Replacing

/-! ## Nodes by their numbers -/

/-- **The nodes of trees that differ**: the new one has its number, and those behind it the next ones. -/
theorem Located.Differs.node? {c : Congruence} {length : Nat} {tree tree' : SyntaxTree} {new : Located}
    {info : NodeInfo} (h : tree.root.Differs c length tree'.root new) (hnew : new.info? = some info) :
    tree'.node? info.index = some new ∧ ∀ other, Option.Rel (Kept c.toLikeness length new)
      (tree.node? other) (tree'.node? (if other < info.index then other else other + 1)) := by
  obtain ⟨place, hplace, hothers⟩ := h.nodes.getElem?
  have hnumber := (SyntaxTree.node?_eq_some_iff.1 hplace).2
  rw [index?, hnew, Option.map_some, Option.some.injEq] at hnumber
  rw [hnumber]
  exact ⟨hplace, hothers⟩

/-! ## Nodes that coincide -/

section Coinciding

variable {c : Congruence} {more : Insertion} {length : Nat} {tree tree' : SyntaxTree}
  {new part part' : Located} {info : NodeInfo} {index other : Nat}

/-- A kept node is where its offset is in the second tree. -/
theorem Located.Kept.place (h : Kept (.insert more) length new part part') (hpart : part ∈ tree.root.nodes)
    (hpart' : part' ∈ tree'.root.nodes) : more.place part.start part'.start := by
  obtain ⟨own, children, rfl⟩ := exists_info_of_mem_nodes hpart
  obtain ⟨own', children', rfl⟩ := exists_info_of_mem_nodes hpart'
  exact (h.info own own' rfl rfl).2.2

/-- **Kept nodes coincide** if they did before, if what gave way to the new node had text. -/
theorem Located.Differs.same_of_same (h : tree.root.Differs c length tree'.root new)
    (hlike : c.toLikeness = .insert more) (hnew : new.info? = some info) (hlength : 0 < length)
    (hplace : ∀ {start start' last last' : Nat}, more.place start start' → more.place last last' →
      last = start → last' = start') (hsame : tree.Same index other) :
    tree'.Same (if index < info.index then index else index + 1)
      (if other < info.index then other else other + 1) := by
  obtain ⟨-, hothers⟩ := h.node? hnew
  rw [hlike] at hothers
  refine hsame.imp (fun heq => by rw [heq]) fun hcoincide => ?_
  obtain ⟨hne, node, node', hnode, hnode', hempty, hstart, helement⟩ :=
    SyntaxTree.mem_coincidences.1 hcoincide
  obtain ⟨kept, hkept, hrel⟩ := (hothers index).exists_right hnode
  obtain ⟨kept', hkept', hrel'⟩ := (hothers other).exists_right hnode'
  have hsolid : kept.element = node.element := hrel.element.resolve_right (by omega)
  have hsolid' : kept'.element = node'.element := hrel'.element.resolve_right (by rw [helement]; omega)
  have hat := hrel.place (List.mem_of_getElem? hnode) (List.mem_of_getElem? hkept)
  have hat' := hrel'.place (List.mem_of_getElem? hnode') (List.mem_of_getElem? hkept')
  refine SyntaxTree.mem_coincidences.2 ⟨by split <;> split <;> omega, kept, kept', hkept, hkept', ?_,
    hplace hat hat' hstart, ?_⟩
  · rw [hsolid, hempty]
  · rw [hsolid, hsolid', helement]

/-- **Kept nodes coincided** if they do, if the new node has text. -/
theorem Located.Differs.same_of_kept (h : tree.root.Differs c length tree'.root new)
    (hlike : c.toLikeness = .insert more) (hnew : new.info? = some info) (htext : 0 < new.element.length)
    (hplace : ∀ {start start' last last' : Nat}, more.place start start' → more.place last last' →
      last' = start' → last = start)
    (hsame : tree'.Same (if index < info.index then index else index + 1)
      (if other < info.index then other else other + 1)) : tree.Same index other := by
  obtain ⟨-, hothers⟩ := h.node? hnew
  rw [hlike] at hothers
  refine hsame.imp (fun heq => by split at heq <;> split at heq <;> omega) fun hcoincide => ?_
  obtain ⟨hne, kept, kept', hkept, hkept', hempty, hstart, helement⟩ :=
    SyntaxTree.mem_coincidences.1 hcoincide
  obtain ⟨node, hnode, hrel⟩ := (hothers index).exists_left hkept
  obtain ⟨node', hnode', hrel'⟩ := (hothers other).exists_left hkept'
  have hsolid : kept.element = node.element := hrel.element.resolve_right (by omega)
  have hsolid' : kept'.element = node'.element := hrel'.element.resolve_right (by rw [helement]; omega)
  have hat := hrel.place (List.mem_of_getElem? hnode) (List.mem_of_getElem? hkept)
  have hat' := hrel'.place (List.mem_of_getElem? hnode') (List.mem_of_getElem? hkept')
  refine SyntaxTree.mem_coincidences.2 ⟨fun heq => hne (by rw [heq]), node, node', hnode, hnode', ?_,
    hplace hat hat' hstart, ?_⟩
  · rw [← hsolid, hempty]
  · rw [← hsolid, ← hsolid', helement]

/-- **Distinct nodes stay distinct** when a node with text is added. -/
theorem Located.Differs.distinct (h : tree.root.Differs c length tree'.root new)
    (hlike : c.toLikeness = .insert more) (hnew : new.info? = some info) (htext : 0 < new.element.length)
    (hplace : ∀ {start start' last last' : Nat}, more.place start start' → more.place last last' →
      last' = start' → last = start) (hdistinct : tree.Distinct) : tree'.Distinct := by
  obtain ⟨hnode, -⟩ := h.node? hnew
  -- a number of the second tree is that of the new node or of a kept one
  have hkept : ∀ {number : Nat}, number ≠ info.index →
      ∃ index, number = if index < info.index then index else index + 1 := fun {number} hne =>
    ⟨if number < info.index then number else number - 1, by split_ifs <;> omega⟩
  have hnone : ∀ {number number' : Nat}, (number, number') ∈ tree'.coincidences →
      number ≠ info.index := by
    rintro _ number' hcoincide rfl
    obtain ⟨-, node, -, hown, -, hempty, -⟩ := SyntaxTree.mem_coincidences.1 hcoincide
    cases hnode.symm.trans hown
    omega
  refine List.eq_nil_iff_forall_not_mem.2 fun ⟨number, number'⟩ hcoincide => ?_
  obtain ⟨hne, -⟩ := SyntaxTree.mem_coincidences.1 hcoincide
  have hback : tree'.Same number' number := SyntaxTree.Same.symm (.inr hcoincide)
  obtain ⟨index, rfl⟩ := hkept (hnone hcoincide)
  obtain ⟨other, rfl⟩ := hkept (hnone (hback.resolve_left (Ne.symm hne)))
  have hsame := h.same_of_kept hlike hnew htext hplace (.inr hcoincide)
  exact hne (by rw [hdistinct.same_iff.1 hsame])

end Coinciding

end QuerySemantics
