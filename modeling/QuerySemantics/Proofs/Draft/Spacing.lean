import Mathlib.Data.List.Chain
import QuerySemantics.Proofs.Draft.Combined
import QuerySemantics.Proofs.Draft.Component
import QuerySemantics.Proofs.Draft.Words
import QuerySemantics.Proofs.Tree.Bare
import QuerySemantics.Proofs.Tree.Tokens

/-!
# Blanks of drafts

The tree of a draft is the element of the draft with blanks put in, and nothing else. The blanks are
single spaces, no two of them stand next to each other, and each stands between two children of a node,
never at the begin or the end of one. So no node has trivia to be left out of its span.

What an element needs for this is that it has no trivia itself and that every node in it has a token: the
blank before a node goes by the first token in it.

## Main definitions

* `Token.Spaced`: tokens with single blanks between some of them.
* `Element.Tidy`: an element all of whose nodes have such tokens.
* `Element.Dense`: an element without trivia in which no node is empty.

## Main results

* `Element.Dense.bare_space`: the blanks put into a dense element can be taken out again.
* `Element.Dense.tidy_space`: a dense element with its blanks is tidy.
* `Draft.Component.dense`: the trees that drafts are written as are dense.
* `Draft.Whole.only_blanks_added`: what is put into the tree of a draft, and where.
-/

set_option autoImplicit false

namespace QuerySemantics

/-! ## Blanks among tokens -/

namespace Token

/-- **Spaced tokens**: the first and the last of them are no trivia, all trivia among them are blanks of
one space, and no two of these follow each other. -/
structure Spaced (tokens : List Token) : Prop where
  first : ∃ leaf ∈ tokens.head?, leaf.kind.isTrivia = false
  last : ∃ leaf ∈ tokens.getLast?, leaf.kind.isTrivia = false
  single : ∀ leaf ∈ tokens, leaf.kind.isTrivia = true → leaf.kind = .whitespace ∧ leaf.text = " "
  apart : tokens.IsChain fun leaf next => leaf.kind.isTrivia = true → next.kind.isTrivia = false

namespace Spaced

variable {leaf blank : Token} {tokens front back : List Token}

/-- A token that is no trivia. -/
theorem token (h : leaf.kind.isTrivia = false) : Spaced [leaf] where
  first := ⟨leaf, rfl, h⟩
  last := ⟨leaf, rfl, h⟩
  single other hother htrivia := by
    rw [List.mem_singleton.1 hother, h] at htrivia
    cases htrivia
  apart := .singleton leaf

/-- Whatever follows, the first token stays. -/
theorem first_append (h : Spaced front) (back : List Token) :
    ∃ leaf ∈ (front ++ back).head?, leaf.kind.isTrivia = false := by
  obtain ⟨leaf, hleaf, hkind⟩ := h.first
  exact ⟨leaf, by rw [List.head?_append, Option.mem_def.1 hleaf]; rfl, hkind⟩

/-- Whatever comes before, the last token stays. -/
theorem last_append (h : Spaced back) (front : List Token) :
    ∃ leaf ∈ (front ++ back).getLast?, leaf.kind.isTrivia = false := by
  obtain ⟨leaf, hleaf, hkind⟩ := h.last
  exact ⟨leaf, by rw [List.getLast?_append, Option.mem_def.1 hleaf]; rfl, hkind⟩

/-- Spaced tokens begin with no trivia. -/
theorem isTrivia_head (h : Spaced tokens) (hleaf : leaf ∈ tokens.head?) :
    leaf.kind.isTrivia = false := by
  obtain ⟨first, hfirst, hkind⟩ := h.first
  rwa [Option.mem_unique hleaf hfirst]

/-- Spaced tokens end with no trivia. -/
theorem isTrivia_getLast (h : Spaced tokens) (hleaf : leaf ∈ tokens.getLast?) :
    leaf.kind.isTrivia = false := by
  obtain ⟨last, hlast, hkind⟩ := h.last
  rwa [Option.mem_unique hleaf hlast]

/-- Spaced tokens may follow each other at once. -/
theorem append (h : Spaced front) (h' : Spaced back) : Spaced (front ++ back) where
  first := h.first_append back
  last := h'.last_append front
  single leaf hleaf := (List.mem_append.1 hleaf).elim (h.single leaf) (h'.single leaf)
  apart := List.isChain_append.2
    ⟨h.apart, h'.apart, fun _ _ _ hnext _ => h'.isTrivia_head hnext⟩

/-- Spaced tokens may follow each other with a blank between them. -/
theorem append_blank (h : Spaced front) (h' : Spaced back) (hkind : blank.kind = .whitespace)
    (htext : blank.text = " ") : Spaced (front ++ blank :: back) where
  first := h.first_append (blank :: back)
  last := by
    rw [List.append_cons]
    exact h'.last_append (front ++ [blank])
  single leaf hleaf htrivia := by
    rcases List.mem_append.1 hleaf with hleaf | hleaf
    · exact h.single leaf hleaf htrivia
    · rcases List.mem_cons.1 hleaf with rfl | hleaf
      · exact ⟨hkind, htext⟩
      · exact h'.single leaf hleaf htrivia
  apart := by
    have hback : (blank :: back).IsChain fun leaf next =>
        leaf.kind.isTrivia = true → next.kind.isTrivia = false :=
      List.isChain_cons.2 ⟨fun _ hnext _ => h'.isTrivia_head hnext, h'.apart⟩
    refine List.isChain_append.2 ⟨h.apart, hback, fun leaf hleaf _ _ htrivia => ?_⟩
    rw [h.isTrivia_getLast hleaf] at htrivia
    cases htrivia

end Spaced

end Token

namespace Element

/-! ## Tidy elements -/

/-- **Tidy element**: wherever it stands, it has spaced tokens, and so has every node in it. -/
def Tidy (element : Element) : Prop :=
  ∀ index offset, Token.Spaced (element.locate index offset).1.tokens ∧
    ∀ node ∈ (element.locate index offset).1.nodes, Token.Spaced node.tokens

/-- Elements that are tidy one behind the other. -/
def TidyRow (elements : List Element) : Prop :=
  ∀ index offset, Token.Spaced (Located.tokensOf (locateAll elements index offset).1) ∧
    ∀ node ∈ Located.nodesOf (locateAll elements index offset).1, Token.Spaced node.tokens

section Tidiness

variable {element : Element} {rest children : List Element}

/-- A token that is no trivia is tidy. -/
theorem Tidy.token {kind : Kind} (text : String) (h : kind.isTrivia = false) :
    Tidy (.token kind text) :=
  fun _ _ => ⟨.token h, fun _ hnode => absurd hnode List.not_mem_nil⟩

/-- A node is tidy if its children are. -/
theorem Tidy.node (kind : Kind) (h : TidyRow children) : Tidy (.node kind children) := by
  intro index offset
  obtain ⟨htokens, hnodes⟩ := h (index + 1) offset
  refine ⟨htokens, fun node hnode => ?_⟩
  rcases List.mem_cons.1 hnode with rfl | hnode
  · exact htokens
  · exact hnodes node hnode

/-- A tidy element alone makes a tidy row. -/
theorem TidyRow.singleton (h : Tidy element) : TidyRow [element] := by
  intro index offset
  obtain ⟨htokens, hnodes⟩ := h index offset
  simp only [locateAll, Located.tokensOf, Located.nodesOf, List.append_nil]
  exact ⟨htokens, hnodes⟩

/-- A tidy element in front of a tidy row makes a tidy row. -/
theorem TidyRow.cons (h : Tidy element) (hrest : TidyRow rest) : TidyRow (element :: rest) := by
  intro index offset
  obtain ⟨htokens, hnodes⟩ := h index offset
  obtain ⟨htokens', hnodes'⟩ := hrest (element.locate index offset).2
    (element.locate index offset).1.stop
  exact ⟨htokens.append htokens', fun node hnode =>
    (List.mem_append.1 hnode).elim (hnodes node) (hnodes' node)⟩

/-- A blank may stand between tidy elements. -/
theorem TidyRow.blank (h : Tidy element) (hrest : TidyRow rest) :
    TidyRow (element :: .blank :: rest) := by
  intro index offset
  obtain ⟨htokens, hnodes⟩ := h index offset
  obtain ⟨htokens', hnodes'⟩ := hrest (element.locate index offset).2
    ((element.locate index offset).1.stop + " ".utf8ByteSize)
  exact ⟨htokens.append_blank htokens' rfl rfl, fun node hnode =>
    (List.mem_append.1 hnode).elim (hnodes node) (hnodes' node)⟩

end Tidiness

/-! ## Dense elements -/

/-- **Dense element**: it has no trivia, and every node in it has children. -/
inductive Dense : Element → Prop where
  | token {kind : Kind} (text : String) (h : kind.isTrivia = false) : Dense (.token kind text)
  | node (kind : Kind) {children : List Element} (hne : children ≠ [])
      (h : ∀ child ∈ children, Dense child) : Dense (.node kind children)

section Density

variable {element first : Element} {rest elements : List Element} {previous : Option Kind}

/-- A dense element is no trivia. -/
theorem Dense.isTrivia_eq (h : Dense element) : element.isTrivia = false := by
  cases h with
  | token _ hkind => exact hkind
  | node => rfl

/-- A dense element begins with a token. -/
theorem Dense.exists_firstKind? (h : Dense element) : ∃ kind, element.firstKind? = some kind := by
  induction h with
  | @token kind _ _ => exact ⟨kind, rfl⟩
  | node kind hne _ ih =>
    obtain ⟨first, rest, rfl⟩ := List.exists_cons_of_ne_nil hne
    obtain ⟨found, hfirst⟩ := ih first List.mem_cons_self
    exact ⟨found, by rw [firstKind?, firstKindOf?, hfirst, Option.some_or]⟩

/-- **Before a node** a blank is needed if it is before the first child. -/
theorem Dense.needsBlank_node (h : Dense first) (kind : Kind) :
    needsBlank previous (.node kind (first :: rest)) = needsBlank previous first := by
  obtain ⟨found, hfirst⟩ := h.exists_firstKind?
  have hnode : (Element.node kind (first :: rest)).firstKind? = some found := by
    rw [firstKind?, firstKindOf?, hfirst, Option.some_or]
  simp only [needsBlank, hnode, hfirst]

/-- Elements that need no blank before them begin with the first one. -/
theorem spaceAll_unspaced (parent : Kind) (h : needsBlank previous first = false) :
    (spaceAll parent (first :: rest) previous).1 = (space first previous).1 ::
      (spaceAll parent rest (if attaches parent first then none else (space first previous).2)).1 := by
  simp [spaceAll, h]

/-- Elements that need a blank before them begin with it, and behind it they need none. -/
theorem spaceAll_blank (parent : Kind) (h : needsBlank previous first = true) :
    (spaceAll parent (first :: rest) previous).1 =
      blank :: (spaceAll parent (first :: rest) (some .whitespace)).1 := by
  rw [spaceAll_unspaced parent (unspaced_whitespace first)]
  simp [spaceAll, h]

/-! ## Taking blanks out -/

/-- A blank is not kept. -/
theorem bareAll_blank (elements : List Element) : bareAll (blank :: elements) = bareAll elements :=
  rfl

/-- Putting in blanks makes no trivia of an element. -/
theorem isTrivia_space (element : Element) (previous : Option Kind) :
    (space element previous).1.isTrivia = element.isTrivia := by
  cases element <;> rfl

/-- The blanks between elements can be taken out again if those inside them can. -/
theorem bareAll_spaceAll (parent : Kind) (hdense : ∀ element ∈ elements, Dense element)
    (hbare : ∀ element ∈ elements, ∀ previous, (space element previous).1.bare = element) :
    bareAll (spaceAll parent elements previous).1 = elements := by
  induction elements generalizing previous with
  | nil => rfl
  | cons element rest ih =>
    obtain ⟨hfirst, hdense⟩ := List.forall_mem_cons.1 hdense
    obtain ⟨hown, hbare⟩ := List.forall_mem_cons.1 hbare
    have hpart : ∀ previous others,
        bareAll ((space element previous).1 :: others) = element :: bareAll others := by
      intro previous others
      rw [bareAll, isTrivia_space, hfirst.isTrivia_eq, hown]
      rfl
    cases hblank : needsBlank previous element with
    | true =>
      rw [spaceAll_blank parent hblank, bareAll_blank,
        spaceAll_unspaced parent (unspaced_whitespace element), hpart, ih hdense hbare]
    | false => rw [spaceAll_unspaced parent hblank, hpart, ih hdense hbare]

/-- **Only blanks are added** to a dense element. -/
theorem Dense.bare_space (h : Dense element) (previous : Option Kind) :
    (space element previous).1.bare = element := by
  induction h generalizing previous with
  | token => rfl
  | node kind _ hdense ih => exact congrArg (Element.node kind) (bareAll_spaceAll kind hdense ih)

/-! ## Where blanks are put -/

/-- **Blanks between elements** leave them tidy. -/
theorem tidyRow_spaceAll (parent : Kind)
    (htidy : ∀ element ∈ first :: rest, ∀ previous, needsBlank previous element = false →
      Tidy (space element previous).1) (h : needsBlank previous first = false) :
    TidyRow (spaceAll parent (first :: rest) previous).1 := by
  induction rest generalizing first previous with
  | nil =>
    rw [spaceAll_unspaced parent h]
    exact .singleton (htidy first List.mem_cons_self previous h)
  | cons second others ih =>
    obtain ⟨hfirst, hothers⟩ := List.forall_mem_cons.1 htidy
    rw [spaceAll_unspaced parent h]
    generalize (if attaches parent first then none else (space first previous).2) = last
    -- whatever the first element ends with, a blank behind it comes before all of the second one
    cases hblank : needsBlank last second with
    | true =>
      rw [spaceAll_blank parent hblank]
      exact .blank (hfirst previous h) (ih hothers (unspaced_whitespace second))
    | false => exact .cons (hfirst previous h) (ih hothers hblank)

/-- **A dense element with its blanks is tidy** behind a token that calls for no blank. -/
theorem Dense.tidy_space (h : Dense element) (hblank : needsBlank previous element = false) :
    Tidy (space element previous).1 := by
  induction h generalizing previous with
  | token text hkind => exact .token text hkind
  | node kind hne hdense ih =>
    obtain ⟨first, rest, rfl⟩ := List.exists_cons_of_ne_nil hne
    rw [(hdense first List.mem_cons_self).needsBlank_node] at hblank
    exact .node kind (tidyRow_spaceAll kind (fun child hchild _ => ih child hchild) hblank)

end Density

end Element

/-! ## Spans without trivia -/

namespace SyntaxTree

/-- **A node that begins with no trivia** has its whole range as span. -/
theorem span_eq_range {tree : SyntaxTree} {node : Located} {info : NodeInfo}
    (hnode : node ∈ tree.root.nodes) (hinfo : node.info? = some info)
    (h : Token.Spaced node.tokens) : info.span = info.range := by
  obtain ⟨_, _, -, -, htile⟩ := tree.placed_root.exists_tokens hnode
  obtain ⟨leaf, hleaf, hkind⟩ := h.first
  obtain ⟨rest, htokens⟩ := List.head?_eq_some_iff.1 hleaf
  rw [htokens] at htile
  have htrimmed : node.trimmed = ⟨node.start, node.stop⟩ := by
    rw [Located.trimmed, htokens, List.find?_cons_of_pos (by simp [hkind]), ← htile.start_eq]
    rfl
  rw [tree.span_eq_trimmed hnode hinfo, htrimmed]
  cases node with
  | token leaf => cases hinfo
  | node own children =>
    cases hinfo
    rfl

end SyntaxTree

/-! ## Trees of drafts -/

namespace Draft

open Element

namespace Component

/-- A keyword is at least one token. -/
@[simp] theorem words_cons_ne_nil (kind : Kind) (kinds : List Kind) : words (kind :: kinds) ≠ [] :=
  List.cons_ne_nil _ _

/-- Parentheses are there, whatever they enclose. -/
@[simp] theorem enclosed_ne_nil (elements : List Element) : enclosed elements ≠ [] :=
  List.cons_ne_nil _ _

/-- Parentheses are no trivia. -/
@[simp] theorem spelled_isTrivia_enclosed (elements : List Element) :
    spelled Kind.isTrivia (enclosed elements) = spelled Kind.isTrivia elements :=
  spelled_enclosed rfl rfl

/-- Commas are no trivia. -/
@[simp] theorem spelled_isTrivia_separated (elements : List Element) :
    spelled Kind.isTrivia (separated elements) = spelled Kind.isTrivia elements :=
  spelled_separated rfl

/-- The trees of components spell nothing. -/
@[simp] theorem spelled_map_element (test : Kind → Bool) (items : List Component) :
    spelled test (items.map element) = [] :=
  spelled_nodes fun part hpart => by
    obtain ⟨it, -, rfl⟩ := List.mem_map.1 hpart
    exact it.tokenKind?_element

/-- Names are no trivia. -/
@[simp] theorem spelled_isTrivia_identifiers (idents : List String) :
    spelled Kind.isTrivia (idents.map .identifier) = [] := by
  induction idents with
  | nil => rfl
  | cons ident rest ih => exact ih

/-- **The node of a component** has children, and none of them is trivia. -/
theorem exists_children_spelled (it : Component) : ∃ kind children, it.element = .node kind children ∧
    children ≠ [] ∧ spelled Kind.isTrivia children = [] := by
  cases it with
  | whole it => cases it <;> exact ⟨_, _, rfl, by simp [Whole.element]⟩
  | expr it =>
    cases it with
    | boolean value => exact ⟨_, _, rfl, by cases value <;> simp [Kind.isTrivia]⟩
    | unary operator operand =>
      exact ⟨_, _, rfl, by cases operator <;> simp [Kind.isTrivia, UnaryOperator.kind]⟩
    | binary left operator right =>
      exact ⟨_, _, rfl, by cases operator <;> simp [Kind.isTrivia, BinaryOperator.kinds]⟩
    | isNull operand negated => exact ⟨_, _, rfl, by cases negated <;> simp [Kind.isTrivia]⟩
    | cases input labels otherwise =>
      refine ⟨_, _, rfl, ?_⟩
      cases input <;> cases otherwise <;>
        simp [-List.map_map, Kind.isTrivia, clauseIfAny, labelElements_eq]
    | quantified left operator quantifier it =>
      obtain ⟨operator, -⟩ := operator
      refine ⟨_, _, rfl, ?_⟩
      cases operator <;> cases quantifier <;>
        simp [Kind.isTrivia, BinaryOperator.kinds, Quantifier.kind]
    | _ => exact ⟨_, _, rfl, by simp [Kind.isTrivia]⟩
  | query it =>
    cases it with
    | select distinct top columns tables filter keys having =>
      have hfilter : conditionElements .whereClause .whereKeyword filter =
          (filter.toList.map (condition .filter)).map element := conditionElements_eq .filter filter
      have hhaving : conditionElements .havingClause .havingKeyword having =
          (having.toList.map (condition .having)).map element := conditionElements_eq .having having
      refine ⟨_, _, rfl, ?_⟩
      simp [-List.map_map, clauseElements_source, clauseElements_grouping, hfilter, hhaving]
    | combined left operator right =>
      exact ⟨_, _, rfl, by cases operator <;> simp [Kind.isTrivia, SetOperator.kinds]⟩
    | _ =>
      exact ⟨_, _, rfl, by
        simp [-List.map_map, Kind.isTrivia, orderElements_eq, definitionElements_eq]⟩
  | table it =>
    cases it with
    | byName ident name => cases name <;> exact ⟨_, _, rfl, by simp [Kind.isTrivia]⟩
    | joined left kind right test =>
      have htest : conditionElements .joinCondition .onKeyword test =
          (test.toList.map (condition .on)).map element := conditionElements_eq .on test
      refine ⟨_, _, rfl, ?_⟩
      cases kind <;> simp [-List.map_map, Kind.isTrivia, JoinKind.kinds, htest]
    | _ => exact ⟨_, _, rfl, by simp [Kind.isTrivia]⟩
  | column it =>
    rcases it with ⟨it, _ | name⟩ | _ | name <;> exact ⟨_, _, rfl, by simp [Kind.isTrivia]⟩
  | label it =>
    obtain ⟨test, result⟩ := it
    exact ⟨_, _, rfl, by simp [Kind.isTrivia]⟩
  | orderItem it =>
    obtain ⟨key, direction⟩ := it
    exact ⟨_, _, rfl, by cases direction <;> simp [Kind.isTrivia, Direction.elements]⟩
  | definition it =>
    obtain ⟨ident, idents, body⟩ := it
    exact ⟨_, _, rfl, by cases idents <;> simp [Kind.isTrivia, Draft.columnNames]⟩
  | named introduced ident => cases introduced <;> exact ⟨_, _, rfl, by simp [Kind.isTrivia]⟩
  | condition place it => exact ⟨_, _, rfl, by cases place <;> simp [Kind.isTrivia, Place.word]⟩
  | head distinct top columns =>
    have htop : top.toList.map limitElement = (top.toList.map limit).map element := by
      cases top <;> rfl
    refine ⟨_, _, rfl, ?_⟩
    cases distinct <;> simp [-List.map_map, Kind.isTrivia, htop, columnElements_eq]
  | limit it => exact ⟨_, _, rfl, by cases it.withTies <;> simp [Kind.isTrivia]⟩
  | _ =>
    exact ⟨_, _, rfl, by simp [-List.map_map, Kind.isTrivia, exprElements_eq, tableElements_eq]⟩

/-- **The trees that components are written as are dense.** -/
theorem dense (it : Component) : Dense it.element := by
  -- on the size of the tree, as parts of a component are smaller than the component in this only
  induction hsize : sizeOf it.element using Nat.strong_induction_on generalizing it with
  | _ size ih =>
    obtain ⟨kind, children, helement, hinner⟩ := it.exists_children
    obtain ⟨_, _, hsame, hne, hspelled⟩ := it.exists_children_spelled
    obtain ⟨rfl, rfl⟩ := Element.node.inj (helement.symm.trans hsame)
    rw [helement]
    refine .node kind hne fun child hchild => ?_
    cases child with
    | token own text =>
      have hleaf : (own, text) ∈ children.filterMap leaf? := List.mem_filterMap.2 ⟨_, hchild, rfl⟩
      have htrivia := List.filter_eq_nil_iff.1 hspelled _ hleaf
      exact .token text (Bool.eq_false_of_not_eq_true htrivia)
    | node own grandchildren =>
      have hinside : Element.node own grandchildren ∈ inner children := List.mem_filter.2 ⟨hchild, rfl⟩
      rw [hinner] at hinside
      obtain ⟨part, -, hpart⟩ := List.mem_map.1 hinside
      have hsmaller : sizeOf part.element < size := by
        have hbelow := List.sizeOf_lt_of_mem hchild
        rw [helement, Element.node.sizeOf_spec kind] at hsize
        rw [hpart]
        omega
      exact hpart ▸ ih _ hsmaller part rfl

end Component

/-- **Only blanks are added**: without its trivia, the tree of a draft is the element of the draft under
one unit. The trivia in it are blanks of one space, no two of them follow each other in the text, and no
node begins or ends with one. So the span of every node is all of its range. -/
theorem Whole.only_blanks_added (draft : Whole) (id : Nat) :
    (draft.tree id).element.bare = .node .compilationUnit [draft.element] ∧
      Token.Spaced (draft.tree id).root.tokens ∧
      ∀ node ∈ (draft.tree id).root.nodes, Token.Spaced node.tokens ∧
        ∀ info, node.info? = some info → info.span = info.range := by
  have hdense : Dense (.node .compilationUnit [draft.element]) := (Component.whole draft).dense
  obtain ⟨htokens, hnodes⟩ := hdense.tidy_space (unspaced_none _) 0 0
  refine ⟨hdense.bare_space none, htokens, fun node hnode => ⟨hnodes node hnode, fun info hinfo => ?_⟩⟩
  exact SyntaxTree.span_eq_range hnode hinfo (hnodes node hnode)

/-- A minus stays with its operand, and a blank separates it from the operator before it. -/
example : (Whole.expr (.binary (.name "a") .subtract (.unary .negate (.name "b")))).text = "a - -b" := by
  decide

end Draft

end QuerySemantics
