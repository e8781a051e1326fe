import QuerySemantics.Catalog.Sample
import QuerySemantics.Proofs.Binding.Parentheses
import QuerySemantics.Proofs.Tree.Insertion

/-!
# Parentheses are transparent

An expression, a query or a table reference in parentheses means what it means without them: the same
problems are reported, every other node is bound to the same, and the node in parentheses is known by what
stands in them.

Three places are not transparent, since they look at what stands there: the front of a property, where a
bare name may be a table, an `ORDER BY`, where a bare number is a position, and the query that an `ORDER BY`
stands behind, where a bare `SELECT` shows its tables.

## Main definitions

* `Element.parenthesize`: an element in parentheses.
* `Insertion.parenthesize`: what parentheses at one place move.

## Main results

* `Path.differs_parenthesize`: the trees are read alike.
* `Analysis.model_parenthesize`: analyses of a tree and of the tree with parentheses at one place.
-/

set_option autoImplicit false

namespace QuerySemantics

open Binding

/-! ## Trees with parentheses -/

/-- **An element in parentheses** of a kind. -/
def Element.parenthesize (around : Kind) (inner : Element) : Element :=
  .node around [.token .openParen "(", inner, .token .closeParen ")"]

/-- Where an offset is if what takes `length` bytes from `start` on is put in parentheses. -/
def Parenthesized (start length offset offset' : Nat) : Prop :=
  offset ≤ start ∧ offset' = offset ∨
    start ≤ offset ∧ offset ≤ start + length ∧ offset' = offset + 1 ∨
      start + length ≤ offset ∧ offset' = offset + 2

/-- **The insertion of parentheses** around the node with the number `index`, which takes `length` bytes from
`start` on. -/
def Insertion.parenthesize (index start length : Nat) : Insertion where
  index := index
  place := Parenthesized start length
  size := (0 < ·)
  follows_iff size hsize hfirst hstop hlast := by
    unfold Parenthesized at hfirst hstop hlast
    omega

/-- A leaf that is no empty `ELSE` is long enough. -/
theorem Insertion.fits_parenthesize {leaf : Kind × String} (h : Element.Filled leaf)
    (index start length : Nat) : (parenthesize index start length).Fits leaf :=
  fun helse => Nat.pos_of_ne_zero fun hzero => h helse (String.utf8ByteSize_eq_zero_iff.1 hzero)

/-- A node is not read as a token. -/
theorem Piece.token?_ofNode (info : NodeInfo) (pieces : List Piece) :
    (ofNode info pieces).token? = none := by
  unfold ofNode
  split <;> rfl

/-- The tokens among located elements are of the kinds of the tokens among the elements. -/
theorem Element.tokenKinds_locateAll : ∀ (elements : List Element) (index start : Nat),
    ((Located.pieces (locateAll elements index start).1).filterMap Piece.token?).map Token.kind =
      elements.filterMap tokenKind?
  | [], _, _ => rfl
  | .token kind text :: rest, index, start => by
    rw [locateAll_cons]
    exact congrArg (kind :: ·) (tokenKinds_locateAll rest _ _)
  | .node kind children :: rest, index, start => by
    rw [locateAll_cons]
    change ((Piece.ofNode _ _ :: _).filterMap Piece.token?).map Token.kind = _
    rw [List.filterMap_cons, Piece.token?_ofNode]
    exact tokenKinds_locateAll rest _ _

/-- A literal begins with a number if its first token that is no trivia is one. -/
theorem Element.leadingKind_locateAll (elements : List Element) (index start : Nat) :
    (Piece.leadingToken? (Located.pieces (locateAll elements index start).1)).map Token.kind =
      (elements.filterMap tokenKind?).find? (!·.isTrivia) := by
  rw [← tokenKinds_locateAll elements index start, List.find?_map]
  rfl

/-- **A node around a node in parentheses** is read like the node around it without them, if it does not
look for that node. -/
theorem Located.differs_wrapped {like : Likeness} {options : Options} {info info' own outer : NodeInfo}
    {front back back' children : List Located} {inner' : Located} {opening closing : Token}
    {around : Kind} (hinfo : like.info info info') (hfront : List.Forall₂ (Alike like) front front)
    (hback : List.Forall₂ (Alike like) back back') (h : (node own children).Alike like inner')
    (hkind : own.kind.parentheses? = some around) (houter : outer.kind = around)
    (hbehind : ∀ {leaf leaf' : Token}, leaf.kind = .elseKeyword → like.token leaf leaf' →
      (leaf'.stop ≤ outer.start ↔ leaf.stop ≤ own.start))
    (htarget : info.kind = .propertyAccessExpression → own.kind ≠ .nameExpression)
    (hkey : info.kind = .orderByColumn → own.kind = .literalExpression →
      (Piece.leadingToken? (pieces children)).map Token.kind ≠ some .numericLiteral)
    (hsorted : info.kind = .orderedQuery → own.kind ≠ .selectQuery) :
    (node info (front ++ ([node own children] ++ back))).Differs (exchangeableForms like options) 0
      (node info' (front ++ ([node outer [.token opening, inner', .token closing]] ++ back')))
      (node outer [.token opening, inner', .token closing]) := by
  obtain ⟨hloose, hname, hnumber, hselect⟩ :=
    Piece.wrapped options opening closing hkind h.piece houter hbehind
  let new := node outer [.token opening, inner', .token closing]
  have hnodes : List.Inserts (Kept like 0 new) new
      (nodesOf [node own children]) (nodesOf [node outer [.token opening, inner', .token closing]]) := by
    have hinner : List.Forall₂ (Kept like 0 new) (nodesOf [node own children]) (nodesOf [inner']) :=
      kept_nodesOf (.cons h .nil)
    simp only [nodesOf, nodes, List.append_nil, List.nil_append] at hinner ⊢
    exact .here hinner
  -- what is read around the node corresponds in whatever way the node itself does
  have haround : ∀ {related : Piece → Piece → Prop},
      (∀ piece piece', piece.Strict (exchangeable like options) piece' → related piece piece') →
      related (node own children).piece (node outer [.token opening, inner', .token closing]).piece →
        List.Forall₂ related (pieces (front ++ ([node own children] ++ back)))
          (pieces (front ++ ([node outer [.token opening, inner', .token closing]] ++ back'))) :=
    fun himp h => pieces_around (c := exchangeableForms like options) _ _ himp hfront hback (.cons h .nil)
  have hpiece := Piece.Strict.ofNode (exchangeableForms like options) hinfo
    (haround (fun _ _ => Piece.Corresponds.loose (c := exchangeableForms like options)) hloose)
    (fun hproperty => haround (fun _ _ hpiece => hpiece.imp
      (fun _ _ h => h.toExchangeableTarget) fun _ _ h => h.toExchangeable) (hname (htarget hproperty)))
    (fun hcolumn => haround (fun _ _ hpiece => hpiece.imp
      (fun _ _ h => h.toExchangeableKey) fun _ _ h => h.toExchangeable) (hnumber (hkey hcolumn)))
    (fun hordered => haround (fun _ _ hpiece => hpiece.imp
      (fun _ _ h => h.toExchangeable) fun _ _ => id) (hselect (hsorted hordered)))
  refine differs_of_inner (c := exchangeableForms like options) _ _ hinfo hpiece hfront hback hnodes
    ⟨Nat.zero_le _, ?_⟩
  exact Nat.le_add_right _ _

section Trees

variable {outer : Path} {parent : Layer} {kind around : Kind} {children : List Element}
  {options : Options}

/-- **Parentheses at a place** move what stands in them and behind it. -/
theorem Element.moves_parenthesize (around : Kind) (path : Path) (inner : Element) (hfilled : inner.ElseFilled) :
    let more := Insertion.parenthesize path.index path.start inner.length
    (inner.locate path.index path.start).1.Alike (.insert more)
        (inner.locate (path.index + 1) (path.start + 1)).1 ∧
      Moves more path.index path.start [inner] [parenthesize around inner] := by
  intro more
  obtain ⟨halike, hnext⟩ := inner.locate_insert more path.index (path.index + 1) path.start
    (path.start + 1) (.inr ⟨rfl, Nat.le_refl _⟩)
    (fun offset hoffset => .inr (.inl ⟨by omega, by omega, by omega⟩))
    (fun leaf hleaf => Insertion.fits_parenthesize (hfilled leaf hleaf) _ _ _)
  refine ⟨halike, ?_, Nat.le_refl _, (inner.placed_locate _ _).le.1,
    fun offset hoffset => .inl ⟨hoffset, rfl⟩, fun offset => .inr (.inr ⟨?_, ?_⟩)⟩
  · change (inner.locate (path.index + 1) (path.start + 1)).2 =
      (inner.locate path.index path.start).2 + 1
    omega
  · change path.start + inner.length ≤ path.start + (inner.length + 0) + offset
    omega
  · change path.start + (1 + (inner.length + (1 + 0)) + 0) + offset =
      path.start + (inner.length + 0) + offset + 2
    omega

/-- **A tree and the tree with parentheses at one place** are read alike, but for the node of the
parentheses. -/
theorem Path.differs_parenthesize (hkind : kind.parentheses? = some around)
    (hlooks : parent.kind.looksAt (.node kind children) = false)
    (hfilled : ((Path.inside outer parent).fill (.node kind children)).ElseFilled) :
    let path := Path.inside outer parent
    let inner := Element.node kind children
    let more := Insertion.parenthesize path.index path.start inner.length
    ((path.fill inner).locate 0 0).1.Differs (exchangeableForms (.insert more) options) 0
      ((path.fill (inner.parenthesize around)).locate 0 0).1
      ((inner.parenthesize around).locate path.index path.start).1 := by
  intro path inner more
  have hfits : ∀ leaf ∈ (path.fill inner).leaves, more.Fits leaf := fun leaf hleaf =>
    Insertion.fits_parenthesize (hfilled leaf hleaf) _ _ _
  obtain ⟨halike, hmoves⟩ := Element.moves_parenthesize around path inner
    fun leaf hleaf => hfilled leaf (path.mem_leaves_fill hleaf)
  obtain ⟨info, info', back, back', hlocated, hlocated', hparent, hinfo, hfront, hback, houter⟩ :=
    hmoves.node (c := exchangeableForms (.insert more) options) rfl parent.kind
      fun leaf hleaf => hfits leaf (Path.mem_leaves_around inner hleaf)
  refine outer.differs_fill rfl ?_ houter hfits
  change Located.Differs _ _ ((Element.node parent.kind
    (parent.before ++ ([inner] ++ parent.after))).locate outer.index outer.start).1
    ((Element.node parent.kind (parent.before ++
      ([inner.parenthesize around] ++ parent.after))).locate outer.index outer.start).1 _
  rw [hlocated, hlocated']
  refine Located.differs_wrapped hinfo hfront hback halike hkind rfl ?_ ?_ ?_ ?_
  · -- the parentheses start where the node without them starts
    rintro leaf leaf' helse ⟨-, htext, hstart, hstop, hsize⟩
    rw [Token.stop, Token.stop, htext] at hstop ⊢
    exact more.follows_iff _ (hsize helse) hstart hstop (.inl ⟨Nat.le_refl _, rfl⟩)
  · rintro hproperty rfl
    rw [hparent] at hproperty
    simp [Kind.looksAt, hproperty] at hlooks
  · rintro hcolumn rfl hnumber
    rw [hparent] at hcolumn
    rw [Element.leadingKind_locateAll] at hnumber
    simp [Kind.looksAt, hcolumn, hnumber] at hlooks
  · rintro hordered rfl
    rw [hparent] at hordered
    simp [Kind.looksAt, hordered] at hlooks

end Trees

/-! ## Models -/

/-- Passes over trees that differ go in lockstep. -/
theorem Located.Differs.pass_lockstep {like : Likeness} {options : Options} {length : Nat}
    {part part' new : Located} (h : part.Differs (exchangeableForms like options) length part' new) (scope : Scope) :
    Lockstep (.elsewhere like options) scope (pass part) (pass part') id := by
  obtain ⟨info, info', hpart, hpart', hinfo⟩ := h.info
  have hinfo : Lockstep (.elsewhere like options) scope (recordScope info) (recordScope info') id :=
    .recordScope hinfo
  unfold Binding.pass
  rw [hpart, hpart']
  exact hinfo.bind fun _ => piece_exchange h.piece

/-- **Parentheses are bound to what stands in them.** -/
theorem SemanticModel.boundNode?_parenthesize (analysis : Analysis) {next : SymbolId}
    {kind around : Kind} {children : List Element} {index start : Nat}
    (hkind : kind.parentheses? = some around)
    (h : analysis.tree.node? index =
      some (((Element.node kind children).parenthesize around).locate index start).1) :
    (analysis.model next).1.boundNode? ⟨analysis.tree.id, index⟩ =
      (analysis.model next).1.boundNode? ⟨analysis.tree.id, index + 1⟩ := by
  obtain ⟨hmem, -⟩ := SyntaxTree.node?_eq_some_iff.1 h
  obtain ⟨own, parts, hown, hownKind, hownIndex⟩ : ∃ own parts,
      ((Element.node kind children).locate (index + 1) (start + 1)).1 = .node own parts ∧
        own.kind = kind ∧ own.index = index + 1 := ⟨_, _, rfl, rfl, rfl⟩
  obtain ⟨outer, opening, closing, houter, houterKind, houterIndex⟩ : ∃ outer opening closing,
      (((Element.node kind children).parenthesize around).locate index start).1 =
        .node outer [.token opening, .node own parts, .token closing] ∧
        outer.kind = around ∧ outer.index = index := by
    rw [← hown]
    exact ⟨_, _, _, rfl, rfl, rfl⟩
  rw [houter] at hmem
  have hinner : Located.node own parts ∈ analysis.tree.root.nodes :=
    Located.mem_nodes_trans (Located.mem_nodes_of_child
      (List.mem_cons_of_mem _ List.mem_cons_self) (Located.mem_nodes_self rfl)) hmem
  have hbound : (analysis.model next).1.boundNode? (analysis.tree.ref outer) = _ :=
    boundNode?_ref hmem rfl
  have hbound' : (analysis.model next).1.boundNode? (analysis.tree.ref own) = _ :=
    boundNode?_ref hinner rfl
  rw [Located.coreInfo_wrapped parts opening closing (hownKind ▸ hkind) houterKind] at hbound
  rw [← hownIndex, ← houterIndex]
  exact hbound.trans hbound'.symm

namespace Analysis

/-- **Parentheses are transparent.** Putting an expression, a query or a table reference of a tree in
parentheses, wherever nothing looks for it, leaves the reported problems as they are, what every other node
is bound to, and what its place is bound to: then the place of the parentheses. Nodes in front of the place
keep their numbers, and the others have the next ones. No `ELSE` of the tree may be empty, and no two nodes
may coincide.

**Proof sketch.** The node and the node in parentheses are exchangeable where nothing is asked of them, and
each form of syntax passes this on: by induction over the path from the place to the root both trees are
bound in lockstep, record by record. Nodes of the second tree are distinct too: those around the place have
text now, and the others are at corresponding offsets. -/
theorem model_parenthesize {outer : Path} {parent : Layer} {kind around : Kind}
    {children : List Element} (hkind : kind.parentheses? = some around)
    (hlooks : parent.kind.looksAt (.node kind children) = false)
    (hfilled : ((Path.inside outer parent).fill (.node kind children)).ElseFilled) (id id' : Nat)
    (hdistinct : (SyntaxTree.mk id ((Path.inside outer parent).fill (.node kind children))).Distinct)
    (catalog : Catalog) (options : Options) (next : SymbolId) :
    let path := Path.inside outer parent
    let inner := Element.node kind children
    let model := ((Analysis.mk ⟨id, path.fill inner⟩ catalog options).model next).1
    let model' := ((Analysis.mk ⟨id', path.fill (inner.parenthesize around)⟩ catalog options).model
      next).1
    model'.diagnostics.map Diagnostic.problem = model.diagnostics.map Diagnostic.problem ∧
      (∀ index, model'.boundNode? ⟨id', if index < path.index then index else index + 1⟩ =
        model.boundNode? ⟨id, index⟩) ∧
      model'.boundNode? ⟨id', path.index⟩ = model.boundNode? ⟨id, path.index⟩ := by
  intro path inner model model'
  let tree : SyntaxTree := ⟨id, path.fill inner⟩
  let tree' : SyntaxTree := ⟨id', path.fill (inner.parenthesize around)⟩
  let more := Insertion.parenthesize path.index path.start inner.length
  have hdiffers : tree.root.Differs (exchangeableForms (.insert more) options) 0 tree'.root
      ((inner.parenthesize around).locate path.index path.start).1 :=
    Path.differs_parenthesize hkind hlooks hfilled
  have hlockstep : ∀ scope, Lockstep (.elsewhere (.insert more) options) scope (pass tree.root)
      (pass tree'.root) _ := hdiffers.pass_lockstep
  have hresult := (BindingResult.alike_of_lockstep hlockstep catalog next).1
  have hdistinct' : tree'.Distinct := by
    refine hdiffers.distinct rfl rfl ?_ (fun hstart hlast => ?_) hdistinct
    · rw [Element.element_locate]
      exact Nat.lt_add_right _ Nat.one_pos
    · change Parenthesized _ _ _ _ at hstart hlast
      unfold Parenthesized at hstart hlast
      omega
  obtain ⟨hplace, hothers⟩ := hdiffers.node? rfl
  have hother : ∀ index, model'.boundNode? ⟨id', if index < path.index then index else index + 1⟩ =
      model.boundNode? ⟨id, index⟩ := by
    intro index
    rw [SemanticModel.boundNode?_of_distinct ⟨tree, catalog, options⟩ hdistinct,
      SemanticModel.boundNode?_of_distinct ⟨tree', catalog, options⟩ hdistinct']
    exact SyntaxTree.core?_related (fun it it' => it' = it) rfl
      (fun _ _ => hresult.latest?_eq (Likeness.faithful_insert more)) ((hothers index).imp fun _ _ => Located.Kept.core)
  refine ⟨hresult.problems, hother, ?_⟩
  have hinner := hother path.index
  rw [if_neg (Nat.lt_irrefl _)] at hinner
  exact (SemanticModel.boundNode?_parenthesize ⟨tree', catalog, options⟩ hkind
    hplace).trans hinner

/-- The place of the node around the column in `SELECT Name FROM Customers ORDER BY 1`. -/
def aroundSelected : Path :=
  .inside (.inside (.inside (.inside .top ⟨.compilationUnit, [], []⟩)
    ⟨.orderedQuery, [], [.token .whitespace " ", .token .orderKeyword "ORDER",
      .token .whitespace " ", .token .byKeyword "BY", .token .whitespace " ",
      .node .orderByColumn [.node .literalExpression [.token .numericLiteral "1"]]]⟩)
    ⟨.selectQuery, [], [.token .whitespace " ", .node .fromClause [.token .fromKeyword "FROM",
      .token .whitespace " ", .node .namedTableReference [.token .identifier "Customers"]]]⟩)
    ⟨.selectClause, [.token .selectKeyword "SELECT", .token .whitespace " "], []⟩

/-- The node around the column. -/
def selectedColumn : Layer :=
  ⟨.expressionSelectColumn, [], []⟩

/-- Parentheses around a selected column change neither problems nor bound nodes. -/
theorem model_parenthesize_selectedColumn :
    let path := Path.inside aroundSelected selectedColumn
    let name := Element.node .nameExpression [.token .identifier "Name"]
    Kind.nameExpression.parentheses? = some .parenthesizedExpression ∧
      selectedColumn.kind.looksAt name = false ∧ (path.fill name).ElseFilled ∧
      (SyntaxTree.mk 0 (path.fill name)).Distinct ∧
      let around := name.parenthesize .parenthesizedExpression
      let model := ((Analysis.mk ⟨0, path.fill name⟩ (Catalog.sales 0).1 {}).model 100).1
      let model' := ((Analysis.mk ⟨1, path.fill around⟩ (Catalog.sales 0).1 {}).model 100).1
      model'.diagnostics.map Diagnostic.problem = model.diagnostics.map Diagnostic.problem ∧
        (∀ index, model'.boundNode? ⟨1, if index < path.index then index else index + 1⟩ =
          model.boundNode? ⟨0, index⟩) ∧
        model'.boundNode? ⟨1, path.index⟩ = model.boundNode? ⟨0, path.index⟩ := by
  intro path name
  have hkind : Kind.nameExpression.parentheses? = some .parenthesizedExpression := rfl
  have hlooks : selectedColumn.kind.looksAt name = false := by decide
  have hfilled : (path.fill name).ElseFilled := by decide +kernel
  have hdistinct : (SyntaxTree.mk 0 (path.fill name)).Distinct := by decide +kernel
  exact ⟨hkind, hlooks, hfilled, hdistinct, model_parenthesize hkind hlooks hfilled 0 1 hdistinct _ _ _⟩

/-- The place behind the label of `CASE WHEN TRUE THEN 1`, in front of an `ELSE` without text. -/
def beforeEmptyElse : Path :=
  .inside (.inside .top ⟨.compilationUnit, [], []⟩) ⟨.caseExpression,
    [.token .caseKeyword "CASE", .node .caseLabel [.token .whenKeyword "WHEN",
      .node .literalExpression [.token .trueKeyword "TRUE"], .token .thenKeyword "THEN",
      .node .literalExpression [.token .numericLiteral "1"]]],
    [.token .elseKeyword "", .token .endKeyword "END"]⟩

/-- **Parentheses in front of an empty `ELSE`** are not transparent: a name without text there starts where
the `ELSE` ends, and is read as what stands behind it, but parentheses start before it. -/
theorem model_parenthesize_emptyElse :
    let name := Element.node .nameExpression [.token .identifier ""]
    let around := name.parenthesize .parenthesizedExpression
    let model := ((Analysis.mk ⟨0, beforeEmptyElse.fill name⟩ (Catalog.empty 0).1 {}).model 1).1
    let model' := ((Analysis.mk ⟨1, beforeEmptyElse.fill around⟩ (Catalog.empty 0).1 {}).model 1).1
    Kind.nameExpression.parentheses? = some .parenthesizedExpression ∧
      Kind.caseExpression.looksAt name = false ∧
      (SyntaxTree.mk 0 (beforeEmptyElse.fill name)).Distinct ∧
        model'.diagnostics.map Diagnostic.problem ≠ model.diagnostics.map Diagnostic.problem := by
  intro name around model model'
  have hreported : model.diagnostics.length = 1 := by decide +kernel
  have hsilent : model'.diagnostics.length = 0 := by decide +kernel
  have hdistinct : (SyntaxTree.mk 0 (beforeEmptyElse.fill name)).Distinct := by decide +kernel
  refine ⟨rfl, rfl, hdistinct, fun h => ?_⟩
  have hlength := congrArg List.length h
  rw [List.length_map, List.length_map, hreported, hsilent] at hlength
  cases hlength

end Analysis

end QuerySemantics
