import QuerySemantics.Catalog.Sample
import QuerySemantics.Proofs.Binding.CrossJoin
import QuerySemantics.Proofs.Model.SetOperation
import QuerySemantics.Proofs.Tree.Insertion

/-!
# Commas and cross joins

A comma between two table references of a `FROM` clause means the same as `CROSS JOIN`: the same problems
are reported, and all other nodes are bound to twins. The node of the join is the only one that is new.

## Main definitions

* `Element.adjoined`: two elements with tokens between them.
* `Element.joined`: the join of two elements.
* `Insertion.join`: what a join in place of a comma moves.

## Main results

* `Located.differs_joined`, `Path.differs_joined`: the trees are read alike.
* `Analysis.model_crossJoin`: analyses of a tree with a comma, and of the tree with a cross join.
-/

set_option autoImplicit false

namespace QuerySemantics

open Binding

/-! ## Joining two elements -/

namespace Element

/-- Tokens, one behind the other. -/
def tokens (words : List (Kind × String)) : List Element :=
  words.map fun word => .token word.1 word.2

/-- **Two elements with tokens between them.** -/
def adjoined (left right : Element) (words : List (Kind × String)) : List Element :=
  left :: (tokens words ++ [right])

/-- Two elements with tokens between them take as many bytes as all of them do. -/
theorem lengthOf_adjoined (left right : Element) (words : List (Kind × String)) :
    lengthOf (adjoined left right words) = left.length + (lengthOf (tokens words) + right.length) := by
  rw [adjoined, lengthOf, lengthOf_append, lengthOf, lengthOf, Nat.add_zero]

/-- **The join of two elements**, with the tokens between them. -/
def joined (left right : Element) (words : List (Kind × String)) : Element :=
  .node .joinedTableReference (adjoined left right words)

/-- Tokens take no numbers. -/
theorem locateAll_tokens (words : List (Kind × String)) (index start : Nat) :
    ∃ leaves : List Token, locateAll (tokens words) index start = (leaves.map Located.token, index) ∧
      leaves.map Token.kind = words.map Prod.fst := by
  induction words generalizing start with
  | nil => exact ⟨[], rfl, rfl⟩
  | cons word rest ih =>
    obtain ⟨leaves, hleaves, hkinds⟩ := ih (start + word.2.utf8ByteSize)
    refine ⟨⟨word.1, word.2, start⟩ :: leaves, ?_, congrArg (word.1 :: ·) hkinds⟩
    rw [tokens, List.map_cons, locateAll_cons]
    dsimp only [locate, length]
    rw [← tokens, hleaves]
    rfl

/-- **Locating two elements with tokens between them.** -/
theorem locateAll_adjoined (left right : Element) (words : List (Kind × String)) (index start : Nat) :
    let first := left.locate index start
    let second := right.locate first.2 (start + left.length + lengthOf (tokens words))
    ∃ leaves : List Token, locateAll (adjoined left right words) index start =
        (first.1 :: (leaves.map Located.token ++ [second.1]), second.2) ∧
      leaves.map Token.kind = words.map Prod.fst := by
  intro first second
  obtain ⟨leaves, hleaves, hkinds⟩ := locateAll_tokens words first.2 (start + left.length)
  refine ⟨leaves, ?_, hkinds⟩
  rw [adjoined, locateAll_cons]
  dsimp only
  rw [locateAll_append, hleaves]
  rfl

end Element

/-- Where an offset is if `gap'` bytes stand behind `stop` in place of `gap` ones. -/
def Joined (stop gap gap' offset offset' : Nat) : Prop :=
  offset ≤ stop ∧ offset' = offset ∨ stop + gap ≤ offset ∧ offset' + gap = offset + gap'

/-- Offsets that correspond to one offset are one. -/
theorem Joined.inj {stop gap gap' start start' last last' : Nat} (h' : 0 < gap')
    (hstart : Joined stop gap gap' start start') (hlast : Joined stop gap gap' last last')
    (heq : last' = start') : last = start := by
  unfold Joined at hstart hlast
  omega

/-- An offset corresponds to one offset. -/
theorem Joined.functional {stop gap gap' start start' last last' : Nat} (h : 0 < gap)
    (hstart : Joined stop gap gap' start start') (hlast : Joined stop gap gap' last last')
    (heq : last = start) : last' = start' := by
  unfold Joined at hstart hlast
  omega

/-- **The insertion of a join** with the number `index`, whose left side ends at `stop`. -/
def Insertion.join (index stop : Nat) {gap gap' : Nat} (h : 0 < gap) (h' : 0 < gap') : Insertion where
  index := index
  place := Joined stop gap gap'
  size _ := True
  follows_iff _ _ hfirst hstop hlast := by
    unfold Joined at hfirst hstop hlast
    omega

/-! ## Reading -/

/-- Kinds of nodes that are read as table references. -/
def Kind.isTableReference : Kind → Bool
  | .namedTableReference | .derivedTableReference | .joinedTableReference
  | .parenthesizedTableReference => true
  | _ => false

namespace Piece

/-- A node of a kind of table reference is read as a table reference. -/
theorem exists_table_of_ofNode {info : NodeInfo} (pieces : List Piece)
    (h : info.kind.isTableReference = true) : ∃ it, ofNode info pieces = .table it := by
  unfold Kind.isTableReference at h
  unfold ofNode
  split at h <;> simp_all

/-- The table references among two of them with tokens between. -/
theorem tables_adjoined (left right : Ast.TableRef) (leaves : List Token) :
    (Piece.table left :: (leaves.map Piece.token ++ [.table right])).filterMap table? =
      [left, right] := by
  have hleaves : (leaves.map Piece.token).filterMap table? = [] := by
    rw [List.filterMap_map]
    exact List.filterMap_eq_nil_iff.2 fun _ _ => rfl
  rw [List.filterMap_cons, List.filterMap_append, hleaves]
  rfl

/-- **Reading a `FROM` clause.** -/
theorem ofNode_fromClause {info : NodeInfo} {pieces : List Piece} (h : info.kind = .fromClause) :
    ofNode info pieces = .fromClause (.mk info (pieces.filterMap table?)) := by
  unfold ofNode
  rw [h]

/-- **Reading a cross join.** -/
theorem ofNode_cross {info : NodeInfo} {left right : Ast.TableRef} {leaves : List Token}
    (hkind : info.kind = .joinedTableReference) (hcross : .crossKeyword ∈ leaves.map Token.kind) :
    ofNode info (.table left :: (leaves.map Piece.token ++ [.table right])) =
      .table (.joined info (some left) .cross (some right) none) := by
  let pieces := Piece.table left :: (leaves.map Piece.token ++ [.table right])
  have htables : pieces.filterMap table? = [left, right] := tables_adjoined left right leaves
  have htokens : pieces.filterMap token? = leaves := by
    rw [List.filterMap_cons_none rfl, List.filterMap_append, List.filterMap_map]
    exact (List.append_nil _).trans List.filterMap_some
  have hkindOf : joinKind pieces = .cross := by
    obtain ⟨leaf, hleaf, hleafKind⟩ := List.mem_map.1 hcross
    have hfound : hasToken .crossKeyword pieces = true := by
      rw [hasToken, tokenOf?, htokens, List.find?_isSome]
      exact ⟨leaf, hleaf, beq_iff_eq.2 hleafKind⟩
    rw [joinKind, if_pos hfound]
  have hcondition : pieces.findSome? (condition? .joinCondition) = none := by
    rw [List.findSome?_eq_none_iff]
    intro piece hpiece
    rcases List.mem_cons.1 hpiece with rfl | hpiece
    · rfl
    rcases List.mem_append.1 hpiece with hpiece | hpiece
    · obtain ⟨leaf, -, rfl⟩ := List.mem_map.1 hpiece
      rfl
    · rw [List.mem_singleton.1 hpiece]
      rfl
  unfold ofNode
  rw [hkind]
  change Piece.table (.joined info (some left) (joinKind pieces) (pieces.filterMap table?)[1]?
    (pieces.findSome? (condition? .joinCondition))) = _
  rw [htables, hkindOf, hcondition]
  rfl

end Piece

/-! ## Trees -/

namespace Located

variable {c : Congruence}

/-- Pieces that correspond hold table references that do. -/
theorem tables_strict {parts parts' : List Located}
    (h : List.Forall₂ (Piece.Strict c.toCorrespondence) (pieces parts) (pieces parts')) :
    List.Forall₂ c.table ((pieces parts).filterMap Piece.table?) ((pieces parts').filterMap Piece.table?) :=
  List.rel_filterMap (fun _ _ hpiece => hpiece.table?) h

/-- What is alike to a table reference is a table reference that corresponds. -/
theorem Alike.exists_table {part part' : Located} {it : Ast.TableRef}
    (h : part.Alike c.toLikeness part') (hit : part.piece = .table it) :
    ∃ it', part'.piece = .table it' ∧ c.table it it' := by
  have hpiece : part.piece.Strict c.toCorrespondence part'.piece := h.strict
  rw [hit] at hpiece
  revert hpiece
  generalize part'.piece = piece'
  intro hpiece
  cases hpiece with
  | table htable => exact ⟨_, rfl, htable⟩

/-- The pieces of two table references with tokens between them. -/
theorem pieces_adjoined {left right : Located} {first second : Ast.TableRef} (leaves : List Token)
    (hleft : left.piece = .table first) (hright : right.piece = .table second) :
    pieces (left :: (leaves.map Located.token ++ [right])) =
      .table first :: (leaves.map Piece.token ++ [.table second]) := by
  rw [pieces_eq_map, List.map_cons, List.map_append, List.map_map, hleft, List.map_singleton, hright]
  rfl

end Located

section Trees

variable {catalog : Catalog} {hcatalog : catalog.Reliable} {options : Options} {more : Insertion}

/-- No kept node has the number of the new one. -/
theorem Insertion.number_ne (more : Insertion) (index : Nat) : more.number index ≠ more.index := by
  unfold Insertion.number
  split <;> omega

/-- The new node corresponds to none. -/
theorem Insertion.index_ne (more : Insertion) {info info' : NodeInfo}
    (h : (Likeness.insert more).info info info') : info'.index ≠ more.index :=
  h.2.1.trans_ne (more.number_ne info.index)

/-- Comparing passes over trees one of which has one more node. -/
def Binding.PassComparison.insert (hcatalog : catalog.Reliable) (options : Options) (more : Insertion) :
    PassComparison :=
  .beside hcatalog options more.index_ne

/-- The nodes of two trees with tokens between them. -/
theorem Located.nodesOf_adjoined (left right : Located) (leaves : List Token) :
    nodesOf (left :: (leaves.map Located.token ++ [right])) = left.nodes ++ right.nodes := by
  have hleaves : nodesOf (leaves.map Located.token) = [] := by
    induction leaves with
    | nil => rfl
    | cons leaf rest ih => exact ih
  rw [nodesOf, nodesOf_append, hleaves, List.nil_append, nodesOf, nodesOf, List.append_nil]

/-- **A `FROM` clause with two adjacent entries** is read like the one with their cross join. -/
theorem Located.differs_joined {info info' join : NodeInfo} {front back back' : List Located}
    {left left' right right' : Located} {leaves leaves' : List Token} {length : Nat}
    (hinfo : (Likeness.insert more).info info info') (hclause : info.kind = .fromClause)
    (hfront : List.Forall₂ (Alike (.insert more)) front front)
    (hback : List.Forall₂ (Alike (.insert more)) back back')
    (hleft : left.Alike (.insert more) left') (hright : right.Alike (.insert more) right')
    (hleftTable : ∃ it, left.piece = .table it) (hrightTable : ∃ it, right.piece = .table it)
    (hjoin : join.kind = .joinedTableReference) (hplace : join.index = more.index)
    (hcross : .crossKeyword ∈ leaves'.map Token.kind)
    (hlength : length ≤ Element.lengthOf (elementsOf (left :: (leaves.map Located.token ++ [right])))) :
    let new := node join (left' :: (leaves'.map Located.token ++ [right']))
    (node info (front ++ ((left :: (leaves.map Located.token ++ [right])) ++ back))).Differs
      (parallelForms (.insert hcatalog options more)) length (node info' (front ++ ([new] ++ back'))) new := by
  intro new
  let c := parallelForms (.insert hcatalog options more)
  obtain ⟨first, hfirstPiece⟩ := hleftTable
  obtain ⟨second, hsecondPiece⟩ := hrightTable
  obtain ⟨first', hfirstPiece', hfirst⟩ := Alike.exists_table (c := c) hleft hfirstPiece
  obtain ⟨second', hsecondPiece', hsecond⟩ := Alike.exists_table (c := c) hright hsecondPiece
  have hnew : new.piece = .table (.joined join (some first') .cross (some second') none) := by
    change Piece.ofNode join (pieces _) = _
    rw [pieces_adjoined leaves' hfirstPiece' hsecondPiece', Piece.ofNode_cross hjoin hcross]
  have htables : ∀ {front middle back : List Located}, (pieces (front ++ (middle ++ back))).filterMap
      Piece.table? = (pieces front).filterMap Piece.table? ++
        ((pieces middle).filterMap Piece.table? ++ (pieces back).filterMap Piece.table?) := by
    intro front middle back
    simp only [pieces_eq_map, List.map_append, List.filterMap_append]
  have hclause' : info'.kind = .fromClause := hinfo.1.trans hclause
  refine differs_of_inner (c := c) _ _ hinfo ?_ hfront hback ?_ ⟨hlength, Nat.le_refl _⟩
  · change Piece.Strict _ (Piece.ofNode info (pieces _)) (Piece.ofNode info' (pieces _))
    rw [Piece.ofNode_fromClause hclause, Piece.ofNode_fromClause hclause', htables, htables,
      pieces_adjoined leaves hfirstPiece hsecondPiece, Piece.tables_adjoined, pieces_eq_map [new],
      List.map_singleton, hnew]
    have hsource : Ast.FromClause.InParallel (.beside hcatalog options more.index_ne) (.mk info _)
        (.mk info' _) := .cross hplace (tables_strict (pieces_strict (c := c) hfront)) hfirst hsecond
      (tables_strict (pieces_strict (c := c) hback))
    exact .fromClause hsource
  · have hsides : List.Forall₂ (Kept (.insert more) length new) (nodesOf [left, right])
        (nodesOf [left', right']) := kept_nodesOf (.cons hleft (.cons hright .nil))
    have hnodes : nodesOf [new] = new :: (left'.nodes ++ right'.nodes) := by
      rw [← nodesOf_adjoined _ _ leaves']
      exact List.append_nil _
    simp only [nodesOf, List.append_nil] at hsides
    rw [nodesOf_adjoined, hnodes]
    exact .here hsides

/-- **A join in place of what stands between two elements** moves all that stands behind it. -/
theorem Element.moves_joined (left right : Element) {between words : List (Kind × String)}
    (hbetween : 0 < lengthOf (tokens between)) (hwords : 0 < lengthOf (tokens words))
    (first start : Nat) :
    let more := Insertion.join first (start + left.length) hbetween hwords
    let behind := (left.locate first start).2
    let behind' := (left.locate (first + 1) start).2
    (left.locate first start).1.Alike (.insert more) (left.locate (first + 1) start).1 ∧
      (right.locate behind (start + left.length + lengthOf (tokens between))).1.Alike (.insert more)
        (right.locate behind' (start + left.length + lengthOf (tokens words))).1 ∧
      Moves more first start (adjoined left right between) [joined left right words] := by
  intro more behind behind'
  obtain ⟨hleft, hnext⟩ := left.locate_insert more first (first + 1) start start
    (.inr ⟨rfl, Nat.le_refl _⟩) (fun offset hoffset => .inl ⟨by omega, rfl⟩) fun _ _ _ => trivial
  have hbehind : first ≤ behind := (left.placed_locate _ _).le.1
  obtain ⟨hright, hlast⟩ := right.locate_insert more behind behind'
    (start + left.length + lengthOf (tokens between)) (start + left.length + lengthOf (tokens words))
    (.inr ⟨by omega, hbehind⟩) (fun offset _ => .inr ⟨by omega, by omega⟩) fun _ _ _ => trivial
  obtain ⟨leaves, hlocated, -⟩ := locateAll_adjoined left right between first start
  obtain ⟨leaves', hlocated', -⟩ := locateAll_adjoined left right words (first + 1) start
  refine ⟨hleft, hright, ?_, Nat.le_refl _, ?_, fun offset hoffset => .inl ⟨by omega, rfl⟩,
    fun offset => .inr ?_⟩
  · change (locateAll (adjoined left right words) (first + 1) start).2 = _
    rw [hlocated, hlocated']
    dsimp only [behind, behind'] at hlast ⊢
    omega
  · rw [hlocated]
    exact Nat.le_trans hbehind (right.placed_locate _ _).le.1
  · change _ ∧ start + (lengthOf (adjoined left right words) + 0) + offset + _ = _
    rw [lengthOf_adjoined, lengthOf_adjoined]
    omega

/-- **A tree with two adjacent entries of a `FROM` clause, and the tree with their cross join**, are read
alike, but for the node of the join. -/
theorem Path.differs_joined (path : Path) (before after : List Element) {kind kind' : Kind}
    (parts parts' : List Element) {between words : List (Kind × String)}
    (hkind : kind.isTableReference = true) (hkind' : kind'.isTableReference = true)
    (hbetween : 0 < Element.lengthOf (Element.tokens between))
    (hwords : 0 < Element.lengthOf (Element.tokens words))
    (hcross : .crossKeyword ∈ words.map Prod.fst) :
    let left := Element.node kind parts
    let right := Element.node kind' parts'
    let place := Path.inside path ⟨.fromClause, before, after⟩
    let more := Insertion.join place.index (place.start + left.length) hbetween hwords
    let length := Element.lengthOf (left.adjoined right between)
    ((path.fill (.node .fromClause (before ++ (left.adjoined right between ++ after)))).locate 0
        0).1.Differs (parallelForms (.insert hcatalog options more)) length
      ((path.fill (.node .fromClause (before ++ ([left.joined right words] ++ after)))).locate 0 0).1
      ((left.joined right words).locate place.index place.start).1 := by
  intro left right place more length
  let c := parallelForms (.insert hcatalog options more)
  obtain ⟨hleft, hright, hmoves⟩ :=
    Element.moves_joined left right hbetween hwords place.index place.start
  obtain ⟨info, info', back, back', hlocated, hlocated', hclause, hinfo, hfront, hback, hmoves⟩ :=
    hmoves.node (c := c) rfl .fromClause fun _ _ _ => trivial
  refine path.differs_fill (c := c) rfl ?_ hmoves fun _ _ _ => trivial
  obtain ⟨leaves, hinner, -⟩ := Element.locateAll_adjoined left right between place.index place.start
  obtain ⟨leaves', hinner', hkinds⟩ :=
    Element.locateAll_adjoined left right words (place.index + 1) place.start
  obtain ⟨join, hjoin, hjoinKind, hjoinIndex⟩ : ∃ join : NodeInfo,
      ((left.joined right words).locate place.index place.start).1 = .node join
          (Element.locateAll (left.adjoined right words) (place.index + 1) place.start).1 ∧
        join.kind = .joinedTableReference ∧ join.index = place.index := ⟨_, rfl, rfl, rfl⟩
  rw [hlocated, hlocated']
  change Located.Differs c length
    (.node info (_ ++ ((Element.locateAll (left.adjoined right between) place.index
      place.start).1 ++ back)))
    (.node info' (_ ++ ((Element.locateAll [left.joined right words] place.index
      place.start).1 ++ back'))) _
  have hlength := congrArg Element.lengthOf
    (Element.elementsOf_locateAll (left.adjoined right between) place.index place.start)
  rw [hinner] at hlength
  rw [Element.locateAll_singleton, hjoin, hinner, hinner']
  exact Located.differs_joined hinfo hclause hfront hback hleft hright
    (Piece.exists_table_of_ofNode _ hkind) (Piece.exists_table_of_ofNode _ hkind') hjoinKind hjoinIndex
    (hkinds ▸ hcross) (Nat.le_of_eq hlength.symm)

end Trees

/-! ## Passes -/

/-- Passes over trees that differ go in parallel. -/
theorem Located.Differs.pass_parallel {c : PassComparison} {length : Nat} {part part' new : Located}
    (h : part.Differs (parallelForms c) length part' new) (pairing : Pairing) :
    Parallel c pairing (pass part) (pass part') := by
  obtain ⟨info, info', hpart, hpart', -⟩ := h.info
  unfold Binding.pass
  rw [hpart, hpart']
  exact (Parallel.recordScope info info').next fun _ _ => piece_parallel h.piece

/-- **Results beside each other**: corresponding nodes are bound to twins, the second result has a record of
one more node, and the same problems are reported. -/
structure BindingResult.Beside (more : Insertion) (typed : TypedCatalog) (pairing : Pairing)
    (result result' : BindingResult) : Prop where
  records : List.Forall₂ (Record.Beside (.insert more) typed pairing) result.records
    (result'.records.filter (·.info.index != more.index))
  problems : result'.diagnostics.map Diagnostic.problem = result.diagnostics.map Diagnostic.problem

/-- **Trees that differ** have results beside each other. -/
theorem BindingResult.exists_beside {catalog : Catalog} {hcatalog : catalog.Reliable}
    {options : Options} {more : Insertion} {length : Nat} {tree tree' : SyntaxTree} {new : Located}
    (h : tree.root.Differs (parallelForms (.insert hcatalog options more)) length tree'.root new)
    (next next' : SymbolId) :
    ∃ pairing : Pairing, pairing.OneToOne ∧
      Beside more catalog.anyTyped pairing (tree.bind options catalog next).1
        (tree'.bind options catalog next').1 := by
  have hstart : Abreast (.insert hcatalog options more) (fun _ _ => False) (.start (next + 1))
      (.start (next' + 1)) := ⟨bounded_nothing _ _, MemberCache.alike_empty, .nil, rfl⟩
  obtain ⟨pairing, -, -, habreast⟩ := h.pass_parallel _ ⟨next, catalog, []⟩ ⟨next', catalog, []⟩
    ⟨rfl, rfl, .nil⟩ _ _ hstart
  exact ⟨pairing, habreast.bounded.one, habreast.records, habreast.diagnostics⟩

/-- Corresponding nodes are bound to twins, if the same nodes coincide in both trees, and the new one with
none. -/
theorem BindingResult.Beside.twin {more : Insertion} {typed : TypedCatalog} {pairing : Pairing}
    {result result' : BindingResult} (h : result.Beside more typed pairing result')
    (hsame : ∀ index other, result'.isSame (more.number index) (more.number other) =
      result.isSame index other)
    (hnew : ∀ index, result'.isSame more.index (more.number index) = false) {info info' : NodeInfo}
    (hinfo : (Likeness.insert more).info info info') :
    Twin typed pairing (result.boundNode? info.index) (result'.boundNode? info'.index) := by
  -- the record of the new node is not the one that is looked for
  have hothers : result'.records.find? (result'.isSame ·.info.index info'.index) =
      (result'.records.filter (·.info.index != more.index)).find?
        (result'.isSame ·.info.index info'.index) := by
    rw [List.find?_filter]
    congr 1
    funext record
    rw [Bool.eq_iff_iff, decide_eq_true_iff, bne_iff_ne]
    refine ⟨fun hfound => ⟨fun heq => ?_, hfound⟩, And.right⟩
    rw [heq, hinfo.2.1] at hfound
    exact Bool.noConfusion ((hnew info.index).symm.trans hfound)
  have hfound : Option.Rel (Record.Beside (.insert more) typed pairing)
      (result.records.find? (result.isSame ·.info.index info.index))
      ((result'.records.filter (·.info.index != more.index)).find?
        (result'.isSame ·.info.index info'.index)) :=
    h.records.find? fun record record' hrecord => by
      rw [hrecord.info.2.1, hinfo.2.1]
      exact hsame record.info.index info.index
  unfold boundNode?
  rw [hothers]
  exact hfound.map fun _ _ hrecord => hrecord.node

/-! ## Models -/

namespace Analysis

/-- **A comma means the same as `CROSS JOIN`.** In any `FROM` clause, joining two adjacent table
references, whatever they are, leaves the reported problems as they are, and binds all other nodes to
twins: of the same kinds and types, about corresponding symbols, and with corresponding output columns.
Nodes in front of the join keep their numbers, and the others have the next ones.

**Proof sketch.** Neither side of the join sees the other, so both `FROM` clauses introduce instances that
are twins, and each form of syntax around them passes this on. The join takes one identity and is recorded
once more, which the rest of the pass does not notice. -/
theorem model_crossJoin (path : Path) (before after : List Element) {kind kind' : Kind}
    (parts parts' : List Element) {between words : List (Kind × String)}
    (hkind : kind.isTableReference = true) (hkind' : kind'.isTableReference = true)
    (hbetween : 0 < Element.lengthOf (Element.tokens between))
    (hwords : 0 < Element.lengthOf (Element.tokens words))
    (hcross : .crossKeyword ∈ words.map Prod.fst) (id id' : Nat) {catalog : Catalog}
    (hcatalog : catalog.Reliable) (options : Options) (next next' : SymbolId) :
    let left := Element.node kind parts
    let right := Element.node kind' parts'
    let listed := Element.node .fromClause (before ++ (left.adjoined right between ++ after))
    let joined := Element.node .fromClause (before ++ ([left.joined right words] ++ after))
    let place := (Path.inside path ⟨.fromClause, before, after⟩).index
    let model := ((Analysis.mk ⟨id, path.fill listed⟩ catalog options).model next).1
    let model' := ((Analysis.mk ⟨id', path.fill joined⟩ catalog options).model next').1
    model'.diagnostics.map Diagnostic.problem = model.diagnostics.map Diagnostic.problem ∧
      ∃ pairing : Pairing, pairing.OneToOne ∧ ∀ index,
        Twin catalog.anyTyped pairing (model.boundNode? ⟨id, index⟩)
          (model'.boundNode? ⟨id', if index < place then index else index + 1⟩) := by
  intro left right listed joined place model model'
  let tree : SyntaxTree := ⟨id, path.fill listed⟩
  let tree' : SyntaxTree := ⟨id', path.fill joined⟩
  let more := Insertion.join place ((Path.inside path ⟨.fromClause, before, after⟩).start + left.length)
    hbetween hwords
  have hdiffers : tree.root.Differs (parallelForms (.insert hcatalog options more)) _ tree'.root _ :=
    Path.differs_joined path before after parts parts' hkind hkind' hbetween hwords hcross
  obtain ⟨pairing, hone, hresult⟩ := BindingResult.exists_beside hdiffers next next'
  obtain ⟨hnew, hothers⟩ := hdiffers.node? rfl
  have htext : ∀ words, 0 < Element.lengthOf (Element.tokens words) →
      0 < Element.lengthOf (left.adjoined right words) := fun words h => by
    rw [Element.lengthOf_adjoined]
    omega
  have hsame : ∀ index other, tree'.Same (more.number index) (more.number other) ↔
      tree.Same index other := fun index other =>
    ⟨hdiffers.same_of_kept rfl rfl (by rw [Element.element_locate]; exact htext words hwords)
        (Joined.inj hwords),
      hdiffers.same_of_same rfl rfl (htext between hbetween) (Joined.functional hbetween)⟩
  have hapart : ∀ index, ¬ tree'.Same more.index (more.number index) := by
    intro index hindex
    refine more.number_ne index (hindex.eq_of_text hnew ?_).symm
    rw [SyntaxTree.stop_node hnew, Element.element_locate]
    exact Nat.lt_add_of_pos_right (htext words hwords)
  refine ⟨hresult.problems, pairing, hone, fun index => ?_⟩
  rw [SemanticModel.boundNode?_eq_core? ⟨tree, catalog, options⟩,
    SemanticModel.boundNode?_eq_core? ⟨tree', catalog, options⟩]
  refine SyntaxTree.core?_related (Twin catalog.anyTyped pairing) .none (fun info info' hinfo => ?_)
    ((hothers index).imp fun _ _ => Located.Kept.core)
  refine hresult.twin (fun index other => ?_) (fun index => ?_) hinfo
  · rw [Bool.eq_iff_iff, BindingResult.isSame_iff tree'.coincidences_bind,
      BindingResult.isSame_iff tree.coincidences_bind]
    exact hsame index other
  · rw [Bool.eq_false_iff, ne_eq, BindingResult.isSame_iff tree'.coincidences_bind]
    exact hapart index

/-- The place of the `FROM` clause in `SELECT * FROM Orders, Customers`. -/
def behindWildcard : Path :=
  .inside (.inside .top ⟨.compilationUnit, [], []⟩) ⟨.selectQuery,
    [.node .selectClause [.token .selectKeyword "SELECT", .token .whitespace " ",
      .node .wildcardSelectColumn [.token .star "*"]], .token .whitespace " "], []⟩

/-- Two tables with a comma, and with `CROSS JOIN`, give the same bound nodes and problems. -/
theorem model_crossJoin_ordersCustomers :
    let opening := [Element.token .fromKeyword "FROM", .token .whitespace " "]
    let left := Element.node .namedTableReference [.token .identifier "Orders"]
    let right := Element.node .namedTableReference [.token .identifier "Customers"]
    let between := [(Kind.comma, ","), (.whitespace, " ")]
    let words := [(Kind.whitespace, " "), (.crossKeyword, "CROSS"), (.whitespace, " "),
      (.joinKeyword, "JOIN"), (.whitespace, " ")]
    let listed := Element.node .fromClause (opening ++ (left.adjoined right between ++ []))
    let joined := Element.node .fromClause (opening ++ ([left.joined right words] ++ []))
    let catalog := (Catalog.sales 0).1
    let model := ((Analysis.mk ⟨0, behindWildcard.fill listed⟩ catalog {}).model 100).1
    let model' := ((Analysis.mk ⟨1, behindWildcard.fill joined⟩ catalog {}).model 200).1
    Kind.namedTableReference.isTableReference = true ∧
      0 < Element.lengthOf (Element.tokens between) ∧ 0 < Element.lengthOf (Element.tokens words) ∧
      .crossKeyword ∈ words.map Prod.fst ∧ catalog.Reliable ∧
      model'.diagnostics.map Diagnostic.problem = model.diagnostics.map Diagnostic.problem ∧
        ∃ pairing : Pairing, pairing.OneToOne ∧ ∀ index,
          Twin catalog.anyTyped pairing (model.boundNode? ⟨0, index⟩)
            (model'.boundNode? ⟨1, if index < 5 then index else index + 1⟩) := by
  intro opening left right between words listed joined catalog
  have hkind : Kind.namedTableReference.isTableReference = true := rfl
  have hbetween : 0 < Element.lengthOf (Element.tokens between) := by decide
  have hwords : 0 < Element.lengthOf (Element.tokens words) := by decide
  have hcross : .crossKeyword ∈ words.map Prod.fst := by decide
  have hcatalog : catalog.Reliable := SemanticModel.steady_sales.reliable
  exact ⟨hkind, hbetween, hwords, hcross, hcatalog, model_crossJoin behindWildcard opening [] _ _ hkind
    hkind hbetween hwords hcross 0 1 hcatalog {} 100 200⟩

end Analysis

end QuerySemantics
