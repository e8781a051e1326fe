import QuerySemantics.Catalog.Sample
import QuerySemantics.Proofs.Binding.Behind
import QuerySemantics.Proofs.Draft.Combined
import QuerySemantics.Proofs.Model.Wrapping

/-!
# Sides of a set operation

The sides of a set operation are bound in one pass, with one supply of identities and one memory of
members. Neither of them notices the other: each says of its nodes what it says alone, and reports what
it reports alone.

## Main definitions

* `SemanticModel.Same`: two models say the same of two nodes.
* `SemanticModel.Holds`: a model says of the nodes of another one what that one says.

## Main results

* `SemanticModel.holds_of_records`: models with the same records of a query say the same of its nodes.
* `SemanticModel.model_combined`: the sides of a set operation are independent.
-/

set_option autoImplicit false

namespace QuerySemantics

open Binding

/-! ## Records of twins -/

namespace Binding

variable {setting : SteadySetting} {pairing : Pairing} {count offset : Nat} {records others : List Record}

/-- Twins of records that are moved are those of the same nodes moved. -/
theorem info_twin (h : Twin setting pairing (records.map (Record.shift count offset)) others) :
    others.map Record.info = records.map fun record => record.info.shift count offset := by
  have hinfo : others.map Record.info = (records.map (Record.shift count offset)).map Record.info :=
    Twin.map_eq (fun {_ _} h => Record.Twins.info h) h
  rw [hinfo, List.map_map]
  rfl

/-- **Looking a node up** among twins of moved records, where it is known by what the records that are
moved are known by. -/
theorem find?_twin (known known' : Nat → Bool)
    (h : Twin setting pairing (records.map (Record.shift count offset)) others)
    (hknown : ∀ record ∈ records, known' (record.info.index + count) = known record.info.index) :
    Twin setting pairing ((records.find? (known ·.info.index)).map Record.node)
      ((others.find? (known' ·.info.index)).map Record.node) := by
  have hrelated : List.Forall₂
      (fun record other => Record.Twins setting pairing (record.shift count offset) other) records
        others := List.forall₂_map_left_iff.1 h
  clear h
  induction hrelated with
  | nil => exact .none
  | @cons record other _ _ h _ ih =>
    obtain ⟨hown, hrest⟩ := List.forall_mem_cons.1 hknown
    have hindex : known' other.info.index = known record.info.index := by
      rw [h.info]
      exact hown
    rw [List.find?_cons, List.find?_cons, hindex]
    cases known record.info.index with
    | true => exact .some h.node
    | false => exact ih hrest

/-- Twins of moved records are of nodes of a tree moved, if the records are of nodes of the tree. -/
theorem node_twin {part : Located} (h : Twin setting pairing (records.map (Record.shift count offset)) others)
    (hnodes : ∀ record ∈ records, ∃ node ∈ part.nodes, node.info? = some record.info) :
    ∀ other ∈ others, ∃ node ∈ (part.shift count offset).nodes, node.info? = some other.info := by
  intro other hother
  have hinfo : other.info ∈ records.map fun record => record.info.shift count offset :=
    info_twin h ▸ List.mem_map_of_mem hother
  obtain ⟨record, hrecord, hinfo⟩ := List.mem_map.1 hinfo
  obtain ⟨node, hnode, hown⟩ := hnodes record hrecord
  refine ⟨node.shift count offset, ?_, ?_⟩
  · rw [Located.nodes_shift]
    exact List.mem_map_of_mem hnode
  · rw [Located.info?_shift, hown, Option.map_some, hinfo]

/-- **Looking a node up** among records of others in front and behind. -/
theorem find?_between (known : Nat → Bool) {front back : List Record}
    (hfront : ∀ record ∈ front, known record.info.index = false)
    (hback : ∀ record ∈ back, known record.info.index = false) :
    (front ++ (records ++ back)).find? (known ·.info.index) = records.find? (known ·.info.index) := by
  have hnone : ∀ {others : List Record}, (∀ record ∈ others, known record.info.index = false) →
      others.find? (known ·.info.index) = none := fun h =>
    List.find?_eq_none.2 fun record hrecord hknown => Bool.noConfusion ((h record hrecord).symm.trans hknown)
  rw [List.find?_append, List.find?_append, hnone hfront, hnone hback, Option.none_or, Option.or_none]

end Binding

namespace SemanticModel

/-! ## The same of nodes -/

/-- **The same of two nodes**: they are bound to nodes of one kind, have one type, and refer to and
declare symbols that go together. -/
structure Same (setting : SteadySetting) (pairing : Pairing) (inner outer : SemanticModel)
    (node node' : NodeRef) : Prop where
  kind : (outer.boundNode? node').map Bound.Node.kind = (inner.boundNode? node).map Bound.Node.kind
  type : outer.type? node' = inner.type? node
  symbol : Twin setting pairing (inner.symbol? node) (outer.symbol? node')
  declared : Twin setting pairing (inner.declared? node) (outer.declared? node')

/-- **Holding**: of each node of the model `inner` but the root, the model `outer` says the same,
`count` numbers and `offset` bytes further on. The identities of the symbols go together one to one. -/
def Holds (setting : SteadySetting) (outer inner : SemanticModel) (count offset : Nat) : Prop :=
  ∃ pairing : Pairing, pairing.OneToOne ∧ ∀ index node, index ≠ 0 →
    inner.analysis.tree.node? index = some node →
      outer.analysis.tree.node? (index + count) = some (node.shift count offset) ∧
        Same setting pairing inner outer ⟨inner.analysis.tree.id, index⟩
          ⟨outer.analysis.tree.id, index + count⟩

/-- The types of the output columns of the query that a model is about. -/
def columnTypes (model : SemanticModel) : List SqlType :=
  ((model.main?.bind Bound.Node.query?).map fun it => it.output.map QueryColumn.type).getD []

/-- **Combining**: the model `whole` of the set operation `own` reports what the models of its sides
report, the right one moved, and then only shape mismatches of the operation itself. Of the nodes of
both sides it says the same. -/
structure Combines (setting : SteadySetting) (whole first second : SemanticModel) (between : String)
    (count : Nat) (own : NodeInfo) : Prop where
  text : whole.analysis.tree.text = first.analysis.tree.text ++ between ++ second.analysis.tree.text
  operation : ∃ children, whole.analysis.tree.node? 1 = some (.node own children)
  kind : own.kind = .combinedQuery
  diagnostics : whole.diagnostics = first.diagnostics ++
    second.diagnostics.map (Diagnostic.shift (first.analysis.tree.text ++ between).utf8ByteSize) ++
      shapeMismatches own.span first.columnTypes second.columnTypes
  mismatches : ∀ it ∈ shapeMismatches own.span first.columnTypes second.columnTypes,
    it.span = own.span ∧ it.problem.category = .shapeMismatch
  left : whole.Holds setting first 1 0
  right : whole.Holds setting second count (first.analysis.tree.text ++ between).utf8ByteSize

variable {setting : SteadySetting} {pairing : Pairing}

/-- Models that bind nodes to twins say the same of them. -/
theorem Same.of_twin {inner outer : SemanticModel} {node node' : NodeRef}
    (h : Twin setting pairing (inner.boundNode? node) (outer.boundNode? node')) :
    Same setting pairing inner outer node node' := by
  have hnode : Option.Rel (Bound.Node.Twins setting pairing) (inner.boundNode? node)
      (outer.boundNode? node') := h
  have hexpr : Option.Rel (Bound.Expr.Twins setting pairing) (inner.boundExpr? node)
      (outer.boundExpr? node') := hnode.bind fun _ _ h => h.expr
  exact ⟨hnode.map_eq fun _ _ h => h.kind, hexpr.map_eq fun _ _ h => h.type.1,
    hexpr.bind fun _ _ h => h.symbol, hnode.bind fun _ _ h => h.declared⟩

section Moved

variable {inner outer : Analysis} {next next' : SymbolId} {query : Draft.Query} {count offset index : Nat}
  {node : Located}

/-- The tree of a query is a unit with just the query inside. -/
theorem exists_root_query (hinner : inner.tree.element = query.element.unit) :
    ∃ info : NodeInfo, info.index = 0 ∧ inner.tree.root = .node info [(query.spaced.locate 1 0).1] := by
  rw [SyntaxTree.root, hinner, Draft.Query.unit_element]
  exact ⟨_, rfl, rfl⟩

/-- The nodes of the tree of a query are its root and those of the query. -/
theorem mem_nodes_query (hinner : inner.tree.element = query.element.unit) (hindex : index ≠ 0)
    (hnode : inner.tree.node? index = some node) : node ∈ (query.spaced.locate 1 0).1.nodes := by
  obtain ⟨hmem, hnumber⟩ := SyntaxTree.node?_eq_some_iff.1 hnode
  obtain ⟨info, hinfo, hroot⟩ := exists_root_query hinner
  rw [hroot, Located.nodes, List.mem_cons, Located.nodesOf, Located.nodesOf, List.append_nil] at hmem
  rcases hmem with rfl | hmem
  · exact absurd ((Option.some.inj hnumber).symm.trans hinfo) hindex
  · exact hmem

/-- The nodes of a query have numbers but that of the root in its tree. -/
theorem node?_query (hinner : inner.tree.element = query.element.unit) {info : NodeInfo}
    (hnode : node ∈ (query.spaced.locate 1 0).1.nodes) (hinfo : node.info? = some info) :
    info.index ≠ 0 ∧ inner.tree.node? info.index = some node := by
  obtain ⟨own, -, hroot⟩ := exists_root_query hinner
  have hnumber : node.index? = some info.index := by rw [Located.index?, hinfo, Option.map_some]
  have hbounds := (query.spaced.placed_locate 1 0).index_bounds hnode hnumber
  refine ⟨by omega, SyntaxTree.node?_eq_some_iff.2 ⟨?_, hnumber⟩⟩
  rw [hroot]
  exact Located.mem_nodes_of_child (List.mem_singleton_self _) hnode

/-- **A query alone and the query somewhere else**: its nodes are moved. -/
theorem node?_moved (hinner : inner.tree.element = query.element.unit)
    (hnodes : ∀ part ∈ ((query.spaced.locate 1 0).1.shift count offset).nodes, part ∈ outer.tree.root.nodes)
    (hindex : index ≠ 0) (hnode : inner.tree.node? index = some node) :
    outer.tree.node? (index + count) = some (node.shift count offset) := by
  have hnumber := (SyntaxTree.node?_eq_some_iff.1 hnode).2
  obtain ⟨own, hown, rfl⟩ := Option.map_eq_some_iff.1 hnumber
  refine SyntaxTree.node?_eq_some_iff.2 ⟨hnodes _ ?_, ?_⟩
  · rw [Located.nodes_shift]
    exact List.mem_map_of_mem (mem_nodes_query hinner hindex hnode)
  · rw [Located.index?, Located.info?_shift, hown]
    rfl

section Records

variable {front new back : List Record} (hinner : inner.tree.element = query.element.unit)
  (hnodes : ∀ part ∈ ((query.spaced.locate 1 0).1.shift count offset).nodes, part ∈ outer.tree.root.nodes)
  (hrecords : ∀ record ∈ (inner.model next).1.result.records,
    ∃ part ∈ (query.spaced.locate 1 0).1.nodes, part.info? = some record.info)
  (htwin : Twin setting pairing ((inner.model next).1.result.records.map (Record.shift count offset)) new)
  (hlogged : (outer.model next').1.result.records = front ++ (new ++ back))
  (hothers : ∀ other ∈ front ++ back, ∀ part ∈ ((query.spaced.locate 1 0).1.shift count offset).nodes,
    ∀ info, part.info? = some info → ¬ outer.tree.Same other.info.index info.index)
include hinner hnodes hrecords htwin hlogged hothers

/-- **Looking up a node of a query** that stands alone in the tree of the one analysis, and somewhere in the
tree of the other. What else is recorded there is of nodes that coincide with none of the query. -/
theorem boundNode?_moved (hindex : index ≠ 0) (hnode : inner.tree.node? index = some node) :
    Twin setting pairing ((inner.model next).1.result.boundNode? index)
      ((outer.model next').1.result.boundNode? (index + count)) := by
  obtain ⟨info, hmem, hinfo, rfl⟩ := SyntaxTree.exists_info_of_node? hnode
  have hmoved := node?_moved hinner hnodes hindex hnode
  have hpart : node.shift count offset ∈ ((query.spaced.locate 1 0).1.shift count offset).nodes := by
    rw [Located.nodes_shift]
    exact List.mem_map_of_mem (mem_nodes_query hinner hindex hnode)
  have hnone : ∀ other ∈ front ++ back,
      (outer.model next').1.result.isSame other.info.index (info.index + count) = false := by
    intro other hother
    rw [Bool.eq_false_iff, Ne]
    exact fun hsame => hothers other hother _ hpart _ (by rw [Located.info?_shift, hinfo, Option.map_some])
      ((isSame_iff outer _ _ _).1 hsame)
  obtain ⟨hfront, hback⟩ := List.forall_mem_append.1 hnone
  have hknown : ∀ record ∈ (inner.model next).1.result.records,
      (outer.model next').1.result.isSame (record.info.index + count) (info.index + count) =
        (inner.model next).1.result.isSame record.info.index info.index := by
    intro record hrecord
    obtain ⟨part, hpart, hown⟩ := hrecords record hrecord
    obtain ⟨hne, hpart?⟩ := node?_query hinner hpart hown
    have hpartMoved := node?_moved hinner hnodes hne hpart?
    rw [Bool.eq_iff_iff, isSame_iff, isSame_iff]
    exact SyntaxTree.Same.shift_iff (by rw [hpart?]; exact hpartMoved) (by rw [hnode]; exact hmoved)
  have hfound : (outer.model next').1.result.boundNode? (info.index + count) = (new.find? fun record =>
      (outer.model next').1.result.isSame record.info.index (info.index + count)).map Record.node := by
    rw [BindingResult.boundNode?, hlogged]
    exact congrArg (Option.map Record.node)
      (find?_between ((outer.model next').1.result.isSame · (info.index + count)) hfront hback)
  rw [hfound]
  exact find?_twin ((inner.model next).1.result.isSame · info.index)
    ((outer.model next').1.result.isSame · (info.index + count)) htwin hknown

/-- **Models with the same records of a query** say the same of its nodes. -/
theorem holds_of_records (hone : pairing.OneToOne) :
    Holds setting (outer.model next').1 (inner.model next).1 count offset := by
  refine ⟨pairing, hone, fun index node hindex hnode => ?_⟩
  have hnode : inner.tree.node? index = some node := hnode
  have hmoved := node?_moved hinner hnodes hindex hnode
  refine ⟨hmoved, .of_twin ?_⟩
  obtain ⟨info, hmem, hinfo, rfl⟩ := SyntaxTree.exists_info_of_node? hnode
  have hmovedInfo : (node.shift count offset).info? = some (info.shift count offset) := by
    rw [Located.info?_shift, hinfo, Option.map_some]
  obtain ⟨core, hbelow, -, hcore⟩ := exists_core hmem hinfo
  have hpart := Located.mem_nodes_trans hbelow (mem_nodes_query hinner hindex hnode)
  obtain ⟨own, -, hown, hindexCore⟩ := SyntaxTree.exists_info_of_node? hcore
  change Twin setting pairing ((inner.model next).1.boundNode? (inner.tree.ref info))
    ((outer.model next').1.boundNode? (outer.tree.ref (info.shift count offset)))
  rw [boundNode?_ref hmem hinfo, boundNode?_ref (SyntaxTree.node?_eq_some_iff.1 hmoved).1 hmovedInfo,
    Located.coreInfo_shift]
  exact boundNode?_moved hinner hnodes hrecords htwin hlogged hothers
    (hindexCore ▸ (node?_query hinner hpart hown).1) hcore

end Records

end Moved

/-! ## Both sides -/

/-- **The model of a query alone** is what binding the query comes to. -/
theorem exists_alone (query : Draft.Query) (id : Nat) (catalog : Catalog) (options : Options)
    (next : SymbolId) {read : Nat → Nat → Ast.Query}
    (hread : ∀ index offset, (query.spaced.locate index offset).1.piece = .query (read index offset))
    (hcore : ∀ info, (read 1 0).core ≠ .parenthesized info none) :
    ∃ own, let done := Binding.query (read 1 0) (.root options catalog next) (.begun own catalog next)
      (query.model id catalog options next).result.records = done.2.records ∧
        (∀ record ∈ done.2.records,
          ∃ part ∈ (query.spaced.locate 1 0).1.nodes, part.info? = some record.info) ∧
        (query.model id catalog options next).diagnostics = done.2.diagnostics ∧
        (query.model id catalog options next).columnTypes =
          done.1.query.output.map QueryColumn.type := by
  obtain ⟨own, hroot⟩ := query.unit_reads hread
  let analysis : Analysis := ⟨(Draft.Whole.query query).tree id, catalog, options⟩
  have hroot : analysis.tree.root.piece = .unit ⟨own, some (read 1 0), none⟩ := hroot
  have hresult := bind_unit hroot next
  have hmain := main?_eq_query hroot hcore next
  refine ⟨own, congrArg BindingResult.records hresult, exists_node_of_record (hread 1 0) rfl,
    congrArg BindingResult.diagnostics hresult, ?_⟩
  change (((analysis.model next).1.main?.bind Bound.Node.query?).map fun it =>
    it.output.map QueryColumn.type).getD [] = _
  rw [hmain]
  rfl

/-- **Both sides in one pass**: what the pass over a set operation records and reports of its sides is
what the passes over the sides alone do. -/
theorem sides_twin (setting : SteadySetting) {read read' : Nat → Nat → Ast.Query} {left right : Draft.Query}
    (hread : ∀ index offset, (left.spaced.locate index offset).1.piece = .query (read index offset))
    (hread' : ∀ index offset, (right.spaced.locate index offset).1.piece = .query (read' index offset))
    (ownLeft ownRight info own : NodeInfo) (operator : Option SetOperator)
    (next nextLeft nextRight : SymbolId) (count offset : Nat) :
    let env := Env.root setting.options setting.catalog next
    let first := query (read 1 0) (.root setting.options setting.catalog nextLeft)
      (.begun ownLeft setting.catalog nextLeft)
    let second := query (read' 1 0) (.root setting.options setting.catalog nextRight)
      (.begun ownRight setting.catalog nextRight)
    let whole := query (.combined own (some (read (1 + 1) 0)) operator (some (read' (1 + count) offset)))
      env (.begun info setting.catalog next)
    whole.2.diagnostics = first.2.diagnostics ++
        second.2.diagnostics.map (Diagnostic.shift offset) ++ shapeMismatches own.span
          (first.1.query.output.map QueryColumn.type) (second.1.query.output.map QueryColumn.type) ∧
      ∃ (record : Record) (new new' : List Record) (pairing pairing' : Pairing),
        record.info = own ∧ whole.2.records = record :: (new' ++ new) ∧
        pairing.OneToOne ∧ Twin setting pairing (first.2.records.map (Record.shift 1 0)) new ∧
        pairing'.OneToOne ∧
          Twin setting pairing' (second.2.records.map (Record.shift count offset)) new' := by
  intro env first second whole
  let inLeft := query (read (1 + 1) 0) env (.begun info setting.catalog next)
  let inRight := query (read' (1 + count) offset) env inLeft.2
  obtain ⟨hanswered, hreported, pairing, hone, hquery, new, hnew, hrecords⟩ :
      setting.catalog.Answered setting.bases inLeft.2.members ∧
        inLeft.2.diagnostics = [] ++ first.2.diagnostics.map (Diagnostic.shift 0) ∧
        ∃ pairing : Pairing, pairing.OneToOne ∧ Twin setting pairing first.1.query inLeft.1.query ∧
          ∃ new, inLeft.2.records = new ++ [] ∧
            Twin setting pairing (first.2.records.map (Record.shift 1 0)) new :=
    query_behind hread ownLeft nextLeft next (Catalog.answered_empty _ _)
  obtain ⟨-, hreported', pairing', hone', hquery', new', hnew', hrecords'⟩ :
      setting.catalog.Answered setting.bases inRight.2.members ∧
        inRight.2.diagnostics =
          inLeft.2.diagnostics ++ second.2.diagnostics.map (Diagnostic.shift offset) ∧
        ∃ pairing : Pairing, pairing.OneToOne ∧ Twin setting pairing second.1.query inRight.1.query ∧
          ∃ new, inRight.2.records = new ++ inLeft.2.records ∧
            Twin setting pairing (second.2.records.map (Record.shift count offset)) new :=
    query_behind hread' ownRight nextRight next hanswered
  obtain ⟨⟨record, hrecord, hlogged⟩, hmismatches⟩ :
      (∃ record : Record, record.info = own ∧ whole.2.records = record :: inRight.2.records) ∧
        whole.2.diagnostics = inRight.2.diagnostics ++ shapeMismatches own.span
          (inLeft.1.query.output.map QueryColumn.type) (inRight.1.query.output.map QueryColumn.type) :=
    combined_ends setting.unlimited own _ _ operator
  have htypes : ∀ {pairing : Pairing} {it other : Bound.Query}, Twin setting pairing it other →
      other.output.map QueryColumn.type = it.output.map QueryColumn.type := fun h =>
    Twin.map_eq (fun {_ _} h => (QueryColumn.Twins.type h).1) (Bound.Query.Twins.output h)
  have hunmoved : ∀ it : Diagnostic, Diagnostic.shift 0 it = it := fun _ => rfl
  rw [List.nil_append, List.map_congr_left fun it _ => hunmoved it, List.map_id'] at hreported
  rw [List.append_nil] at hnew
  rw [hreported', hreported, htypes hquery, htypes hquery'] at hmismatches
  rw [hnew', hnew] at hlogged
  exact ⟨hmismatches, record, new, new', pairing, pairing', hrecord, hlogged, hone, hrecords, hone',
    hrecords'⟩

/-! ## The tree of a set operation -/

/-- A node of an element that is moved begins within the text of the element. -/
theorem start_of_mem_shift {element : Element} {count offset : Nat} {node : Located}
    (h : node ∈ ((element.locate 1 0).1.shift count offset).nodes) :
    offset ≤ node.start ∧ node.start ≤ offset + element.length := by
  rw [Located.nodes_shift] at h
  obtain ⟨base, hbase, rfl⟩ := List.mem_map.1 h
  obtain ⟨_, _, hplaced, -, -, -, hstop⟩ := (element.placed_locate 1 0).placed_of_mem hbase
  have hlength := element.stop_locate 1 0
  have hle := hplaced.le
  rw [Located.start_shift]
  omega

section Tree

variable {tree : SyntaxTree} {info own : NodeInfo} {leaves : List Token} {first second : Element}
  {count offset : Nat} (hroot : tree.root = .node info [.node own ((first.locate 1 0).1.shift 1 0 ::
    (leaves.map Located.token ++ [(second.locate 1 0).1.shift count offset]))])
include hroot

/-- The operation is a node of the tree. -/
theorem mem_operation : Located.node own ((first.locate 1 0).1.shift 1 0 ::
    (leaves.map Located.token ++ [(second.locate 1 0).1.shift count offset])) ∈ tree.root.nodes := by
  rw [hroot]
  exact Located.mem_nodes_of_child (List.mem_singleton_self _) (Located.mem_nodes_self rfl)

/-- The nodes of the left side are nodes of the tree. -/
theorem mem_left {node : Located} (h : node ∈ ((first.locate 1 0).1.shift 1 0).nodes) :
    node ∈ tree.root.nodes :=
  Located.mem_nodes_trans (Located.mem_nodes_of_child List.mem_cons_self h) (mem_operation hroot)

/-- The nodes of the right side are nodes of the tree. -/
theorem mem_right {node : Located} (h : node ∈ ((second.locate 1 0).1.shift count offset).nodes) :
    node ∈ tree.root.nodes := by
  have hchild : (second.locate 1 0).1.shift count offset ∈ (Located.node own
      ((first.locate 1 0).1.shift 1 0 :: (leaves.map Located.token ++
        [(second.locate 1 0).1.shift count offset]))).children :=
    List.mem_cons_of_mem _ (List.mem_append_right _ (List.mem_singleton_self _))
  exact Located.mem_nodes_trans (Located.mem_nodes_of_child hchild h) (mem_operation hroot)

/-- **No nodes of both sides coincide**, if there is text between the sides. -/
theorem not_same_sides (hbetween : first.length < offset) {node node' : Located} {left right : NodeInfo}
    (hnode : node ∈ ((first.locate 1 0).1.shift 1 0).nodes) (hleft : node.info? = some left)
    (hnode' : node' ∈ ((second.locate 1 0).1.shift count offset).nodes)
    (hright : node'.info? = some right) : ¬ tree.Same left.index right.index := by
  intro hsame
  have hstart := hsame.start_eq
    (SyntaxTree.node?_eq_some_iff.2 ⟨mem_left hroot hnode, congrArg (Option.map _) hleft⟩)
    (SyntaxTree.node?_eq_some_iff.2 ⟨mem_right hroot hnode', congrArg (Option.map _) hright⟩)
  have := start_of_mem_shift hnode
  have := start_of_mem_shift hnode'
  omega

/-- **The operation coincides with no other node**, if there is text between the sides. -/
theorem alone_operation (hbetween : first.length < offset) : tree.Alone own.index := by
  refine SyntaxTree.alone_of_text (mem_operation hroot) rfl ?_
  obtain ⟨_, _, ⟨-, -, hchildren⟩, -⟩ := tree.placed_root.placed_of_mem (mem_operation hroot)
  obtain ⟨_, _, -, -, -, hfirst, -⟩ := hchildren.placed_of_mem List.mem_cons_self
  obtain ⟨_, _, hright, -, -, -, hstop⟩ := hchildren.placed_of_mem
    (List.mem_cons_of_mem _ (List.mem_append_right _ (List.mem_singleton_self _)))
  have hstart := (first.placed_locate 1 0).le.2.1
  have hstart' := (second.placed_locate 1 0).le.2.1
  have hle := hright.le.2.2
  rw [Located.start_shift] at hfirst hle
  have hown : (Located.node own ((first.locate 1 0).1.shift 1 0 :: (leaves.map Located.token ++
      [(second.locate 1 0).1.shift count offset]))).start = own.start := rfl
  omega

/-- The operation coincides with no node of a side. -/
theorem not_same_operation (hbetween : first.length < offset) {child node : Located} {part : NodeInfo}
    (hchild : child ∈ (first.locate 1 0).1.shift 1 0 ::
      (leaves.map Located.token ++ [(second.locate 1 0).1.shift count offset]))
    (hnode : node ∈ child.nodes) (hpart : node.info? = some part) : ¬ tree.Same own.index part.index := by
  intro hsame
  obtain ⟨_, _, hplaced, -⟩ := tree.placed_root.placed_of_mem (mem_operation hroot)
  exact hplaced.index_ne hchild hnode hpart (alone_operation hroot hbetween _ hsame)

end Tree

/-- **The located tree of a set operation** and what it is read as. -/
theorem exists_sides (left right : Draft.Query) (operator : SetOperator) {read read' : Nat → Nat → Ast.Query}
    (hread : ∀ index offset, (left.spaced.locate index offset).1.piece = .query (read index offset))
    (hread' : ∀ index offset, (right.spaced.locate index offset).1.piece = .query (read' index offset)) :
    ∃ info own leaves count operator', own.kind = .combinedQuery ∧ own.index = 1 ∧
      let root := Located.node info [.node own ((left.spaced.locate 1 0).1.shift 1 0 ::
        (List.map Located.token leaves ++
          [(right.spaced.locate 1 0).1.shift count (left.offsetOfRight operator)]))]
      (((Draft.Query.combined left operator right).element.unit).locate 0 0).1 = root ∧
        root.piece = .unit ⟨info, some (.combined own (some (read (1 + 1) 0)) operator'
          (some (read' (1 + count) (left.offsetOfRight operator)))), none⟩ := by
  obtain ⟨info, own, leaves, hinfo, hkind, hindex, hlocate⟩ := left.locate_combined right operator
  -- the right side stands behind all nodes of the left one
  obtain ⟨count, hcount⟩ : ∃ count, (left.spaced.locate 2 0).2 = 1 + count :=
    ⟨(left.spaced.locate 2 0).2 - 1, by have := (left.spaced.placed_locate 2 0).le; omega⟩
  rw [hcount] at hlocate
  obtain ⟨operator', hpiece⟩ := Draft.Query.combined_reads leaves hinfo hkind (hread 2 0)
    (hread' (1 + count) (left.offsetOfRight operator))
  have hleft : (left.spaced.locate 2 0).1 = (left.spaced.locate 1 0).1.shift 1 0 :=
    congrArg Prod.fst (left.spaced.locate_shift 1 0 1 0)
  have hright : (right.spaced.locate (1 + count) (left.offsetOfRight operator)).1 =
      (right.spaced.locate 1 0).1.shift count (left.offsetOfRight operator) := by
    rw [← Nat.zero_add (left.offsetOfRight operator), right.spaced.locate_shift, Nat.zero_add]
  rw [hleft, hright] at hlocate hpiece
  exact ⟨info, own, leaves, count, operator', hkind, hindex, hlocate, hpiece⟩

/-- **The sides of a set operation are independent.** -/
theorem model_combined (left right : Draft.Query) (operator : SetOperator) (id idLeft idRight : Nat)
    (catalog : Catalog) (options : Options) (next nextLeft nextRight : SymbolId)
    {bases : String → List String} (hsteady : catalog.Steady bases)
    (hunlimited : options.maxDiagnostics = none) :
    ∃ (between : String) (count : Nat) (own : NodeInfo),
      Combines ⟨options, catalog, bases, hsteady, hunlimited⟩
        ((Draft.Query.combined left operator right).model id catalog options next)
        (left.model idLeft catalog options nextLeft) (right.model idRight catalog options nextRight)
        between count own := by
  let setting : SteadySetting := ⟨options, catalog, bases, hsteady, hunlimited⟩
  let analysis : Analysis := ⟨(Draft.Whole.query (.combined left operator right)).tree id, catalog, options⟩
  let first := left.model idLeft catalog options nextLeft
  let second := right.model idRight catalog options nextRight
  obtain ⟨read, hreadLeft, hcoreLeft⟩ := left.exists_read
  obtain ⟨read', hreadRight, hcoreRight⟩ := right.exists_read
  obtain ⟨ownLeft, hrecordsLeft, hnodesLeft, hreportedLeft, htypesLeft⟩ :=
    exists_alone left idLeft catalog options nextLeft hreadLeft (hcoreLeft 1 0)
  obtain ⟨ownRight, hrecordsRight, hnodesRight, hreportedRight, htypesRight⟩ :=
    exists_alone right idRight catalog options nextRight hreadRight (hcoreRight 1 0)
  obtain ⟨info, own, leaves, count, operator', hkind, hindex, hroot, hpiece⟩ :=
    exists_sides left right operator hreadLeft hreadRight
  have hroot : analysis.tree.root = _ := hroot
  have hresult := bind_unit (hroot ▸ hpiece : analysis.tree.root.piece = _) next
  obtain ⟨hreported, record, new, new', pairing, pairing', hrecord, hlogged, hone, htwin, hone', htwin'⟩ :=
    sides_twin setting hreadLeft hreadRight ownLeft ownRight info own operator' next nextLeft nextRight
      count (left.offsetOfRight operator)
  have hlogged : (analysis.model next).1.result.records = record :: (new' ++ new) :=
    (congrArg BindingResult.records hresult).trans hlogged
  have hbetween := left.length_lt_offsetOfRight operator
  have hnew := node_twin htwin hnodesLeft
  have hnew' := node_twin htwin' hnodesRight
  have hleft : (analysis.model next).1.Holds setting first 1 0 := by
    have hlogged : (analysis.model next).1.result.records = (record :: new') ++ (new ++ []) := by
      rw [hlogged, List.append_nil, List.cons_append]
    refine holds_of_records rfl (fun _ => mem_left hroot) (hrecordsLeft ▸ hnodesLeft)
      (hrecordsLeft ▸ htwin) hlogged ?_ hone
    intro other hother part hpart info hinfo
    rw [List.append_nil, List.mem_cons] at hother
    rcases hother with rfl | hother
    · exact hrecord ▸ not_same_operation hroot hbetween List.mem_cons_self hpart hinfo
    · obtain ⟨node, hnode, hown⟩ := hnew' other hother
      exact fun hsame => not_same_sides hroot hbetween hpart hinfo hnode hown hsame.symm
  have hright : (analysis.model next).1.Holds setting second count (left.offsetOfRight operator) := by
    refine holds_of_records rfl (fun _ => mem_right hroot) (hrecordsRight ▸ hnodesRight)
      (hrecordsRight ▸ htwin') (show _ = [record] ++ (new' ++ new) from hlogged) ?_ hone'
    intro other hother part hpart info hinfo
    rcases List.mem_cons.1 hother with rfl | hother
    · exact hrecord ▸ not_same_operation hroot hbetween
        (List.mem_cons_of_mem _ (List.mem_append_right _ (List.mem_singleton_self _))) hpart hinfo
    · obtain ⟨node, hnode, hown⟩ := hnew other hother
      exact not_same_sides hroot hbetween hnode hown hpart hinfo
  have hoperation : analysis.tree.node? 1 = some (.node own _) :=
    SyntaxTree.node?_eq_some_iff.2 ⟨mem_operation hroot, congrArg some hindex⟩
  have hdiagnostics : (analysis.model next).1.diagnostics = first.diagnostics ++
      second.diagnostics.map (Diagnostic.shift (left.offsetOfRight operator)) ++
        shapeMismatches own.span first.columnTypes second.columnTypes := by
    have hwhole : (analysis.model next).1.diagnostics = _ :=
      (congrArg BindingResult.diagnostics hresult).trans hreported
    rw [hwhole, hreportedLeft, hreportedRight, htypesLeft, htypesRight]
  exact ⟨Element.textOf (left.between operator), count, own, left.text_combined right operator,
    ⟨_, hoperation⟩, hkind, hdiagnostics, fun _ => category_of_mem_shapeMismatches, hleft, hright⟩

/-! ## An example -/

/-- The sales catalog is steady, though it makes the length of strings anew at each question. -/
theorem steady_sales : (Catalog.sales 0).1.Steady fun _ => [] := by
  obtain ⟨distance, scale, hmethods, hdistance, hscale⟩ : ∃ distance scale : Method,
      (Catalog.sales 0).1.methods.entries.map Prod.snd = [.fixed [distance, scale]] ∧
        distance.returns = .float64 ∧ scale.returns = .host Catalog.point := ⟨_, _, rfl, rfl, rfl⟩
  obtain ⟨x, y, hproperties, hx, hy⟩ : ∃ x y : Property,
      (Catalog.sales 0).1.properties.entries.map Prod.snd =
        [.fixed [x, y], .fresh [⟨"Length", .int32⟩]] ∧ x.type = .float64 ∧ y.type = .float64 :=
    ⟨_, _, rfl, rfl, rfl⟩
  have hmethod : ∀ type, ∃ members, ((Catalog.sales 0).1.methods.lookup? type).getD .nothing =
      .fixed members ∧ ∀ it ∈ members, it.returns.Settled fun _ => [] := by
    intro type
    rcases (Catalog.sales 0).1.methods.getD_lookup? type with h | h
    · exact ⟨[], h, fun _ hit => absurd hit List.not_mem_nil⟩
    · rw [hmethods, List.mem_singleton] at h
      refine ⟨_, h, List.forall_mem_cons.2 ⟨?_, List.forall_mem_singleton.2 ?_⟩⟩
      · rw [hdistance]
        trivial
      · rw [hscale]
        rfl
  have hproperty : ∀ type, (∃ members, ((Catalog.sales 0).1.properties.lookup? type).getD .nothing =
      .fixed members ∧ ∀ it ∈ members, it.type.Settled fun _ => []) ∨
        ((Catalog.sales 0).1.properties.lookup? type).getD .nothing = .fresh [⟨"Length", .int32⟩] := by
    intro type
    rcases (Catalog.sales 0).1.properties.getD_lookup? type with h | h
    · exact .inl ⟨[], h, fun _ hit => absurd hit List.not_mem_nil⟩
    · rw [hproperties, List.mem_cons, List.mem_singleton] at h
      refine h.imp_left fun h => ⟨_, h, List.forall_mem_cons.2 ⟨?_, List.forall_mem_singleton.2 ?_⟩⟩
      · rw [hx]
        trivial
      · rw [hy]
        trivial
  have htables : ∀ table ∈ (Catalog.sales 0).1.tables, ∀ column ∈ table.columns,
      column.type.Settled fun _ => [] := by decide +kernel
  have hfunctions : ∀ it ∈ (Catalog.sales 0).1.functions, it.returns.Settled fun _ => [] := by
    decide +kernel
  have haggregates : ∀ it ∈ (Catalog.sales 0).1.aggregates,
      it.signature.declared.Settled fun _ => [] := by decide +kernel
  have hvariables : ∀ it ∈ (Catalog.sales 0).1.hostVariables, it.type.Settled fun _ => [] := by
    decide +kernel
  have htypes : ∀ it ∈ (Catalog.sales 0).1.hostTypes, it.bases = [] := by decide +kernel
  refine ⟨htables, hfunctions, haggregates, hvariables, htypes, fun type next next' => ?_,
    fun type next next' => ?_, fun type next _ => ?_, fun type next _ => ?_⟩
  · obtain ⟨members, h, -⟩ := hmethod type
    rw [Registry.methods, h]
    exact List.forall₂_same.2 fun it _ => Method.Alike.refl it
  · rw [Registry.properties]
    rcases hproperty type with ⟨members, h, -⟩ | h <;> rw [h]
    · exact List.forall₂_same.2 fun it _ => Property.Alike.refl it
    · exact .cons ⟨rfl, rfl, rfl⟩ .nil
  · obtain ⟨members, h, hsettled⟩ := hmethod type
    rw [Registry.methods, h]
    exact hsettled
  · rw [Registry.properties]
    rcases hproperty type with ⟨members, h, hsettled⟩ | h <;> rw [h]
    · exact hsettled
    · exact List.forall_mem_singleton.2 trivial

/-- The lengths of the names of all customers. -/
def nameLengths : Draft.Query :=
  .select false none [.value (.property (.name "Name") "Length") none] [.byName "Customers" none] none []
    none

/-- The lengths of the notes of all orders, and a column that is not there. -/
def noteLengths : Draft.Query :=
  .select false none [.value (.property (.name "Notes") "Length") none, .value (.name "Missing") none]
    [.byName "Orders" none] none [] none

/-- The union of two queries has the diagnostics of the first, then those of the second. -/
theorem model_combined_lengths :
    (Catalog.sales 0).1.Steady (fun _ => []) ∧ (noteLengths.model 2 (Catalog.sales 0).1 {} 300).diagnostics.length = 1 ∧
    ∃ between count own, Combines ⟨{}, (Catalog.sales 0).1, fun _ => [], steady_sales, rfl⟩
      ((Draft.Query.combined nameLengths .union noteLengths).model 0 (Catalog.sales 0).1 {} 100)
      (nameLengths.model 1 (Catalog.sales 0).1 {} 200) (noteLengths.model 2 (Catalog.sales 0).1 {} 300)
      between count own :=
  ⟨steady_sales, by decide +kernel,
    model_combined nameLengths noteLengths .union 0 1 2 (Catalog.sales 0).1 {} 100 200 300 steady_sales rfl⟩

end SemanticModel

end QuerySemantics
