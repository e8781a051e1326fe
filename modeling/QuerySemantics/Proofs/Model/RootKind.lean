import QuerySemantics.Catalog.Sample
import QuerySemantics.Proofs.Binding.Relocation
import QuerySemantics.Proofs.Draft.Wrapping
import QuerySemantics.Proofs.Model.Main

/-!
# Trees without a unit

A query or an expression may be the root of a tree itself, with no unit around it. Binding it so comes
to the same as binding the unit with just it inside, and so do the answers of the models, but for one:
which symbols are visible at a position is searched for below the root only, so that the scope that a
root query enters is not found.

## Main definitions

* `Piece.isSubject`: the pieces that a unit is about, queries and expressions.
* `Element.model`: the model of a tree that consists of an element.
* `SemanticModel.enclosing?`: the node that the search for the scope at a position finds.

## Main results

* `SemanticModel.unit_answers`: the answers with and without a unit around a query or an expression.
* `SemanticModel.lookupSymbols_ne`: they are not the same for visible symbols.
-/

set_option autoImplicit false

namespace QuerySemantics

open Binding

/-- Whether a piece is what a unit is about: a query or an expression. -/
def Piece.isSubject : Piece → Bool
  | .query _ | .expr _ => true
  | _ => false

/-- **The model of a tree** that consists of an element. -/
def Element.model (element : Element) (id : Nat) (catalog : Catalog) (options : Options)
    (next : SymbolId) : SemanticModel :=
  ((Analysis.mk ⟨id, element⟩ catalog options).model next).1

namespace SemanticModel

/-- **The node whose scope is visible** at a position: the innermost node around it, below the root,
that enters a scope. -/
def enclosing? (model : SemanticModel) (position : Nat) : Option NodeInfo :=
  model.analysis.tree.root.innermost (fun info => (model.result.scope? info.index).isSome) position

/-- **The scope that the root enters**, by itself or as what it was bound to. -/
def rootEntered (model : SemanticModel) : Scope :=
  (model.result.scope? 0).getD model.result.rootScope

variable {element : Element} {id id' : Nat} {catalog : Catalog} {options : Options} {next : SymbolId}

/-! ## The passes -/

/-- **What corresponds**: the model `unit` of a unit around the root of the model `bare` knows what the
other one knows, but for the numbers of the nodes. -/
structure Corresponds (unit bare : SemanticModel) (own info : NodeInfo) (children : List Located) :
    Prop where
  contains (index : Nat) : bare.result.contains ⟨bare.analysis.tree.id, index⟩ = true
  contains' (index : Nat) : unit.result.contains ⟨unit.analysis.tree.id, index⟩ = true
  coincidences : bare.result.coincidences = bare.analysis.tree.coincidences
  coincidences' : unit.result.coincidences = unit.analysis.tree.coincidences
  root : bare.analysis.tree.root = .node info children
  root' : unit.analysis.tree.root = .node own [(Located.node info children).shift 1 0]
  diagnostics : unit.diagnostics = bare.diagnostics
  records : unit.result.records = bare.result.records.map (Record.shift 1 0)
  rootScope : unit.result.rootScope = bare.result.rootScope
  scopes : ∃ new, bare.result.scopes = new ++ [(info, bare.result.rootScope)] ∧
    unit.result.scopes = new.map (fun entry => (entry.1.shift 1 0, entry.2)) ++
      [(own, bare.result.rootScope)]

/-- Diagnostics that are not moved. -/
theorem shift_zero (reported : List Diagnostic) : reported.map (Diagnostic.shift 0) = reported :=
  List.map_id reported

/-- **Binding a query or an expression**, and binding the unit around it. -/
theorem piece_shifted {piece piece' : Piece} {own : NodeInfo} {env : Env} {before before' : Pass}
    (hpiece : piece.isSubject = true) (hown : own.kind = .compilationUnit)
    (h : piece.Alike (Likeness.shift 1 0) piece') (hnext : before'.next = before.next)
    (hmembers : before'.members = before.members)
    (hdiagnostics : before'.diagnostics = before.diagnostics) :
    Pass.Shifted 1 0 before before' (Binding.piece piece env before).2
      (Binding.piece (.ofNode own [piece']) env before').2 := by
  rw [← shift_zero before.diagnostics] at hdiagnostics
  cases h with
  | query h =>
    simp only [Piece.ofNode, hown]
    exact (query_shift h hnext hmembers hdiagnostics).2
  | expr h =>
    simp only [Piece.ofNode, hown]
    exact (expr_shift h hnext hmembers hdiagnostics).2
  | _ => cases hpiece

/-- What the model of an element knows is what binding its root comes to. -/
theorem result_model {root : Located} {info : NodeInfo} (hroot : (element.locate 0 0).1 = root)
    (hinfo : root.info? = some info) :
    let done := (Binding.piece root.piece (.root options catalog next) (.begun info catalog next)).2
    (element.model id catalog options next).result = ⟨⟨id, info.index⟩,
      (SyntaxTree.mk id element).coincidences, ⟨next, catalog, []⟩, done.records, done.scopes,
      done.diagnostics, done.members⟩ := by
  subst hroot
  let tree : SyntaxTree := ⟨id, element⟩
  exact congrArg Prod.fst (tree.bind_eq hinfo options catalog next)

/-- A unit around a query or an expression corresponds to it. -/
theorem exists_corresponds (h : (element.locate 0 0).1.piece.isSubject = true) :
    ∃ own info children, Corresponds
      ((Element.node .compilationUnit [element]).model id' catalog options next)
      (element.model id catalog options next) own info children := by
  cases hroot : (element.locate 0 0).1 with
  | token leaf =>
    rw [hroot] at h
    cases h
  | node info children =>
    have hmoved : (element.locate 1 0).1 = (Located.node info children).shift 1 0 := by
      rw [← hroot]
      exact congrArg Prod.fst (element.locate_shift 1 0 0 0)
    obtain ⟨own, hown, hroot'⟩ : ∃ own : NodeInfo, own.kind = .compilationUnit ∧
        ((Element.node .compilationUnit [element]).locate 0 0).1 =
          .node own [(Located.node info children).shift 1 0] := by
      rw [← hmoved]
      exact ⟨_, rfl, rfl⟩
    have halike : (Located.node info children).piece.Alike (Likeness.shift 1 0)
        ((Located.node info children).shift 1 0).piece := (Located.alike_shift _).piece
    rw [hroot] at h
    have hshifted : Pass.Shifted 1 0 (.begun info catalog next) (.begun own catalog next)
        (Binding.piece (Located.node info children).piece (.root options catalog next)
          (.begun info catalog next)).2
        (Binding.piece (Located.node own [(Located.node info children).shift 1 0]).piece
          (.root options catalog next) (.begun own catalog next)).2 :=
      piece_shifted h hown halike rfl rfl rfl
    obtain ⟨-, -, ⟨made, hrecords, hrecords'⟩, ⟨new, hscopes, hscopes'⟩, hdiagnostics⟩ := hshifted
    rw [shift_zero] at hdiagnostics
    have hnil : ∀ own, (Pass.begun own catalog next).records = [] := fun _ => rfl
    rw [hnil, List.append_nil] at hrecords hrecords'
    have hcontains : ∀ (tree : SyntaxTree) index,
        (tree.bind options catalog next).1.contains ⟨tree.id, index⟩ = true := by
      intro tree index
      rw [SyntaxTree.contains_bind]
      exact beq_self_eq_true _
    refine ⟨own, info, children, hcontains ⟨id, element⟩, hcontains ⟨id', _⟩, rfl, rfl, hroot, hroot', ?_,
      ?_, ?_, new, ?_, ?_⟩
    · rw [diagnostics, diagnostics, result_model hroot' rfl, result_model hroot rfl]
      exact hdiagnostics
    all_goals rw [result_model hroot rfl]
    · rw [result_model hroot' rfl]
      exact hrecords'.trans (hrecords ▸ rfl)
    · rw [result_model hroot' rfl]
    · exact hscopes
    · rw [result_model hroot' rfl]
      exact hscopes'

namespace Corresponds

variable {unit bare : SemanticModel} {own info : NodeInfo} {children : List Located}

/-! ## Nodes that coincide -/

/-- The unit has the first number, and its nodes the next ones. -/
theorem node?_succ (h : Corresponds unit bare own info children) (index : Nat) :
    unit.analysis.tree.node? (index + 1) =
      (bare.analysis.tree.node? index).map (Located.shift 1 0) := by
  rw [SyntaxTree.node?, SyntaxTree.node?, h.root', h.root, Located.nodes, Located.nodesOf,
    Located.nodesOf, List.append_nil, List.getElem?_cons_succ, Located.nodes_shift, List.getElem?_map]

/-- **The models take the same nodes for one.** -/
theorem isSame_succ (h : Corresponds unit bare own info children) (index other : Nat) :
    unit.result.isSame (index + 1) (other + 1) = bare.result.isSame index other := by
  rw [Bool.eq_iff_iff, BindingResult.isSame_iff h.coincidences', BindingResult.isSame_iff h.coincidences]
  exact SyntaxTree.Same.shift_iff (h.node?_succ index) (h.node?_succ other)

/-- The unit coincides with no other node. -/
theorem isSame_zero (h : Corresponds unit bare own info children) (index : Nat) :
    unit.result.isSame index 0 = (index == 0) :=
  BindingResult.isSame_of_alone h.coincidences' SyntaxTree.alone_zero index

/-! ## Bound nodes -/

/-- A node is bound to the same. -/
theorem result_boundNode? (h : Corresponds unit bare own info children) (index : Nat) :
    unit.result.boundNode? (index + 1) = bare.result.boundNode? index := by
  have hindex : (fun record : Record => unit.result.isSame record.info.index (index + 1)) ∘
      Record.shift 1 0 = fun record => bare.result.isSame record.info.index index := by
    funext record
    exact h.isSame_succ record.info.index index
  rw [BindingResult.boundNode?, BindingResult.boundNode?, h.records, List.find?_map, hindex,
    Option.map_map]
  rfl

/-- The unit is not bound. -/
theorem result_boundNode?_zero (h : Corresponds unit bare own info children) :
    unit.result.boundNode? 0 = none := by
  rw [BindingResult.boundNode?, h.records, List.find?_eq_none.2, Option.map_none]
  intro record hrecord
  obtain ⟨made, -, rfl⟩ := List.mem_map.1 hrecord
  simp [h.isSame_zero, Record.shift, NodeInfo.shift]

/-- **A node is known to be bound to the same**, with parentheses looked through. -/
theorem boundNode? (h : Corresponds unit bare own info children) (index : Nat) :
    unit.boundNode? ⟨unit.analysis.tree.id, index + 1⟩ =
      bare.boundNode? ⟨bare.analysis.tree.id, index⟩ := by
  rw [SemanticModel.boundNode?, SemanticModel.boundNode?, if_pos (h.contains' _),
    if_pos (h.contains _)]
  simp only [h.node?_succ]
  cases bare.analysis.tree.node? index with
  | none => rfl
  | some part =>
    simp only [Option.map_some]
    change ((part.shift 1 0).info?.bind _) = part.info?.bind _
    rw [Located.info?_shift]
    cases part.info? with
    | none => rfl
    | some own =>
      simp only [Option.map_some, Option.bind_some, Located.coreInfo_shift]
      exact h.result_boundNode? _

/-! ## Symbols -/

/-- The unit has the first number. -/
theorem own_index (h : Corresponds unit bare own info children) : own.index = 0 := by
  have hplaced := unit.analysis.tree.placed_root
  rw [h.root'] at hplaced
  exact hplaced.1

/-- The identifier at a position has the same nodes around it, and then the unit. -/
theorem identifierAt (h : Corresponds unit bare own info children) (position : Nat) :
    unit.identifierAt position = (bare.identifierAt position).map fun found =>
      (found.1, found.2.map (Located.shift 1 0) ++ [unit.analysis.tree.root]) := by
  have htouching : unit.analysis.tree.root.touching position [] =
      (bare.analysis.tree.root.touching position []).map fun found =>
        (found.1.shift 0, found.2.map (Located.shift 1 0) ++ [unit.analysis.tree.root]) := by
    rw [← Located.touching_shift position [unit.analysis.tree.root] [], h.root, h.root']
    exact List.append_nil _
  rw [SemanticModel.identifierAt, SemanticModel.identifierAt, htouching, List.find?_map]
  rfl

/-- An identifier belongs to the same node. -/
theorem owner? (h : Corresponds unit bare own info children) (around : List Located) :
    unit.owner? (around.map (Located.shift 1 0) ++ [unit.analysis.tree.root]) =
      (bare.owner? around).map (Located.shift 1 0) := by
  have hroot : unit.owner? [unit.analysis.tree.root] = none := by
    have hbound : unit.result.boundNode? own.index = none := by
      rw [h.own_index, h.result_boundNode?_zero]
    simp [SemanticModel.owner?, h.root', Located.info?, hbound]
  have hbound : (fun part : Located => (part.info?.bind fun info =>
      unit.result.boundNode? info.index).isSome) ∘ Located.shift 1 0 =
        fun part => (part.info?.bind fun info => bare.result.boundNode? info.index).isSome := by
    funext part
    rw [Function.comp_apply, Located.info?_shift]
    cases part.info? with
    | none => rfl
    | some own => exact congrArg Option.isSome (h.result_boundNode? own.index)
  rw [SemanticModel.owner?, List.find?_append, List.find?_map, hbound, ← SemanticModel.owner?,
    ← SemanticModel.owner?, hroot, Option.or_none]

/-- Whether an identifier is the name of a table is the same. -/
theorem tableNamedBy_shift (part : Located) (identifier : Token) (node : Bound.Node) :
    tableNamedBy (part.shift 1 0) identifier node = tableNamedBy part identifier node := by
  have halike : part.piece.Alike (Likeness.shift 1 0) (part.shift 1 0).piece :=
    (Located.alike_shift _).piece
  unfold tableNamedBy
  generalize part.piece = piece, (part.shift 1 0).piece = piece' at halike
  cases halike with
  | table h =>
    cases h with
    | named hinfo hident =>
      cases hident with
      | none => rfl
      | some htoken =>
        subst htoken
        cases node with
        | table made => cases made <;> rfl
        | _ => rfl
    | _ => rfl
  | _ => rfl

/-- **An identifier refers to the same.** -/
theorem symbolAt (h : Corresponds unit bare own info children) (position : Nat) :
    unit.symbolAt position = bare.symbolAt position := by
  rw [SemanticModel.symbolAt, SemanticModel.symbolAt, h.identifierAt]
  cases bare.identifierAt position with
  | none => rfl
  | some found =>
    change ((unit.owner? _).bind _) = ((bare.owner? found.2).bind _)
    rw [h.owner?]
    cases bare.owner? found.2 with
    | none => rfl
    | some part =>
      change ((part.shift 1 0).info?.bind _) = (part.info?.bind _)
      rw [Located.info?_shift]
      cases part.info? with
      | none => rfl
      | some own =>
        change ((unit.result.boundNode? (own.index + 1)).bind _) = _
        rw [h.result_boundNode?]
        simp only [tableNamedBy_shift]
        rfl

/-! ## Scopes -/

/-- **Entered scopes**: a node below the root enters the same scope, and the root query the one that
its root was bound to. -/
theorem scope?_eq (h : Corresponds unit bare own info children) :
    (∀ index, index ≠ 0 → unit.result.scope? (index + 1) = bare.result.scope? index) ∧
      (unit.result.scope? 1).getD unit.result.rootScope = bare.rootEntered := by
  obtain ⟨new, hbare, hunit⟩ := h.scopes
  have hinfo : info.index = 0 := by
    have hplaced := bare.analysis.tree.placed_root
    rw [h.root] at hplaced
    exact hplaced.1
  have hzero : ∀ index, bare.result.isSame 0 index = (index == 0) := fun index => by
    rw [Bool.eq_iff_iff, BindingResult.isSame_iff h.coincidences, beq_iff_eq]
    exact ⟨SyntaxTree.Same.eq_zero, fun heq => .inl heq.symm⟩
  have hlater : ∀ index, unit.result.scope? (index + 1) =
      (new.find? (bare.result.isSame ·.1.index index)).map (·.2) := by
    intro index
    have hindex : (fun entry : NodeInfo × Scope => unit.result.isSame entry.1.index (index + 1)) ∘
        (fun entry : NodeInfo × Scope => (entry.1.shift 1 0, entry.2)) =
          fun entry => bare.result.isSame entry.1.index index := by
      funext entry
      exact h.isSame_succ entry.1.index index
    have hne : unit.result.isSame own.index (index + 1) = false := by
      rw [h.own_index, Bool.eq_false_iff, Ne, BindingResult.isSame_iff h.coincidences']
      exact fun hsame => Nat.succ_ne_zero index hsame.eq_zero
    have hown : [(own, bare.result.rootScope)].find? (unit.result.isSame ·.1.index (index + 1)) = none := by
      simp [hne]
    rw [BindingResult.scope?, hunit, List.find?_append, List.find?_map, hindex, hown, Option.or_none,
      Option.map_map]
    rfl
  constructor
  · intro index hindex
    rw [hlater, BindingResult.scope?, hbare, List.find?_append]
    simp [hinfo, hzero, hindex]
  · rw [rootEntered, hlater, BindingResult.scope?, hbare, List.find?_append, h.rootScope]
    cases new.find? (bare.result.isSame ·.1.index 0) <;> simp [hinfo, hzero]

/-- **The scope that is visible** at a position, if the search finds a node below the root. -/
theorem scopeAt (h : Corresponds unit bare own info children) (position : Nat) :
    unit.scopeAt position = if position < info.stop ∧ bare.enclosing? position = none
      then bare.rootEntered else bare.scopeAt position := by
  obtain ⟨hbelow, hroot⟩ := h.scope?_eq
  have hplaced := h.root ▸ bare.analysis.tree.placed_root
  obtain ⟨hindex, -, hchildren⟩ := id hplaced
  -- the walk below the root looks at the same marks
  have hmarks : Located.innermostOf (fun info =>
      (unit.result.scope? ((info.shift 1 0).index)).isSome) position children 0 =
        bare.enclosing? position := by
    rw [enclosing?, Located.innermost, h.root]
    refine Located.innermostOf_congr hchildren fun node hnode inner hinner _ _ => ?_
    obtain ⟨child, hchild, hnode⟩ := Located.mem_nodesOf.1 hnode
    have hne := hplaced.index_ne hchild hnode hinner
    rw [hindex] at hne
    exact congrArg Option.isSome (hbelow _ hne)
  have hwalk : unit.enclosing? position = if position < info.stop then
      (Located.innermostAt (fun info => (unit.result.scope? ((info.shift 1 0).index)).isSome) position
        (.node info children) 0).map (NodeInfo.shift 1 0) else none := by
    rw [← Located.innermostAt_shift (fun info => (unit.result.scope? info.index).isSome) position
      (.node info children) 0, enclosing?, Located.innermost, h.root', Located.children,
      Located.innermostOf, Located.stop_shift]
    simp [Located.innermostOf, Located.stop]
  change ((unit.enclosing? position).bind fun info => unit.result.scope? info.index).getD
    unit.result.rootScope = if _ then _ else ((bare.enclosing? position).bind fun info =>
      bare.result.scope? info.index).getD bare.result.rootScope
  rw [hwalk, Located.innermostAt, hmarks]
  cases hfound : bare.enclosing? position with
  | none =>
    by_cases hlt : position < info.stop
    · have hone : (info.shift 1 0).index = 1 := congrArg (· + 1) hindex
      simp only [hlt, and_self, if_true, hone, ← hroot]
      cases hscope : unit.result.scope? 1 with
      | none => rfl
      | some scope =>
        change (unit.result.scope? (info.shift 1 0).index).getD _ = _
        rw [hone, hscope]
    · simp only [hlt, false_and, if_false]
      exact h.rootScope
  | some found =>
    rw [enclosing?, Located.innermost, h.root, Located.children] at hfound
    obtain ⟨hmarked, hstart, hstop, node, hnode, hinner⟩ :=
      Located.exists_of_innermostOf hchildren hfound
    obtain ⟨child, hchild, hnode⟩ := Located.mem_nodesOf.1 hnode
    have hlt : position < info.stop := by
      obtain ⟨own, inner, rfl⟩ := Located.exists_info_of_mem_nodes hnode
      cases hinner
      have hmem : Located.node found inner ∈ (Located.node info children).nodes :=
        Located.mem_nodes_of_child hchild hnode
      obtain ⟨_, _, _, _, _, _, hle⟩ := hplaced.placed_of_mem hmem
      exact Nat.lt_of_lt_of_le hstop hle
    have hne := hplaced.index_ne hchild hnode hinner
    rw [hindex] at hne
    simp only [hlt, if_true, reduceCtorEq, and_false, if_false]
    change (unit.result.scope? (found.index + 1)).getD _ = (bare.result.scope? found.index).getD _
    rw [hbelow _ hne, h.rootScope]

end Corresponds

/-- **With and without a unit**: a tree that is a query or an expression, and the tree of a unit with
just it inside. The models have the same diagnostics and give the same answers about nodes and about
the symbol at a position. The visible symbols at a position are the same where the search for the scope
finds a node below the root, or where the position is not in the text; elsewhere they are what the root
query offers in the one model, and the catalog in the other. -/
theorem unit_answers (h : (element.locate 0 0).1.piece.isSubject = true) :
    let bare := element.model id catalog options next
    let unit := (Element.node .compilationUnit [element]).model id' catalog options next
    unit.diagnostics = bare.diagnostics ∧
      (∀ index, unit.boundNode? ⟨id', index + 1⟩ = bare.boundNode? ⟨id, index⟩) ∧
      (∀ position, unit.symbolAt position = bare.symbolAt position) ∧
      ∀ position, unit.lookupSymbols position =
        if position < element.length ∧ bare.enclosing? position = none then
          bare.rootEntered.visible.flatMap withColumns else bare.lookupSymbols position := by
  obtain ⟨own, info, children, hcorresponds⟩ := exists_corresponds h
  have hstop : info.stop = element.length := by
    have hroot : (element.locate 0 0).1 = .node info children := hcorresponds.root
    have hlength := element.stop_locate 0 0
    rwa [hroot, Nat.zero_add] at hlength
  refine ⟨hcorresponds.diagnostics, hcorresponds.boundNode?, hcorresponds.symbolAt, fun position => ?_⟩
  rw [lookupSymbols, hcorresponds.scopeAt, hstop]
  split <;> rfl

/-- The element of a query of one name from one table. -/
def selectedId : Element :=
  (Draft.Query.select false none [.value (.name "Id") none] [.byName "Orders" none] none []
    none).spaced

/-- A bare query and one in a unit answer alike but for the scope outside of the query. -/
theorem unit_answers_selectedId :
    let bare := selectedId.model 0 (Catalog.sales 0).1 {} 100
    let unit := (Element.node .compilationUnit [selectedId]).model 1 (Catalog.sales 0).1 {} 100
    (selectedId.locate 0 0).1.piece.isSubject = true ∧ unit.diagnostics = bare.diagnostics ∧
      unit.boundNode? ⟨1, 3 + 1⟩ = bare.boundNode? ⟨0, 3⟩ ∧ unit.symbolAt 7 = bare.symbolAt 7 ∧
      unit.lookupSymbols 7 = bare.rootEntered.visible.flatMap withColumns := by
  have hsubject : (selectedId.locate 0 0).1.piece.isSubject = true := by decide +kernel
  obtain ⟨hdiagnostics, hbound, hsymbol, hlookup⟩ := unit_answers hsubject
  refine ⟨hsubject, hdiagnostics, hbound 3, hsymbol 7, (hlookup 7).trans (if_pos ?_)⟩
  decide +kernel

/-- **Visible symbols are not the same** with and without a unit around a query. -/
theorem lookupSymbols_ne : ¬ ∀ (element : Element) (id id' : Nat) (catalog : Catalog)
    (options : Options) (next : SymbolId), (element.locate 0 0).1.piece.isSubject = true →
      ∀ position, ((Element.node .compilationUnit [element]).model id' catalog options
        next).lookupSymbols position = (element.model id catalog options next).lookupSymbols position := by
  intro h
  have hsubject : (selectedId.locate 0 0).1.piece.isSubject = true := by decide +kernel
  have hlength := congrArg List.length (h selectedId 0 1 (Catalog.sales 0).1 {} 100 hsubject 7)
  exact absurd hlength (by decide +kernel)

end SemanticModel

end QuerySemantics
