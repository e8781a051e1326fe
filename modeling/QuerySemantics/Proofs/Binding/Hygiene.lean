import QuerySemantics.Catalog.Sample
import QuerySemantics.Draft.Spacing
import QuerySemantics.Proofs.Ast.AlikeReading
import QuerySemantics.Proofs.Binding.LockstepWalk

/-!
# Hygiene of nesting

A query that binds without diagnostics in some scope binds to the same in that scope with further links
around it: what it finds by itself it finds in nearer links, and nearer links win.

There is one exception. A qualifier is looked up among the table instances of all links before it is
looked up as a value, and so an instance far out wins against a value that is near.

## Main definitions

* `Scope.inside`: a scope with further links around it.
* `Located.Captured`: further links offer a table instance under the name of a qualifier that stands
  for a value.
* `Binding.Pass.Nested`: a pass without diagnostics did the same on top of an earlier log.

## Main results

* `Binding.query_nested`: a query binds to the same inside further links that capture nothing.
* `Binding.query_captured`: it does not where a qualifier is captured, and neither where no diagnostics
  are kept.
-/

set_option autoImplicit false

namespace QuerySemantics

open Binding

/-! ## Further links -/

/-- Whether a frame defines no tables. Those around a subselect, a join side or an `ORDER BY` do not. -/
def Frame.definesNone : Frame → Bool
  | .commonTables _ => false
  | _ => true

namespace Scope

/-- **A scope with further links** around it. -/
def inside (scope : Scope) (outer : List Link) : Scope :=
  { scope with links := scope.links ++ outer }

section Nearest

variable {α : Type} (candidates : Frame → List α) (inner outer : List Link)

/-- Links without candidates have no nearest ones. -/
theorem nearest_eq_nil {links : List Link} (h : ∀ link ∈ links, candidates link.frame = []) :
    nearest candidates links = [] := by
  induction links with
  | nil => rfl
  | cons link rest ih =>
    rw [nearest, h link List.mem_cons_self]
    exact ih fun other hother => h other (List.mem_cons_of_mem _ hother)

/-- **Nearer links win**: the candidates of further ones count only where the nearer have none. -/
theorem nearest_append : nearest candidates (inner ++ outer) =
    if nearest candidates inner = [] then nearest candidates outer else nearest candidates inner := by
  induction inner with
  | nil => rfl
  | cons link rest ih =>
    rw [List.cons_append, nearest, nearest]
    split
    · exact ih
    · rename_i hfound
      rw [if_neg hfound]

/-- Further links without candidates change nothing. -/
theorem nearest_append_of_eq_nil (h : nearest candidates outer = []) :
    nearest candidates (inner ++ outer) = nearest candidates inner := by
  rw [nearest_append, h]
  split
  · exact Eq.symm ‹_›
  · rfl

end Nearest

variable (scope : Scope) (outer : List Link) (cased : Bool) (name : String)

/-- A value is the same inside further links, or there was none before. -/
theorem resolveValue_inside :
    (scope.inside outer).resolveValue cased name = scope.resolveValue cased name ∨
      scope.resolveValue cased name = .notFound := by
  by_cases hnone : nearest (·.valuesNamed cased name) scope.links = []
  · exact .inr (by rw [resolveValue, hnone]; rfl)
  · exact .inl (by rw [resolveValue, inside, nearest_append, if_neg hnone]; rfl)

/-- A table instance is the same inside further links, or there was none before but the further links
have one. -/
theorem resolveInstance_inside :
    (scope.inside outer).resolveInstance cased name = scope.resolveInstance cased name ∨
      scope.resolveInstance cased name = .notFound ∧
        ∃ link ∈ outer, link.frame.instancesNamed cased name ≠ [] := by
  by_cases hnone : nearest (·.instancesNamed cased name) scope.links = []
  · by_cases houter : ∀ link ∈ outer, link.frame.instancesNamed cased name = []
    · refine .inl ?_
      rw [resolveInstance, inside, nearest_append_of_eq_nil _ _ _ (nearest_eq_nil _ houter)]
      rfl
    · refine .inr ⟨by rw [resolveInstance, hnone]; rfl, ?_⟩
      simpa only [not_forall, exists_prop] using houter
  · exact .inl (by rw [resolveInstance, inside, nearest_append, if_neg hnone]; rfl)

/-- Common tables are the same inside links that define none. -/
theorem commonTable?_inside {outer : List Link}
    (h : ∀ link ∈ outer, link.frame.definesNone = true) :
    (scope.inside outer).commonTable? cased name = scope.commonTable? cased name := by
  have hnone : ∀ link ∈ outer, link.frame.commonTablesNamed cased name = [] := by
    intro link hlink
    have hdefines := h link hlink
    generalize link.frame = frame at hdefines
    cases frame with
    | commonTables _ => cases hdefines
    | _ => rfl
  rw [commonTable?, inside, nearest_append_of_eq_nil _ _ _ (nearest_eq_nil _ hnone)]
  rfl

end Scope

/-! ## A tree is like itself -/

/-- Whether a node was bound to a property of a value. -/
def Bound.Node.isProperty : Bound.Node → Bool
  | .expr (.property _ _) => true
  | _ => false

/-- The token of the qualifier, of a name with one. -/
def Located.qualifier? : Located → Option Token
  | .node info children =>
    if info.kind = .propertyAccessExpression then
      ((Piece.expression? (pieces children)).bind Binding.qualifier?).map (·.2)
    else none
  | .token _ => none

/-- **Likeness of a tree to itself**: nodes and tokens correspond to themselves. -/
def Likeness.refl (root : Located) : Likeness where
  info info info' := info' = info
  token leaf leaf' := leaf' = leaf
  qualifies info token :=
    ∃ node ∈ root.nodes, node.info? = some info ∧ node.qualifier? = some token
  kind_eq := fun h => h ▸ rfl
  token_kind_eq := fun h => h ▸ rfl
  token_text_eq := fun h => h ▸ rfl
  follows_iff := fun _ htoken hinfo => by rw [htoken, hinfo]

namespace Located

variable {root : Located}

mutual

/-- The parts of a tree are like themselves. -/
theorem alike_refl : ∀ part : Located, (∀ node ∈ part.nodes, node ∈ root.nodes) →
    part.Alike (.refl root) part
  | .token _, _ => .token rfl
  | .node info children, h =>
    .node rfl
      (fun hkind node token hqualifier => ⟨_, h _ List.mem_cons_self, rfl, by
        rw [qualifier?, if_pos hkind, hqualifier]
        rfl⟩)
      (alike_reflAll children fun node hnode => h node (List.mem_cons_of_mem _ hnode))

/-- The parts of a tree are like themselves, one by one. -/
theorem alike_reflAll : ∀ parts : List Located, (∀ node ∈ nodesOf parts, node ∈ root.nodes) →
    List.Forall₂ (Alike (.refl root)) parts parts
  | [], _ => .nil
  | part :: rest, h =>
    .cons (alike_refl part fun node hnode => h node (List.mem_append_left _ hnode))
      (alike_reflAll rest fun node hnode => h node (List.mem_append_right _ hnode))

end

/-- **Captured**: further links offer a table instance under the name of a qualifier that stands for a
value, so that the name was bound to a property of it. -/
def Captured (part : Located) (cased : Bool) (records : List Record) (outer : List Link) : Prop :=
  ∃ node ∈ part.nodes, ∃ token ∈ node.qualifier?,
    (∃ record ∈ records, node.info? = some record.info ∧ record.node.isProperty = true) ∧
      ∃ link ∈ outer, link.frame.instancesNamed cased token.ident ≠ []

/-- The qualifiers in the part are compared with what the links offer. -/
instance (part : Located) (cased : Bool) (records : List Record) (outer : List Link) :
    Decidable (part.Captured cased records outer) :=
  inferInstanceAs (Decidable (∃ node ∈ part.nodes, ∃ token ∈ node.qualifier?, _))

end Located

namespace Binding

/-! ## Nested passes -/

/-- A record made inside further links. -/
def Record.inside (outer : List Link) (record : Record) : Record :=
  { record with scope := record.scope.inside outer }

/-- The state of a pass with an empty log. -/
def Pass.blank (pass : Pass) : Pass :=
  { pass with records := [], scopes := [], diagnostics := [] }

/-- A pass begins blank. -/
theorem Pass.blank_start (next : SymbolId) : (Pass.start next).blank = .start next :=
  rfl

/-- **Nested pass**: what the pass that ended in the state `alone` recorded, the one that ended in the
state `nested` recorded inside further links, on top of the log of `before`. It reported nothing. -/
structure Pass.Nested (outer : List Link) (before alone nested : Pass) : Prop where
  next : nested.next = alone.next
  members : nested.members = alone.members
  records : nested.records = alone.records.map (Record.inside outer) ++ before.records
  scopes : nested.scopes =
    alone.scopes.map (fun entry => (entry.1, entry.2.inside outer)) ++ before.scopes
  diagnostics : nested.diagnostics = before.diagnostics

/-- **The coupling of a pass with one inside further links.** The first pass is silent, and of the
qualifiers that stand for values it admits those under whose names the further links have no instance. -/
def Coupling.inside (root : Located) (options : Options) (outer : List Link) (before : Pass)
    (hlimit : options.maxDiagnostics ≠ some 0)
    (houter : ∀ link ∈ outer, link.frame.definesNone = true) : Coupling where
  toLikeness := .refl root
  options := options
  options' := options
  lift scope := scope.inside outer
  span span span' := span' = span
  records records records' := records' = records.map (Record.inside outer) ++ before.records
  scopes scopes scopes' :=
    scopes' = scopes.map (fun entry => (entry.1, entry.2.inside outer)) ++ before.scopes
  diagnostics reported reported' := reported = [] → reported' = before.diagnostics
  silent := True
  admits info node := node.isProperty = true → ∀ token, (Likeness.refl root).qualifies info token →
    ∀ link ∈ outer, link.frame.instancesNamed options.caseSensitive token.ident = []
  cased_eq := options.compare_eq
  span_info := fun h => by rw [h]
  span_token := fun h => by rw [h]
  catalog_lift _ := rfl
  lift_push _ _ _ := rfl
  commonTable?_lift scope name := scope.commonTable?_inside _ name houter
  resolveValue_lift scope name :=
    (scope.resolveValue_inside outer _ name).imp_right fun hnone => ⟨trivial, hnone⟩
  resolveInstance_lift scope {_ leaf} := fun hqualifies =>
    (scope.resolveInstance_inside outer _ leaf.ident).imp_right
      fun ⟨hnone, link, hlink, hnamed⟩ => ⟨trivial, hnone, fun _ _ hadmits =>
        hnamed (hadmits rfl leaf hqualifies link hlink)⟩
  records_cons := fun node scope hinfo hrecords => by rw [hinfo, hrecords]; rfl
  scopes_cons := fun scope hinfo hscopes => by rw [hinfo, hscopes]; rfl
  diagnostics_keep _ := fun _ _ hnil => absurd hnil (Options.keep_ne_nil hlimit _ _)
  limit _ := hlimit

/-- **Hygiene of nesting.** Where a query binds without diagnostics, it binds to the same inside further
links, and again without diagnostics, if the further links define no tables and capture no qualifier.
At least one diagnostic has to be kept, since otherwise nothing is known from their absence.

**Proof sketch.** The two passes go in lockstep. A name that is found is found in a link that both
scopes have, in front of the further ones. A name that is not found is reported, and that did not
happen. -/
theorem query_nested (part : Located) {options : Options} (hlimit : options.maxDiagnostics ≠ some 0)
    (scope : Scope) {outer : List Link} (houter : ∀ link ∈ outer, link.frame.definesNone = true)
    (before : Pass)
    (hclean : (optionalQuery part.piece.query? ⟨options, scope⟩ before.blank).2.diagnostics = [])
    (hfree : ¬part.Captured options.caseSensitive
      (optionalQuery part.piece.query? ⟨options, scope⟩ before.blank).2.records outer) :
    let alone := optionalQuery part.piece.query? ⟨options, scope⟩ before.blank
    let nested := optionalQuery part.piece.query? ⟨options, scope.inside outer⟩ before
    nested.1.query = alone.1.query ∧ nested.1.inner = alone.1.inner.inside outer ∧
      Pass.Nested outer before alone.2 nested.2 := by
  have halike : part.piece.Alike (.refl part) part.piece :=
    (Located.alike_refl part fun _ hnode => hnode).piece
  have hlockstep : Lockstep (.inside part options outer before hlimit houter) scope
      (optionalQuery part.piece.query?) (optionalQuery part.piece.query?) _ :=
    optionalQuery_lockstep part.piece.query? halike.query?
  have hadmits : ∀ record ∈ (optionalQuery part.piece.query? ⟨options, scope⟩ before.blank).2.records,
      (Coupling.inside part options outer before hlimit houter).admits record.info record.node := by
    rintro record hrecord hproperty token ⟨node, hnode, hinfo, hqualifier⟩ link hlink
    by_contra hnamed
    exact hfree ⟨node, hnode, token, hqualifier, ⟨record, hrecord, hinfo, hproperty⟩, link, hlink,
      hnamed⟩
  obtain ⟨-, hcoupled⟩ := hlockstep before.blank ⟨hadmits, fun _ => hclean⟩
  obtain ⟨hvalue, hcoupled⟩ := hcoupled before ⟨rfl, rfl, rfl, rfl, fun _ => rfl⟩
  have hquery := congrArg ScopedQuery.query hvalue
  have hinner := congrArg ScopedQuery.inner hvalue
  exact ⟨hquery, hinner, hcoupled.next, hcoupled.members, hcoupled.records, hcoupled.scopes,
    hcoupled.diagnostics hclean⟩

/-! ## Selects among customers -/

/-- The scope of the sales catalog. -/
def salesScope : Scope :=
  ⟨0, (Catalog.sales 1).1, []⟩

/-- A link that offers an instance of the table of customers. -/
def customersAs (label : String) : Link :=
  ⟨200, .tables ((salesScope.schemaTable? true "Customers").toList.map fun table =>
    (TableInstance.create label (.schema table) 201).1)⟩

/-- The tree of a query for one value of each order. -/
def perOrder (value : Draft.Expr) : Located :=
  ((Element.space (Draft.Query.select false none [.value value none] [.byName "Orders" none] none []
    none).element none).1.locate 0 0).1

/-- Binding a query for one value of each order. -/
def bindPerOrder (value : Draft.Expr) (options : Options) (scope : Scope) : ScopedQuery × Pass :=
  optionalQuery (perOrder value).piece.query? ⟨options, scope⟩ (.start 300)

/-- The length of the notes of an order. -/
def notesLength : Draft.Expr :=
  .property (.name "Notes") "Length"

/-- The query with `Notes.Length` binds alike inside an instance that is called otherwise. -/
theorem query_nested_notesLength :
    (bindPerOrder notesLength {} salesScope).2.diagnostics = [] ∧
      (bindPerOrder notesLength {} (salesScope.inside [customersAs "c"])).1.query =
        (bindPerOrder notesLength {} salesScope).1.query ∧
      Pass.Nested [customersAs "c"] (.start 300) (bindPerOrder notesLength {} salesScope).2
        (bindPerOrder notesLength {} (salesScope.inside [customersAs "c"])).2 := by
  have hclean : (bindPerOrder notesLength {} salesScope).2.diagnostics = [] := by decide +kernel
  have hfree : ¬(perOrder notesLength).Captured false
      (bindPerOrder notesLength {} salesScope).2.records [customersAs "c"] := by decide +kernel
  have houter : ∀ link ∈ [customersAs "c"], link.frame.definesNone = true := by decide +kernel
  unfold bindPerOrder at hclean hfree ⊢
  have hlimit : ({} : Options).maxDiagnostics ≠ some 0 := by decide
  have hnested := query_nested (perOrder notesLength) hlimit salesScope houter (.start 300)
  rw [Pass.blank_start] at hnested
  obtain ⟨hquery, -, hnested⟩ := hnested hclean hfree
  exact ⟨hclean, hquery, hnested⟩

/-- **Captured**: a query for the length of a column binds without diagnostics, but not inside an
instance that is called like the column. And where no diagnostics are kept, a query for a column that
is not there binds without diagnostics too, but inside an instance with such a column its type is
another. -/
theorem query_captured :
    ((bindPerOrder notesLength {} salesScope).2.diagnostics = [] ∧
      (bindPerOrder notesLength {} (salesScope.inside [customersAs "Notes"])).2.diagnostics ≠ []) ∧
    ((bindPerOrder (.name "Name") { maxDiagnostics := some 0 } salesScope).2.diagnostics = [] ∧
      (bindPerOrder (.name "Name") { maxDiagnostics := some 0 }
          salesScope).1.query.output.map (·.type.isUnknown) = [true] ∧
      (bindPerOrder (.name "Name") { maxDiagnostics := some 0 }
          (salesScope.inside [customersAs "c"])).1.query.output.map (·.type.isUnknown) = [false]) := by
  decide +kernel

end Binding

end QuerySemantics
