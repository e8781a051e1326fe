import QuerySemantics.Model.Position
import QuerySemantics.Proofs.Draft.Licensed
import QuerySemantics.Proofs.Model.OtherCatalog
import QuerySemantics.Proofs.Model.Coverage
import QuerySemantics.Proofs.Model.Lookup

/-!
# The symbol under the cursor

What a model shows for an identifier is called as the identifier says, but for case. The one exception
are the names that a common table gives to its columns: there the model shows the common table.

## Main definitions

* `Located.listOwner?`: the name of the common table in whose list of column names an identifier stands.
* `SemanticModel.shown?`: what the node that an identifier belongs to shows for it.

## Main results

* `Piece.Calls.spells_own`, `Piece.Calls.spells_attached`: a bound node shows what its name says.
* `Analysis.isSome_bound_eq`: the nodes of a licensed tree that are bound are those of certain forms.
* `Analysis.owner?_cases`: in a licensed tree an identifier belongs to the node that holds it, or else to
  the one around that.
* `Analysis.model_symbolAt`: what is shown in the tree of a draft is called as the identifier says, or as
  the common table whose column it names.
* `Analysis.model_symbolAt_ne`: the name of a column in such a list shows another name.
-/

set_option autoImplicit false

namespace QuerySemantics

open Ast

/-! ## Identifiers and the nodes that they belong to -/

/-- **Owner of a list**: the name of the common table in whose list of column names an identifier stands,
given the nodes around it. -/
def Located.listOwner? : List Located → Option Token
  | list :: entry :: _ =>
    match list.piece, entry.piece with
    | .columnNames _, .commonTable (.mk _ ident _ _) => ident
    | _, _ => none
  | _ => none

/-- Outside of a list of column names there is no owner of one. -/
theorem Located.listOwner?_eq_none {holder : Located} {rest : List Located}
    (h : ∀ names, holder.piece ≠ .columnNames names) : listOwner? (holder :: rest) = none := by
  cases rest with
  | nil => rfl
  | cons outer rest =>
    cases hread : holder.piece with
    | columnNames names => exact absurd hread (h names)
    | _ => simp [listOwner?, hread]

/-- **Shown symbol**: what the node that an identifier belongs to refers to or declares. -/
def SemanticModel.shown? (part : Located) (identifier : Token) (node : Bound.Node) : Option Symbol :=
  ((tableNamedBy part identifier node).or (node.expr?.bind Bound.Expr.symbol?)).or node.declared?

/-- A symbol is shown by the node that the identifier belongs to. -/
theorem SemanticModel.exists_of_symbolAt {model : SemanticModel} {position : Nat} {symbol : Symbol}
    (h : model.symbolAt position = some symbol) : ∃ identifier around part info node,
      model.identifierAt position = some (identifier, around) ∧ model.owner? around = some part ∧
        part.info? = some info ∧ model.result.boundNode? info.index = some node ∧
          shown? part identifier node = some symbol := by
  simp only [symbolAt, Option.bind_eq_bind, Option.bind_eq_some_iff] at h
  obtain ⟨⟨identifier, around⟩, hidentifier, part, hpart, info, hinfo, node, hnode, hshown⟩ := h
  exact ⟨identifier, around, part, info, node, hidentifier, hpart, hinfo, hnode, hshown⟩

/-- The identifier at a position is an identifier token, and the nodes around it lie in each other. Each of
them has text, so that it coincides with no other node. -/
theorem SemanticModel.isChain_of_identifierAt {model : SemanticModel} {position : Nat}
    {identifier : Token} {around : List Located}
    (h : model.identifierAt position = some (identifier, around)) :
    identifier.kind = .identifier ∧
      (.token identifier :: around).IsChain (fun inner outer => inner ∈ outer.children) ∧
        (∀ node ∈ around, node ∈ model.analysis.tree.root.nodes) ∧
          ∀ node ∈ around, ∀ info, node.info? = some info → model.analysis.tree.Alone info.index := by
  rw [identifierAt] at h
  have hkind := List.find?_some h
  have hmem := List.mem_of_find?_eq_some h
  obtain ⟨hchain, hnodes⟩ := Located.isChain_of_touching hmem (.singleton _) (fun _ hnode => hnode)
    fun _ hnode => nomatch hnode
  have htext : (Located.token identifier).start < (Located.token identifier).stop :=
    Nat.lt_add_of_pos_right (Nat.pos_of_ne_zero fun hzero =>
      Located.text_of_touching hmem (String.utf8ByteSize_eq_zero_iff.1 hzero))
  refine ⟨by simpa using hkind, hchain, hnodes, fun node hnode info hinfo => ?_⟩
  have hlong := Located.text_of_isChain model.analysis.tree.placed_root hchain hnodes htext node hnode
  refine SyntaxTree.alone_of_text (hnodes node hnode) hinfo ?_
  obtain ⟨own, children, rfl⟩ := Located.exists_info_of_mem_nodes (hnodes node hnode)
  cases hinfo
  exact hlong

/-! ## What a node shows -/

/-- The symbol of a table is called as the table. -/
theorem TableSource.name_symbol (source : TableSource) : source.symbol.name = source.name := by
  cases source <;> rfl

/-- What binding goes on to is no name and no limit. -/
theorem Piece.isAttached_of_mem_visited {piece part : Piece} (h : part ∈ piece.visited) :
    part.isAttached = false := by
  have hform := isPart_of_mem_parts (mem_parts_of_mem_visited h)
  cases part <;> first | rfl | simp [isClause, isBindable] at hform

namespace Piece.Calls

variable {part : Located} {identifier : Token} {node : Bound.Node} {symbol : Symbol}

/-- An expression shows what it refers to, which is called as its identifier says. -/
theorem spells_expr {it : Expr} (h : (Piece.expr it).Calls node) (hpart : part.piece = .expr it)
    (hident : it.ident? = some identifier)
    (hshown : SemanticModel.shown? part identifier node = some symbol) :
    identifier.Spells symbol.name := by
  have hnamed : SemanticModel.tableNamedBy part identifier node = none := by
    simp [SemanticModel.tableNamedBy, hpart]
  have hspelled : ∃ bound, node = .expr bound ∧ bound.Spelled it.ident? := by
    cases node with
    | expr bound =>
      cases it with
      | cast info operand target => cases hident
      | _ => exact ⟨bound, rfl, h⟩
    | _ => cases it <;> exact h.elim
  obtain ⟨bound, rfl, hspelled⟩ := hspelled
  rw [SemanticModel.shown?, hnamed, Option.none_or] at hshown
  rcases Option.or_eq_some_iff.1 hshown with hsymbol | ⟨-, hdeclared⟩
  · exact hspelled symbol hsymbol identifier hident
  · cases hdeclared

/-- What a table reference other than one by name shows is its instance. -/
theorem shown_declared
    (hpart : ∀ info ident correlation, part.piece ≠ .table (.named info ident correlation))
    (hexpr : node.expr? = none) (hshown : SemanticModel.shown? part identifier node = some symbol) :
    node.declared? = some symbol := by
  have hnamed : SemanticModel.tableNamedBy part identifier node = none := by
    unfold SemanticModel.tableNamedBy
    split
    · exact absurd ‹_› (hpart _ _ _)
    · rfl
  rwa [SemanticModel.shown?, hnamed, hexpr, Option.none_or, Option.bind_none, Option.none_or] at hshown

/-- The name of a table shows the table, the alias of a subquery its instance. -/
theorem spells_table {it : TableRef} (h : (Piece.table it).Calls node) (hpart : part.piece = .table it)
    (hident : (Piece.table it).ownIdent? = some identifier)
    (hshown : SemanticModel.shown? part identifier node = some symbol) :
    identifier.Spells symbol.name := by
  cases it with
  | named info ident correlation =>
    obtain rfl : ident = some identifier := hident
    cases node with
    | table made =>
      cases made with
      | named made =>
        have hnamed : SemanticModel.tableNamedBy part identifier (.table (.named made)) =
            some made.source.symbol := by
          simp [SemanticModel.tableNamedBy, hpart]
        rw [SemanticModel.shown?, hnamed, Option.some_or, Option.some_or] at hshown
        obtain rfl := Option.some.inj hshown
        rw [made.source.name_symbol]
        exact (h identifier rfl).2
      | _ => exact h.elim
    | _ => exact h.elim
  | derived info body ident =>
    cases node with
    | table made =>
      cases made with
      | derived made query =>
        have hdeclared := shown_declared (by simp [hpart]) rfl hshown
        obtain rfl := Option.some.inj hdeclared
        rw [Symbol.name, h identifier hident]
        exact identifier.spells_ident
      | _ => exact h.elim
    | _ => exact h.elim
  | _ => cases hident

/-- The qualifier of a `*` shows the instance that is called so. -/
theorem spells_selectItem {it : SelectItem} (h : (Piece.selectItem it).Calls node)
    (hpart : part.piece = .selectItem it)
    (hident : (Piece.selectItem it).ownIdent? = some identifier)
    (hshown : SemanticModel.shown? part identifier node = some symbol) :
    identifier.Spells symbol.name := by
  cases it with
  | column info value correlation => cases hident
  | wildcard info ident =>
    cases node with
    | selectItem made =>
      cases made with
      | wildcard qualifier columns =>
        have hdeclared := shown_declared (by simp [hpart]) rfl hshown
        obtain ⟨made, hmade, rfl⟩ := Option.map_eq_some_iff.1 hdeclared
        exact h identifier hident made hmade
      | _ => exact h.elim
    | _ => exact h.elim

/-- A common table shows its definition, which is called as its identifier says. -/
theorem definition {it : Ast.CommonTable} (h : (Piece.commonTable it).Calls node)
    (hpart : part.piece = .commonTable it)
    (hshown : SemanticModel.shown? part identifier node = some symbol) : ∃ table,
      symbol = .commonTable table ∧
        ∀ leaf, (Piece.commonTable it).ownIdent? = some leaf → table.name = leaf.ident := by
  obtain ⟨info, ident, columns, body⟩ := it
  cases node with
  | definition made =>
    have hdeclared := shown_declared (by simp [hpart]) rfl hshown
    exact ⟨made.symbol, (Option.some.inj hdeclared).symm, h⟩
  | _ => exact h.elim

/-- The name of a node's own shows what is called so. -/
theorem spells_own (h : part.piece.Calls node) (hident : part.piece.ownIdent? = some identifier)
    (hrecorded : part.piece.isRecorded = true)
    (hshown : SemanticModel.shown? part identifier node = some symbol) :
    identifier.Spells symbol.name := by
  cases hpart : part.piece with
  | expr it =>
    rw [hpart] at h hident
    exact h.spells_expr hpart hident hshown
  | table it =>
    rw [hpart] at h hident
    exact h.spells_table hpart hident hshown
  | selectItem it =>
    rw [hpart] at h hident
    exact h.spells_selectItem hpart hident hshown
  | commonTable it =>
    rw [hpart] at h hident
    obtain ⟨table, rfl, hname⟩ := h.definition hpart hshown
    rw [Token.Spells, Symbol.name, hname identifier hident]
    exact identifier.spells_ident
  | aliasClause it | typeName it =>
    rw [hpart] at hrecorded
    cases hrecorded
  | _ =>
    rw [hpart] at hident
    cases hident

/-- The name that a node has from an alias shows what is called so. -/
theorem spells_attached {attached : Piece} (h : part.piece.Calls node)
    (hlicenses : part.piece.Licenses attached) (hattached : attached.isAttached = true)
    (hident : attached.ownIdent? = some identifier)
    (hshown : SemanticModel.shown? part identifier node = some symbol) :
    identifier.Spells symbol.name := by
  generalize hpart : part.piece = piece at h hlicenses
  cases hlicenses with
  | word | ident | listed => cases hattached
  | visited hvisited =>
    rw [isAttached_of_mem_visited hvisited] at hattached
    cases hattached
  | @columnAlias info value name =>
    cases node with
    | selectItem made =>
      cases made with
      | column bound made =>
        have hdeclared := shown_declared (by simp [hpart]) rfl hshown
        obtain rfl := Option.some.inj hdeclared
        have hname : made.name = identifier.ident := h identifier.ident (congrArg (Option.map _) hident)
        rw [Symbol.name, hname]
        exact identifier.spells_ident
      | _ => exact h.elim
    | _ => exact h.elim
  | @tableAlias info ident name =>
    cases node with
    | table made =>
      cases made with
      | named made =>
        obtain ⟨hname, hspells⟩ := h ident rfl
        by_cases hsame : ident = identifier
        · subst hsame
          have hnamed : SemanticModel.tableNamedBy part ident (.table (.named made)) =
              some made.source.symbol := by
            simp [SemanticModel.tableNamedBy, hpart]
          rw [SemanticModel.shown?, hnamed, Option.some_or, Option.some_or] at hshown
          obtain rfl := Option.some.inj hshown
          rw [made.source.name_symbol]
          exact hspells
        · have hnamed : SemanticModel.tableNamedBy part identifier (.table (.named made)) = none := by
            simp [SemanticModel.tableNamedBy, hpart, hsame]
          rw [SemanticModel.shown?, hnamed] at hshown
          obtain rfl := Option.some.inj hshown
          have halias : Binding.aliasName? (some name) = some identifier.ident :=
            congrArg (Option.map _) hident
          rw [halias, Option.getD_some] at hname
          rw [Symbol.name, hname]
          exact identifier.spells_ident
      | _ => exact h.elim
    | _ => exact h.elim
  | @target info operand name =>
    -- a conversion refers to nothing and declares nothing
    cases node with
    | expr bound =>
      have hnone : bound.symbol? = none := h
      simp [SemanticModel.shown?, SemanticModel.tableNamedBy, hpart, Bound.Node.expr?, hnone,
        Bound.Node.declared?] at hshown
    | _ => exact h.elim
  | columns | limit => cases hident

end Piece.Calls

namespace Piece

/-- What licenses an identifier is known by it, or lists it. -/
theorem Licenses.knows_ident {piece : Piece} {leaf : Token} (h : piece.Licenses (.token leaf))
    (hkind : leaf.kind = .identifier) :
    piece.ownIdent? = some leaf ∨ ∃ names, piece = .columnNames names := by
  cases h with
  | word hother => exact absurd hkind hother
  | ident hident => exact .inl hident
  | listed => exact .inr ⟨_, rfl⟩
  | visited hvisited =>
    have hform := isPart_of_mem_parts (mem_parts_of_mem_visited hvisited)
    simp [isClause, isBindable] at hform

/-- What has an identifier and is not bound itself is a name. -/
theorem isAttached_of_name {piece : Piece} {leaf : Token}
    (h : piece.ownIdent? = some leaf ∨ ∃ names, piece = .columnNames names)
    (hrecorded : piece.isRecorded = false) : piece.isAttached = true := by
  rcases h with h | ⟨names, rfl⟩
  · cases piece with
    | aliasClause | typeName => rfl
    | expr it | table it =>
      cases it with
      | parenthesized => cases h
      | _ => cases hrecorded
    | selectItem | commonTable => cases hrecorded
    | _ => cases h
  · rfl

/-- The node around a name is bound. -/
theorem Licenses.isRecorded_of_name {piece child : Piece} {leaf : Token} (h : piece.Licenses child)
    (hname : child.ownIdent? = some leaf ∨ ∃ names, child = .columnNames names)
    (hattached : child.isAttached = true) : piece.isRecorded = true := by
  cases h with
  | word | ident | listed => cases hattached
  | visited hvisited =>
    rw [isAttached_of_mem_visited hvisited] at hattached
    cases hattached
  | columnAlias | tableAlias | target | columns => rfl
  | limit => rcases hname with hident | ⟨names, hnames⟩ <;> contradiction

/-- A list of column names stands behind the name of a common table. -/
theorem Licenses.exists_commonTable {piece : Piece} {names : ColumnNames}
    (h : piece.Licenses (.columnNames names)) :
    ∃ entry ident, piece = .commonTable entry ∧ (Piece.commonTable entry).ownIdent? = some ident := by
  cases h with
  | visited hvisited => exact nomatch isAttached_of_mem_visited hvisited
  | columns => exact ⟨_, _, rfl, rfl⟩

end Piece

/-! ## Bound nodes of licensed trees -/

namespace Analysis

variable {analysis : Analysis} {next : SymbolId} {part : Located} {info : NodeInfo}
  {node : Bound.Node}

/-- What a node of the tree is bound to is called as the tree says. -/
theorem calls_boundNode? (hpart : part ∈ analysis.tree.root.nodes) (hinfo : part.info? = some info)
    (halone : analysis.tree.Alone info.index)
    (h : (analysis.model next).1.result.boundNode? info.index = some node) :
    part.piece.Calls node := by
  rw [BindingResult.boundNode?_eq rfl halone] at h
  obtain ⟨record, hrecord, rfl⟩ := Option.map_eq_some_iff.1 h
  have hindex : record.info.index = info.index := by simpa using List.find?_some hrecord
  obtain ⟨piece, ⟨other, hother, rfl⟩, hinfo', hcalls, -⟩ :=
    analysis.tells_model next record (List.mem_of_find?_eq_some hrecord)
  rw [other.info?_piece] at hinfo'
  -- two nodes with one number are the same node
  have hnumber : part.index? = some info.index := by rw [Located.index?, hinfo, Option.map_some]
  have hnumber' : other.index? = some info.index := by
    rw [Located.index?, hinfo', Option.map_some, hindex]
  obtain rfl := analysis.tree.placed_root.eq_of_index hother hpart hnumber' hnumber
  exact hcalls

/-- **Bound nodes of a licensed tree** are those of a form that is recorded, if no other node coincides
with them. -/
theorem isSome_bound_eq (hlicensed : analysis.tree.root.Licensed)
    (hroot : analysis.tree.root.piece.isRoot = true) (hpart : part ∈ analysis.tree.root.nodes)
    (halone : ∀ info, part.info? = some info → analysis.tree.Alone info.index) :
    (part.info?.bind fun info =>
      (analysis.model next).1.result.boundNode? info.index).isSome = part.piece.isRecorded := by
  obtain ⟨info, children, rfl⟩ := Located.exists_info_of_mem_nodes hpart
  rw [Bool.eq_iff_iff]
  refine (SemanticModel.isSome_result_of_alone hpart rfl (halone info rfl)).trans
    ⟨fun h => h.2.2, fun h => ⟨hroot, ?_, h⟩⟩
  refine hlicensed.reached hpart ?_
  generalize (Located.node info children).piece = piece at h
  cases piece <;> first | rfl | cases h

/-- **The node that an identifier belongs to** in a licensed tree is the one that holds it, if the name is
its own. For an alias, a type or the name of a column it is the node around that.

**Proof sketch.** The node that holds an identifier licenses it, so that it is known by it or lists it. If
it is not bound, then it is a name, and the node around it is one whose name it is. That node is bound. -/
theorem owner?_cases {position : Nat} {identifier : Token} {around : List Located}
    (hlicensed : analysis.tree.root.Licensed)
    (hidentifier : (analysis.model next).1.identifierAt position = some (identifier, around))
    (howner : (analysis.model next).1.owner? around = some part) :
    (∃ rest, around = part :: rest ∧ part.piece.ownIdent? = some identifier ∧
      part.piece.isRecorded = true) ∨
    ∃ holder rest, around = holder :: part :: rest ∧ part.piece.Licenses holder.piece ∧
      holder.piece.isAttached = true ∧ (holder.piece.ownIdent? = some identifier ∨
        ∃ names, holder.piece = .columnNames names) := by
  obtain ⟨hkind, hchain, hnodes, halone⟩ := SemanticModel.isChain_of_identifierAt hidentifier
  have hroot : analysis.tree.root.piece.isRoot = true := by
    have hpart := hnodes part (List.mem_of_find?_eq_some howner)
    obtain ⟨info, children, rfl⟩ := Located.exists_info_of_mem_nodes hpart
    rw [SemanticModel.owner?] at howner
    have hfound := List.find?_some howner
    exact (SemanticModel.isSome_result_iff.1 hfound).1
  have hbound : ∀ node ∈ around, (node.info?.bind fun info =>
      (analysis.model next).1.result.boundNode? info.index).isSome = node.piece.isRecorded :=
    fun node hnode => isSome_bound_eq hlicensed hroot (hnodes node hnode) (halone node hnode)
  have hlicenses : ∀ inner outer, outer ∈ around → inner ∈ outer.children →
      outer.piece.Licenses inner.piece :=
    fun inner outer houter hinner => hlicensed outer (hnodes outer houter) inner hinner
  clear hnodes halone hlicensed hidentifier
  match around with
  | [] => cases howner
  | holder :: rest =>
    have hname := (hlicenses (.token identifier) holder List.mem_cons_self
      (List.isChain_cons_cons.1 hchain).1).knows_ident hkind
    cases hrecorded : holder.piece.isRecorded with
    | true =>
      have hself : (analysis.model next).1.owner? (holder :: rest) = some holder :=
        List.find?_cons_of_pos ((hbound holder List.mem_cons_self).trans hrecorded)
      obtain rfl := Option.some.inj (howner.symm.trans hself)
      refine .inl ⟨rest, rfl, hname.resolve_right ?_, hrecorded⟩
      rintro ⟨names, hnames⟩
      rw [hnames] at hrecorded
      cases hrecorded
    | false =>
      have hskip : (analysis.model next).1.owner? (holder :: rest) =
          (analysis.model next).1.owner? rest :=
        List.find?_cons_of_neg (by simp [hbound holder List.mem_cons_self, hrecorded])
      rw [hskip] at howner
      have hattached := Piece.isAttached_of_name hname hrecorded
      match rest with
      | [] => cases howner
      | outer :: rest =>
        have houter : outer ∈ holder :: outer :: rest := List.mem_cons_of_mem _ List.mem_cons_self
        have hnest := hlicenses holder outer houter
          (List.isChain_cons_cons.1 (List.isChain_cons_cons.1 hchain).2).1
        have hself : (analysis.model next).1.owner? (outer :: rest) = some outer :=
          List.find?_cons_of_pos ((hbound outer houter).trans (hnest.isRecorded_of_name hname hattached))
        obtain rfl := Option.some.inj (howner.symm.trans hself)
        exact .inr ⟨holder, rest, rfl, hnest, hattached, hname⟩

/-- **What is shown at a position** of a licensed tree is called as the identifier there says, or as the
common table whose column it names. -/
theorem symbolAt_spells {position : Nat} {symbol : Symbol} (hlicensed : analysis.tree.root.Licensed)
    (h : (analysis.model next).1.symbolAt position = some symbol) : ∃ identifier around,
      (analysis.model next).1.identifierAt position = some (identifier, around) ∧
        ((Located.listOwner? around).getD identifier).Spells symbol.name ∧
          ((Located.listOwner? around).isSome = true → ∃ table, symbol = .commonTable table) := by
  obtain ⟨identifier, around, part, info, node, hidentifier, howner, hinfo, hnode, hshown⟩ :=
    SemanticModel.exists_of_symbolAt h
  obtain ⟨-, -, hnodes, halone⟩ := SemanticModel.isChain_of_identifierAt hidentifier
  have hmem := List.mem_of_find?_eq_some howner
  have hcalls := calls_boundNode? (hnodes part hmem) hinfo (halone part hmem info hinfo) hnode
  refine ⟨identifier, around, hidentifier, ?_⟩
  obtain ⟨rest, rfl, hident, hrecorded⟩ | ⟨holder, rest, rfl, hlicenses, hattached, hname⟩ :=
    owner?_cases hlicensed hidentifier howner
  · have hnone : Located.listOwner? (part :: rest) = none := by
      refine Located.listOwner?_eq_none fun names hnames => ?_
      rw [hnames] at hrecorded
      cases hrecorded
    rw [hnone]
    exact ⟨hcalls.spells_own hident hrecorded hshown, fun h => nomatch h⟩
  · rcases hname with hident | ⟨names, hnames⟩
    · have hnone : Located.listOwner? (holder :: part :: rest) = none := by
        refine Located.listOwner?_eq_none fun names hnames => ?_
        rw [hnames] at hident
        cases hident
      rw [hnone]
      exact ⟨hcalls.spells_attached hlicenses hattached hident hshown, fun h => nomatch h⟩
    · rw [hnames] at hlicenses
      obtain ⟨entry, ident, hentry, hident⟩ := hlicenses.exists_commonTable
      have howner : Located.listOwner? (holder :: part :: rest) = some ident := by
        obtain ⟨info, own, columns, body⟩ := entry
        obtain rfl : own = some ident := hident
        simp [Located.listOwner?, hnames, hentry]
      rw [hentry] at hcalls
      obtain ⟨table, rfl, hcalled⟩ := hcalls.definition hentry hshown
      rw [howner]
      refine ⟨?_, fun _ => ⟨table, rfl⟩⟩
      rw [Option.getD_some, Token.Spells, Symbol.name, hcalled ident hident]
      exact ident.spells_ident

/-- **What is shown in the tree of a draft** is called as the identifier says, but for case, unless it is
the name of a column behind the name of a common table. Then it is the common table.

**Proof sketch.** The tree of a draft is licensed. So every node with a name of its own is bound, and what
it is bound to is called so; an alias is the name of the node around it, and a type name belongs to a
conversion, which shows nothing. Only the node around a list of column names is bound to what has another
name. -/
theorem model_symbolAt (draft : Draft.Whole) (id : Nat) (catalog : Catalog)
    (options : Binding.Options) (next : SymbolId) (position : Nat) {symbol : Symbol}
    (h : ((Analysis.mk (draft.tree id) catalog options).model next).1.symbolAt position =
      some symbol) : ∃ identifier around,
      ((Analysis.mk (draft.tree id) catalog options).model next).1.identifierAt position =
        some (identifier, around) ∧
        ((Located.listOwner? around).getD identifier).Spells symbol.name ∧
          ((Located.listOwner? around).isSome = true → ∃ table, symbol = .commonTable table) :=
  symbolAt_spells (draft.licensed id) h

/-- The draft of `WITH c(a) AS (SELECT 1) SELECT a FROM c`. -/
def listedColumn : Draft.Whole :=
  .query (.withTables
    [.mk "c" (some ["a"]) (.select false none [.value (.number "1") none] [] none [] none)]
    (.select false none [.value (.name "a") none] [.byName "c" none] none [] none))

/-- The analysis of this query against an empty catalog. -/
def listedColumnQuery : Analysis :=
  ⟨listedColumn.tree 0, (Catalog.empty 0).1, {}⟩

/-- At the name in the list of columns the common table is shown, and at the same name in the select list
the column. -/
theorem model_symbolAt_listedColumn :
    ((listedColumnQuery.model 0).1.symbolAt 7).map Symbol.name = some "c" ∧
      ((listedColumnQuery.model 0).1.symbolAt 31).map Symbol.name = some "a" ∧
        ∃ symbol identifier around, (listedColumnQuery.model 0).1.symbolAt 31 = some symbol ∧
          (listedColumnQuery.model 0).1.identifierAt 31 = some (identifier, around) ∧
            ((Located.listOwner? around).getD identifier).Spells symbol.name := by
  have hlist : ((listedColumnQuery.model 0).1.symbolAt 7).map Symbol.name = some "c" := by
    decide +kernel
  have hname : ((listedColumnQuery.model 0).1.symbolAt 31).map Symbol.name = some "a" := by
    decide +kernel
  obtain ⟨symbol, hsymbol, -⟩ := Option.map_eq_some_iff.1 hname
  obtain ⟨identifier, around, hidentifier, hspells, -⟩ :=
    model_symbolAt listedColumn 0 (Catalog.empty 0).1 {} 0 31 hsymbol
  exact ⟨hlist, hname, symbol, identifier, around, hsymbol, hidentifier, hspells⟩

/-- **The name of a column shows another name**: not everything that is shown is called as the identifier
under the cursor. -/
theorem model_symbolAt_ne : ¬ ∀ (draft : Draft.Whole) (id : Nat) (catalog : Catalog)
    (options : Binding.Options) (next : SymbolId) (position : Nat) (symbol : Symbol)
    (identifier : Token) (around : List Located),
    ((Analysis.mk (draft.tree id) catalog options).model next).1.symbolAt position = some symbol →
      ((Analysis.mk (draft.tree id) catalog options).model next).1.identifierAt position =
        some (identifier, around) → identifier.Spells symbol.name := by
  intro h
  have hlist : ((listedColumnQuery.model 0).1.symbolAt 7).map Symbol.name = some "c" := by
    decide +kernel
  have htext : ((listedColumnQuery.model 0).1.identifierAt 7).map (·.1.text) = some "a" := by
    decide +kernel
  obtain ⟨symbol, hsymbol, hname⟩ := Option.map_eq_some_iff.1 hlist
  obtain ⟨⟨identifier, around⟩, hidentifier, hident⟩ := Option.map_eq_some_iff.1 htext
  have hspells := h listedColumn 0 (Catalog.empty 0).1 {} 0 7 symbol identifier around hsymbol hidentifier
  rw [Token.Spells, hname, Token.ident, show identifier.text = "a" from hident] at hspells
  exact absurd hspells (by decide +kernel)

end Analysis

end QuerySemantics
