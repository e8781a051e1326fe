import QuerySemantics.Proofs.Binding.AccountWalk
import QuerySemantics.Proofs.Model.Lookup

/-!
# The account of a result

What the account of a pass says of its result: each record is that of a piece that was reached, and a
look-up finds every node that was reached to be made of its parts.

## Main definitions

* `BindingResult.Shows`: the symbols that the bound nodes of a result mention and its scopes make
  visible.
* `BindingResult.instance?`: the instance that the node with a number declares.
* `BindingResult.DrawnFrom`: a result that takes all that it shows from a stock of distinct symbols.

## Main results

* `SyntaxTree.exists_drawnFrom`: the stock of a result.
* `SyntaxTree.exists_makes`: what a record is the record of.
* `SyntaxTree.certified`: a result certifies all that was reached.
-/

set_option autoImplicit false

namespace QuerySemantics

open Binding

namespace BindingResult

/-- The scopes of a result: those that nodes are bound in, and those that nodes enter. -/
def allScopes (result : BindingResult) : List Scope :=
  result.records.map Record.scope ++ result.scopes.map Prod.snd

/-- **Shown symbols** of a result: those that its bound nodes mention as new, and those that are
visible in its scopes. -/
def Shows (result : BindingResult) (symbol : Symbol) : Prop :=
  (∃ record ∈ result.records, symbol ∈ record.node.symbols) ∨
    ∃ scope ∈ result.allScopes, symbol ∈ scope.visible

/-- The instance that the node with a number declares. -/
def instance? (result : BindingResult) (index : Nat) : Option TableInstance :=
  (result.boundNode? index).bind Bound.Node.instance?

variable {result : BindingResult}

/-- The record of the node that declares an instance, or of one that coincides with it. -/
theorem exists_of_instance? {index : Nat} {table : TableInstance} (h : table ∈ result.instance? index) :
    ∃ record ∈ result.records,
      result.isSame record.info.index index = true ∧ record.node.instance? = some table := by
  obtain ⟨node, hnode, htable⟩ := Option.bind_eq_some_iff.1 (Option.mem_def.1 h)
  obtain ⟨record, hrecord, rfl⟩ := Option.map_eq_some_iff.1 hnode
  have hsame := List.find?_some hrecord
  exact ⟨record, List.mem_of_find?_eq_some hrecord, hsame, htable⟩

/-- A declared instance is shown. -/
theorem shows_of_instance? {index : Nat} {table : TableInstance} (h : table ∈ result.instance? index) :
    result.Shows (.tableInstance table) := by
  obtain ⟨record, hrecord, -, hdeclared⟩ := exists_of_instance? h
  exact .inl ⟨record, hrecord, Bound.Node.mem_symbols_of_instance? hdeclared⟩

/-- **Drawn from a stock** of distinct symbols: its scopes and all that its bound nodes mention as new, of
which they declare every instance once. -/
structure DrawnFrom (result : BindingResult) (catalog : Catalog) (stock : List Symbol) : Prop where
  distinct : Symbol.Distinct stock
  scopes : ∀ scope ∈ result.allScopes, scope.Drawn catalog stock
  symbols : ∀ record ∈ result.records, ∀ symbol ∈ record.node.symbols, symbol ∈ stock
  declared : (result.records.filterMap (·.node.instance?)).Nodup
  backed : ∀ symbol ∈ stock, symbol.Backed catalog stock result.records

/-- **What a result shows** is in stock, or it is a symbol of the catalog. -/
theorem DrawnFrom.mem_of_shows {catalog : Catalog} {stock : List Symbol} {symbol : Symbol}
    (h : result.DrawnFrom catalog stock) (hshown : result.Shows symbol) :
    symbol ∈ stock ∨ symbol ∈ Scope.rootSymbols catalog := by
  rcases hshown with ⟨record, hrecord, hsymbol⟩ | ⟨scope, hscope, hsymbol⟩
  · exact .inl (h.symbols record hrecord symbol hsymbol)
  · exact (List.mem_append.1 hsymbol).imp ((h.scopes scope hscope).subset symbol)
      fun hroot => (h.scopes scope hscope).catalog ▸ hroot

end BindingResult

namespace SyntaxTree

variable {tree : SyntaxTree} {options : Options} {catalog : Catalog} {next : SymbolId}

/-- A pass begins with nothing made. -/
theorem kept_start (catalog : Catalog) (next : SymbolId) : Kept catalog [] (.start next) :=
  ⟨List.nodup_nil, fun _ hmem => absurd hmem List.not_mem_nil,
    fun _ hmem => absurd hmem List.not_mem_nil, fun _ hmem => absurd hmem List.not_mem_nil,
    List.nodup_nil, fun _ hmem => absurd hmem List.not_mem_nil⟩

/-- **A result is drawn from a stock**: what the pass begins with, and what it makes. -/
theorem exists_drawnFrom (tree : SyntaxTree) (options : Options) {stock : List Symbol}
    (hstart : Kept catalog stock (.start (next + 1))) :
    ∃ made, (tree.bind options catalog next).1.DrawnFrom catalog (made ++ stock) := by
  obtain ⟨made, pass, log, hkept, hrecords, hscopes, -⟩ := tree.bind_accounts options catalog next hstart
  refine ⟨made, hkept.distinct, List.forall_mem_append.2 ⟨fun scope hscope => ?_, fun scope hscope => ?_⟩,
    fun record hrecord => (hkept.records record (hrecords ▸ hrecord)).2, hrecords ▸ hkept.declared,
    hrecords ▸ hkept.backed⟩
  · obtain ⟨record, hrecord, rfl⟩ := List.mem_map.1 hscope
    exact (hkept.records record (hrecords ▸ hrecord)).1
  · obtain ⟨entry, hentry, rfl⟩ := List.mem_map.1 hscope
    exact hkept.scopes entry (hscopes ▸ hentry)

/-- **What a record is the record of**: a piece that was reached, and that is made of its parts. -/
theorem exists_makes {record : Record} (h : record ∈ (tree.bind options catalog next).1.records) :
    ∃ piece, tree.root.piece.Reached piece ∧ ∃ valued yield own entries,
      Makes options.caseSensitive valued piece yield own entries ∧ record ∈ own := by
  obtain ⟨made, pass, log, -, -, -, hbooked, hrecords, -⟩ :=
    tree.bind_accounts options catalog next (kept_start catalog (next + 1))
  obtain ⟨filing, hfiling, piece, hreached, hmakes⟩ := hbooked.exists_makes (hrecords ▸ h)
  obtain ⟨start, hstart, rfl⟩ := List.mem_map.1 hfiling
  split at hstart
  · rw [List.mem_singleton.1 hstart] at hreached
    exact ⟨piece, hreached, hmakes⟩
  · cases hstart

/-- Where anything is recorded, the tree is one that is bound. -/
theorem isRoot_of_record {record : Record}
    (h : record ∈ (tree.bind options catalog next).1.records) : tree.root.piece.isRoot = true := by
  obtain ⟨made, pass, log, -, -, -, hbooked, hrecords, -⟩ :=
    tree.bind_accounts options catalog next (kept_start catalog (next + 1))
  by_contra hroot
  rw [if_neg hroot] at hbooked
  obtain ⟨filing, hfiling, -⟩ := Filed.exists_makes hbooked (hrecords ▸ h)
  cases hfiling

/-- **A result certifies all that was reached.** -/
theorem certified (hroot : tree.root.piece.isRoot = true) {piece : Piece}
    (h : tree.root.piece.Reached piece) :
    Certified options.caseSensitive (tree.bind options catalog next).1.log piece := by
  obtain ⟨made, pass, log, -, -, -, hbooked, hrecords, hscopes⟩ :=
    tree.bind_accounts options catalog next (kept_start catalog (next + 1))
  rw [hroot, if_pos rfl] at hbooked
  have hseparated : Piece.Separated ([⟨tree.root.piece, .nothing⟩].map Filing.piece) := by
    refine ⟨fun piece hpiece => ?_, fun part hpart other hother _ _ _ => ?_, .cons ?_ .nil⟩
    · rw [List.mem_singleton.1 hpiece]
      exact tree.placed_root.allSeparate
    · rw [List.mem_singleton.1 hpart, List.mem_singleton.1 hother]
    · exact fun _ hmem => absurd hmem List.not_mem_nil
  have hcertified := (hbooked.certified hseparated _ (List.mem_singleton_self _)).2 piece h
  have hlog : (tree.bind options catalog next).1.log = log ++
      ⟨[], tree.root.info?.toList.map (·, (tree.bind options catalog next).1.rootScope)⟩ := by
    rw [BindingResult.log, hrecords, hscopes]
    exact congrArg (Log.mk · _) (List.append_nil _).symm
  rw [hlog]
  exact hcertified.extend (extends_append _ _ _)

end SyntaxTree

end QuerySemantics
