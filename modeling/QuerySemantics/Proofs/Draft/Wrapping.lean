import QuerySemantics.Proofs.Draft.Enclosed
import QuerySemantics.Proofs.Draft.Whole
import QuerySemantics.Proofs.Tree.Placement

/-!
# Queries around a query

A query can be put in place of a table, or it can define a table that is then selected from. In the
tree around it the query has the same blanks as alone, but stands further behind.

## Main definitions

* `Draft.Query.derived`: `SELECT * FROM (query) AS label`.
* `Draft.Query.defined`: `WITH ident AS (query) SELECT * FROM ident`, possibly with column names.

## Main results

* `Draft.Query.core_ne`: a query is read as no empty nest of parentheses.
* `Draft.Query.text_derived`, `Draft.Query.text_defined`: the texts around a query.
* `Draft.Query.derived_reads`, `Draft.Query.defined_reads`: what the trees around a query are read as.
-/

set_option autoImplicit false

namespace QuerySemantics

namespace Element

/-! ## Column names -/

/-- The text of an identifier. -/
def ident? : Element → Option String
  | .token .identifier text => some text
  | _ => none

/-- **Identifiers are found again**, all of them and in order. -/
theorem ReadsAll.idents {elements : List Element} {pieces : List Piece}
    (h : ReadsAll elements pieces) :
    ((pieces.filterMap Piece.token?).filter (·.kind == .identifier)).map Token.text =
      elements.filterMap ident? := by
  induction h with
  | nil => rfl
  | @cons element elements piece pieces hfirst _ ih =>
    cases element with
    | token kind text =>
      obtain ⟨offset, rfl⟩ := hfirst.of_token
      by_cases hkind : kind = .identifier
      · subst hkind
        simp [Piece.token?, ident?, ih]
      · have hident : ident? (.token kind text) = none := by
          unfold ident?
          split
          · rename_i heq
            cases heq
            exact absurd rfl hkind
          · rfl
        simp [Piece.token?, hident, hkind, ih]
    | node kind children =>
      rw [List.filterMap_cons_none hfirst.token?_of_node, List.filterMap_cons_none rfl, ih]
  | @blank elements pieces leaf hleaf _ ih =>
    simp [Piece.token?, hleaf, ih]

end Element

open Element

/-- The text of elements behind others is behind the text of those. -/
theorem Element.textOf_append (elements others : List Element) :
    textOf (elements ++ others) = textOf elements ++ textOf others := by
  induction elements with
  | nil => simp [textOf]
  | cons element rest ih => simp [textOf, ih, String.append_assoc]

namespace Draft

/-- The identifiers of a list with commas are its items. -/
theorem filterMap_ident?_separated (columns : List String) :
    (separated (columns.map .identifier)).filterMap ident? = columns := by
  induction columns with
  | nil => rfl
  | cons first rest ih =>
    cases rest with
    | nil => rfl
    | cons second rest => exact congrArg (first :: ·) ih

/-- The element of a column name list. -/
def nameList (columns : List String) : Element :=
  .node .columnNameList (enclosed (separated (columns.map .identifier)))

/-- A column name list is read as the names. -/
theorem nameList_reads {columns : List String} {piece : Piece} (h : (nameList columns).Reads piece) :
    ∃ names, piece = .columnNames names ∧ names.idents.map Token.text = columns := by
  obtain ⟨info, pieces, hkind, rfl, hreads⟩ := h.of_node
  refine ⟨⟨info, (pieces.filterMap Piece.token?).filter (·.kind == .identifier)⟩, ?_, ?_⟩
  · simp only [Piece.ofNode, hkind]
  · rw [hreads.idents, enclosed, List.cons_append, List.filterMap_cons_none rfl,
      List.filterMap_append, filterMap_ident?_separated]
    exact List.append_nil columns

/-- A token with no blank behind it is followed by the rest. -/
theorem spaceAll_token {parent kind : Kind} {text : String} (rest : List Element) (previous : Kind)
    (hattaches : attaches parent (.token kind text) = false) :
    spaceAll parent (.token kind text :: rest) (some previous) =
      ((if isSpaced previous kind then [blank] else []) ++
        .token kind text :: (spaceAll parent rest (some kind)).1, (spaceAll parent rest (some kind)).2) := by
  simp only [spaceAll, space, hattaches, needsBlank, firstKind?]
  rfl

/-- Names up to a closing parenthesis are separated by commas and blanks. -/
theorem spaceAll_names (first : String) (rest : List String) {previous : Kind}
    (h : previous = .openParen ∨ previous = .comma) :
    let spaced := spaceAll .columnNameList
      (separated ((first :: rest).map .identifier) ++ [.fixed .closeParen]) (some previous)
    textOf spaced.1 = (if previous = .comma then " " else "") ++
      (String.intercalate ", " (first :: rest) ++ ")") ∧ spaced.2 = some .closeParen := by
  induction rest generalizing first previous with
  | nil => rcases h with rfl | rfl <;> exact ⟨by rfl, rfl⟩
  | cons second rest ih =>
    have hnext : Kind.comma = .openParen ∨ Kind.comma = .comma := .inr rfl
    obtain ⟨htext, hlast⟩ := ih second hnext
    have hstep : separated ((first :: second :: rest).map .identifier) ++ [.fixed .closeParen] =
        .token .identifier first :: .token .comma "," ::
          (separated ((second :: rest).map .identifier) ++ [.fixed .closeParen]) := rfl
    simp only [hstep]
    rw [spaceAll_token _ _ rfl, spaceAll_token _ _ rfl]
    generalize spaceAll .columnNameList _ (some .comma) = spaced at htext hlast ⊢
    have hcomma : ∀ text : String, "," ++ (" " ++ text) = ", " ++ text := by
      intro text
      rw [← String.append_assoc]
      rfl
    refine ⟨?_, hlast⟩
    rcases h with rfl | rfl <;>
      simp [textOf, Element.text, blank, isSpaced, htext, String.intercalate_cons_cons,
        String.append_assoc, hcomma]

/-- **A column name list** behind the name of a table. -/
theorem space_nameList (columns : List String) :
    let spaced := space (nameList columns) (some .identifier)
    spaced.1.text = "(" ++ (String.intercalate ", " columns ++ ")") ∧ spaced.2 = some .closeParen := by
  cases columns with
  | nil => exact ⟨rfl, rfl⟩
  | cons first rest =>
    obtain ⟨htext, hlast⟩ := spaceAll_names first rest (.inl rfl)
    exact ⟨congrArg ("(" ++ ·) (htext.trans (String.empty_append ..)), hlast⟩

namespace Query

/-! ## Drafts -/

/-- **Everything from a query** in place of a table: `SELECT * FROM (query) AS label`. -/
def derived (query : Query) (label : String) : Query :=
  .select false none [.star] [.derived query label] none [] none

/-- **Everything from a table** that a query defines: `WITH ident AS (query) SELECT * FROM ident`. -/
def defined (query : Query) (ident : String) (columns : Option (List String)) : Query :=
  .withTables [.mk ident columns query] (.select false none [.star] [.byName ident none] none [] none)

/-- The text up to a query in place of a table. -/
def beforeDerived : String :=
  "SELECT * FROM ("

/-- The text up to a query that defines a table. -/
def beforeDefined (ident : String) : Option (List String) → String
  | none => "WITH " ++ ident ++ " AS ("
  | some columns => "WITH " ++ ident ++ "(" ++ String.intercalate ", " columns ++ ") AS ("

/-! ## Trees -/

/-- The element of a query with its blanks. -/
def spaced (query : Query) : Element :=
  (space query.element none).1

/-- The tree of a query alone. -/
theorem unit_element (query : Query) : query.element.unit = .node .compilationUnit [query.spaced] := by
  cases query <;> rfl

/-- The tree around a query in place of a table. -/
theorem unit_derived (query : Query) (label : String) : (query.derived label).element.unit =
    .node .compilationUnit [.node .selectQuery
      [.node .selectClause [.fixed .selectKeyword, blank,
        .node .wildcardSelectColumn [.fixed .star]], blank,
      .node .fromClause [.fixed .fromKeyword, blank, .node .derivedTableReference
        [.fixed .openParen, query.spaced, .fixed .closeParen, blank, .fixed .asKeyword, blank,
          .identifier label]]]] := by
  have hparent : Kind.derivedTableReference ≠ .unaryExpression := by decide
  have henclosed := spaceAll_enclosed hparent query.element [.fixed .asKeyword, .identifier label]
    (some .whitespace)
  have hunit : (query.derived label).element.unit = .node .compilationUnit [.node .selectQuery
      [.node .selectClause [.fixed .selectKeyword, blank,
        .node .wildcardSelectColumn [.fixed .star]], blank,
      .node .fromClause [.fixed .fromKeyword, blank, .node .derivedTableReference
        (spaceAll .derivedTableReference (.fixed .openParen :: query.element :: .fixed .closeParen ::
          [.fixed .asKeyword, .identifier label]) (some .whitespace)).1]]] := rfl
  rw [hunit, henclosed]
  rfl

/-- A column name list with its blanks, if there is one. -/
def spacedNames : Option (List String) → List Element
  | none => []
  | some columns => [(space (nameList columns) (some .identifier)).1]

/-- A definition with its blanks. -/
theorem spaceAll_definition (query : Query) (ident : String) (columns : Option (List String)) :
    spaceAll .commonTableExpression (.identifier ident :: columnNames columns ++
      .fixed .asKeyword :: enclosed [query.element]) (some .whitespace) =
        (.identifier ident :: spacedNames columns ++
          [blank, .fixed .asKeyword, blank, .fixed .openParen, query.spaced, .fixed .closeParen],
          some .closeParen) := by
  have hparent : Kind.commonTableExpression ≠ .unaryExpression := by decide
  have henclosed := spaceAll_enclosed hparent query.element [] (some .asKeyword)
  have hbehind : ∀ previous, previous = .identifier ∨ previous = .closeParen →
      (spaceAll .commonTableExpression (.fixed .asKeyword :: enclosed [query.element])
        (some previous)).1 =
          [blank, .fixed .asKeyword, blank, .fixed .openParen, query.spaced, .fixed .closeParen] := by
    rintro _ (rfl | rfl)
    all_goals exact congrArg (blank :: Element.fixed .asKeyword :: ·) henclosed
  refine Prod.ext ?_ (by cases columns <;> rfl)
  cases columns with
  | none => exact congrArg (Element.identifier ident :: ·) (hbehind _ (.inl rfl))
  | some columns =>
    obtain ⟨-, hlast⟩ := space_nameList columns
    have hnames : (spaceAll .commonTableExpression (.identifier ident :: columnNames (some columns) ++
        .fixed .asKeyword :: enclosed [query.element]) (some .whitespace)).1 =
          .identifier ident :: (space (nameList columns) (some .identifier)).1 ::
            (spaceAll .commonTableExpression (.fixed .asKeyword :: enclosed [query.element])
              (space (nameList columns) (some .identifier)).2).1 := rfl
    rw [hnames, hlast, hbehind _ (.inr rfl)]
    rfl

/-- The tree around a query that defines a table. -/
theorem unit_defined (query : Query) (ident : String) (columns : Option (List String)) :
    (query.defined ident columns).element.unit =
      .node .compilationUnit [.node .commonTableExpressionQuery
        [.fixed .withKeyword, blank, .node .commonTableExpression
          (.identifier ident :: spacedNames columns ++
            [blank, .fixed .asKeyword, blank, .fixed .openParen, query.spaced, .fixed .closeParen]),
        blank, .node .selectQuery
          [.node .selectClause [.fixed .selectKeyword, blank,
            .node .wildcardSelectColumn [.fixed .star]], blank,
          .node .fromClause [.fixed .fromKeyword, blank,
            .node .namedTableReference [.identifier ident]]]]] := by
  have hdefinition := spaceAll_definition query ident columns
  generalize hchildren : Element.identifier ident :: columnNames columns ++
    .fixed .asKeyword :: enclosed [query.element] = children at hdefinition
  have hunit : (query.defined ident columns).element.unit =
      .node .compilationUnit [.node .commonTableExpressionQuery
        (.fixed .withKeyword :: blank :: .node .commonTableExpression
          (spaceAll .commonTableExpression children (some .whitespace)).1 ::
            (spaceAll .commonTableExpressionQuery
              [(Query.select false none [.star] [.byName ident none] none [] none).element]
              (spaceAll .commonTableExpression children (some .whitespace)).2).1)] := by
    rw [← hchildren]
    rfl
  rw [hunit, hdefinition]
  rfl

/-! ## Texts -/

/-- **The text around a query** in place of a table. -/
theorem text_derived (query : Query) (label : String) : (Whole.query (query.derived label)).text =
    beforeDerived ++ (Whole.query query).text ++ (") AS " ++ label) := by
  have hbefore : beforeDerived = "SELECT" ++ (" " ++ ("*" ++ (" " ++ ("FROM" ++ (" " ++ "("))))) := rfl
  have hafter : ") AS " = ")" ++ (" " ++ ("AS" ++ " ")) := rfl
  change (query.derived label).element.unit.text = beforeDerived ++ query.element.unit.text ++ _
  rw [unit_derived, unit_element, hbefore, hafter]
  simp only [Element.text, textOf, fixed, blank, identifier, String.append_assoc, String.append_empty]
  rfl

/-- The text up to a query that defines a table, token by token. -/
theorem beforeDefined_eq (ident : String) (columns : Option (List String)) :
    beforeDefined ident columns = "WITH" ++ (" " ++ (ident ++ (textOf (spacedNames columns) ++
      (" " ++ ("AS" ++ (" " ++ "(")))))) := by
  have hwith : "WITH " = "WITH" ++ " " := rfl
  cases columns with
  | none =>
    have has : " AS (" = " " ++ ("AS" ++ (" " ++ "(")) := rfl
    simp only [beforeDefined, spacedNames, textOf, hwith, has, String.append_assoc, String.empty_append]
  | some columns =>
    have has : ") AS (" = ")" ++ (" " ++ ("AS" ++ (" " ++ "("))) := rfl
    simp only [beforeDefined, spacedNames, textOf, (space_nameList columns).1, hwith, has,
      String.append_assoc, String.append_empty]

/-- **The text around a query** that defines a table. -/
theorem text_defined (query : Query) (ident : String) (columns : Option (List String)) :
    (Whole.query (query.defined ident columns)).text =
      beforeDefined ident columns ++ (Whole.query query).text ++ (") SELECT * FROM " ++ ident) := by
  have hafter : ") SELECT * FROM " =
    ")" ++ (" " ++ ("SELECT" ++ (" " ++ ("*" ++ (" " ++ ("FROM" ++ " ")))))) := rfl
  change (query.defined ident columns).element.unit.text = _ ++ query.element.unit.text ++ _
  rw [unit_defined, unit_element, beforeDefined_eq, hafter]
  simp only [Element.text, textOf, textOf_append, List.cons_append, fixed, blank, identifier,
    String.append_assoc, String.append_empty]
  rfl

/-! ## Readings -/

/-- The tree of a query is read as such a query. -/
theorem reads_parenthesized {inner : Query} {read : Ast.Query}
    (h : (parenthesized inner).element.Reads (.query read)) :
    ∃ info read', read = .parenthesized info (some read') ∧ inner.element.Reads (.query read') := by
  rw [Query.element] at h
  obtain ⟨info, pieces, hkind, hread, hreads⟩ := h.of_node
  simp only [Piece.ofNode, hkind] at hread
  obtain rfl := Piece.query.inj hread
  have hmem : inner.element ∈ enclosed [inner.element] := by simp [enclosed]
  obtain ⟨piece, hpiece, hinner⟩ := hreads.exists_of_element hmem
  obtain ⟨other, rfl⟩ := Query.reads hinner
  have hsome : (pieces.findSome? Piece.query?).isSome = true :=
    List.findSome?_isSome_iff.2 ⟨_, hpiece, rfl⟩
  obtain ⟨read', hfound⟩ := Option.isSome_iff_exists.1 hsome
  refine ⟨info, read', by rw [hfound], ?_⟩
  obtain ⟨piece, hpiece, hquery⟩ := List.exists_of_findSome?_eq_some hfound
  -- whatever else is between the parentheses is a token
  rcases hreads.exists_of_mem hpiece with ⟨leaf, rfl⟩ | ⟨element, helement, hreads⟩
  · cases hquery
  · simp only [enclosed, List.cons_append, List.nil_append, List.mem_cons, List.not_mem_nil,
      or_false] at helement
    rcases helement with rfl | rfl | rfl
    · obtain ⟨offset, rfl⟩ := hreads.of_token
      cases hquery
    · obtain ⟨read, rfl⟩ := Query.reads hreads
      obtain rfl : read = read' := Option.some.inj hquery
      exact hreads
    · obtain ⟨offset, rfl⟩ := hreads.of_token
      cases hquery

/-- **A query is read as no empty nest of parentheses.** -/
theorem core_ne : ∀ {query : Query} {read : Ast.Query}, query.element.Reads (.query read) →
    ∀ info, read.core ≠ .parenthesized info none
  | .parenthesized inner, read, h, info => by
    obtain ⟨own, read', rfl, hinner⟩ := reads_parenthesized h
    rw [Ast.Query.core, Ast.Query.coreOr]
    exact core_ne hinner info
  | .select _ _ _ _ _ _ _, read, h, info | .combined _ _ _, read, h, info
  | .ordered _ _, read, h, info | .withTables _ _, read, h, info => by
    rw [Query.element] at h
    obtain ⟨own, pieces, hkind, hread, -⟩ := h.of_node
    simp only [Piece.ofNode, hkind] at hread
    cases hread
    intro h
    cases h

/-- **A query is read as one**, wherever it stands, and as no empty nest of parentheses. -/
theorem exists_read (query : Query) : ∃ read : Nat → Nat → Ast.Query,
    (∀ index offset, (query.spaced.locate index offset).1.piece = .query (read index offset)) ∧
      ∀ index offset info, (read index offset).core ≠ .parenthesized info none := by
  have hreads : ∀ index offset, query.element.Reads (query.spaced.locate index offset).1.piece :=
    fun index offset => ⟨none, index, offset, rfl⟩
  choose read hread using fun index offset => Draft.Query.reads (hreads index offset)
  refine ⟨read, hread, fun index offset => ?_⟩
  have h := hreads index offset
  rw [hread] at h
  exact core_ne h

/-- **The tree of a query alone** is read as the query. -/
theorem unit_reads (query : Query) {read : Nat → Nat → Ast.Query}
    (h : ∀ index offset, (query.spaced.locate index offset).1.piece = .query (read index offset)) :
    ∃ info, (query.element.unit.locate 0 0).1.piece = .unit ⟨info, some (read 1 0), none⟩ := by
  rw [unit_element]
  simp only [Element.locate, Element.locateAll, Located.piece, Located.pieces, h]
  exact ⟨_, rfl⟩

/-- **The tree around a query** in place of a table is read as such a query. -/
theorem derived_reads (query : Query) (label : String) {read : Nat → Nat → Ast.Query}
    (h : ∀ index offset, (query.spaced.locate index offset).1.piece = .query (read index offset)) :
    ∃ info inner clause star sources reference ident,
      ((query.derived label).element.unit.locate 0 0).1.piece =
        .unit ⟨info, some (.select inner (some (.mk clause false none [.wildcard star none]))
          (some (.mk sources [.derived reference (some (read 6 beforeDerived.utf8ByteSize)) ident]))
            none none none), none⟩ := by
  rw [unit_derived]
  simp only [Element.locate, Element.locateAll, Located.piece, Located.pieces, fixed, blank,
    identifier, h]
  exact ⟨_, _, _, _, _, _, _, rfl⟩

/-- Selecting everything from a table by name is read as such a query. -/
theorem star_reads (ident : String) (index offset : Nat) :
    ∃ inner clause star sources reference token, ((Element.node .selectQuery
      [.node .selectClause [.fixed .selectKeyword, blank,
        .node .wildcardSelectColumn [.fixed .star]], blank,
      .node .fromClause [.fixed .fromKeyword, blank,
        .node .namedTableReference [.identifier ident]]]).locate index offset).1.piece =
        .query (.select inner (some (.mk clause false none [.wildcard star none]))
          (some (.mk sources [.named reference (some token) none])) none none none) ∧
        token.text = ident :=
  ⟨_, _, _, _, _, _, rfl, rfl⟩

/-- A definition is read as one, with the query behind its names. -/
theorem definition_reads (query : Query) (ident : String) (columns : Option (List String))
    {read : Nat → Nat → Ast.Query}
    (h : ∀ index offset, (query.spaced.locate index offset).1.piece = .query (read index offset))
    (index offset : Nat) :
    ∃ info token names place start, ((Element.node .commonTableExpression
      (.identifier ident :: spacedNames columns ++
        [blank, .fixed .asKeyword, blank, .fixed .openParen, query.spaced,
          .fixed .closeParen])).locate index offset).1.piece =
        .commonTable (.mk info (some token) names (some (read place start))) ∧
      token.text = ident ∧ names.map (fun names => names.idents.map Token.text) = columns ∧
      1 ≤ place ∧ start = offset + (ident ++ (textOf (spacedNames columns) ++
        (" " ++ ("AS" ++ (" " ++ "("))))).utf8ByteSize := by
  have has : Kind.asKeyword.fixedText = "AS" := rfl
  have hopen : Kind.openParen.fixedText = "(" := rfl
  have hstop : ∀ leaf, (Located.token leaf).stop = leaf.start + leaf.text.utf8ByteSize := fun _ => rfl
  cases columns with
  | none =>
    simp only [Element.locate, Element.locateAll, Located.piece, Located.pieces, fixed, blank,
      identifier, h, spacedNames, List.cons_append, List.nil_append]
    refine ⟨_, _, none, _, _, rfl, rfl, rfl, Nat.le_add_left 1 index, ?_⟩
    simp only [hstop, textOf, String.utf8ByteSize_append, String.utf8ByteSize_empty, has, hopen]
    omega
  | some columns =>
    have hreads : ∀ index offset, (nameList columns).Reads
        ((space (nameList columns) (some .identifier)).1.locate index offset).1.piece :=
      fun index offset => ⟨some .identifier, index, offset, rfl⟩
    choose names hnames hidents using fun index offset => nameList_reads (hreads index offset)
    simp only [Element.locate, Element.locateAll, Located.piece, Located.pieces, fixed, blank,
      identifier, h, hnames, spacedNames, List.cons_append, List.nil_append]
    refine ⟨_, _, some (names _ _), _, _, rfl, rfl, congrArg some (hidents _ _),
      Nat.le_trans (Nat.le_add_left 1 index) (placed_locate _ _ _).le.1, ?_⟩
    simp only [hstop, stop_locate, length_eq, textOf, String.utf8ByteSize_append,
      String.utf8ByteSize_empty, has, hopen]
    omega

/-- **The tree around a query** that defines a table is read as such a query. -/
theorem defined_reads (query : Query) (ident : String) (columns : Option (List String))
    {read : Nat → Nat → Ast.Query}
    (h : ∀ index offset, (query.spaced.locate index offset).1.piece = .query (read index offset)) :
    ∃ info outer definition token names index inner clause star sources reference token',
      ((query.defined ident columns).element.unit.locate 0 0).1.piece =
        .unit ⟨info, some (.withTables outer
          [.mk definition (some token) names
            (some (read index (beforeDefined ident columns).utf8ByteSize))]
          (some (.select inner (some (.mk clause false none [.wildcard star none]))
            (some (.mk sources [.named reference (some token') none])) none none none))), none⟩ ∧
        token.text = ident ∧ token'.text = ident ∧
        names.map (fun names => names.idents.map Token.text) = columns ∧ 1 ≤ index := by
  choose definition token names index start hdefinition htoken hnames hindex hstart using
    definition_reads query ident columns h
  choose inner clause star sources reference token' hmain htoken' using star_reads ident
  have hbefore : start 2 5 = (beforeDefined ident columns).utf8ByteSize := by
    have hfive : ("WITH" ++ " ").utf8ByteSize = 5 := rfl
    rw [hstart, beforeDefined_eq, ← hfive]
    simp only [String.utf8ByteSize_append]
    omega
  rw [unit_defined, ← hbefore]
  generalize Element.node .commonTableExpression _ = made at hdefinition ⊢
  generalize Element.node .selectQuery _ = main at hmain ⊢
  simp only [Element.locate, Element.locateAll, Located.piece, Located.pieces, fixed, blank,
    hdefinition, hmain]
  exact ⟨_, _, definition 2 5, token 2 5, names 2 5, index 2 5, _, _, _, _, _, token' _ _, rfl,
    htoken _ _, htoken' _ _, hnames _ _, hindex _ _⟩

end Query

end Draft

end QuerySemantics
