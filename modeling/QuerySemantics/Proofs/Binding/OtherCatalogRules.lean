import QuerySemantics.Proofs.Binding.OtherCatalog
import QuerySemantics.Proofs.Binding.Logic
import QuerySemantics.Proofs.Binding.Overload

/-!
# The rules of binding in tandem

Each rule makes the same of the same tokens and bound parts, if the names in question are mentioned by
the tree. What it makes of an identifier is called so, and what it introduces has names that are in play.

## Main results

* `Binding.Together.name`, `Binding.Together.qualified`, `Binding.Together.call` and fellows: the rules for
  expressions that refer to something.
* `Binding.backs_property`, `Binding.backs_method`: a member that an expression refers to was found among
  those that are remembered.
* `Binding.Together.namedTable`, `Binding.Together.wildcard`, `Binding.Together.combine`,
  `Binding.Together.define` and fellows: the rules for table references and queries.
-/

set_option autoImplicit false

namespace QuerySemantics

namespace Binding

variable {a : CatalogPair} {scope : Scope}

/-! ## Members that are remembered -/

/-- Looking at the mode in which names are compared changes nothing. -/
theorem Ends.caseSensitive {α : Type} {env : Env} {pass : Pass} {rest : Bool → BindM α}
    {post : α → Pass → Prop} (h : Ends env pass (rest env.options.caseSensitive) post) :
    Ends env pass (Binding.caseSensitive >>= rest) post :=
  h

/-- **A property of a type** is remembered for it. -/
theorem found_propertyNamed (type : SqlType) (token : Token) (env : Env) (pass : Pass) :
    Ends env pass (propertyNamed type token) fun symbol after => symbol.isMember = true →
      ∃ it found, symbol = .property it ∧ after.members.properties? type = some found ∧ it ∈ found := by
  unfold propertyNamed
  dsimp only
  split
  · exact fun h => nomatch h
  · have hasked : Ends env pass (propertiesOf type) fun found after =>
        after.members.properties? type = some found :=
      (pass.members.askProperties_extends _ type pass.next).2
    refine .caseSensitive (hasked.bind fun found after hfound => ?_)
    split
    next it hselect =>
      have hmem : it ∈ Matching.select env.options.caseSensitive Property.name token.ident found :=
        hselect ▸ List.mem_singleton_self it
      exact .pure fun _ => ⟨it, found, rfl, hfound, Matching.mem_of_mem_select hmem⟩
    all_goals exact fun h => nomatch h

/-- **A method of a type** is remembered for it. -/
theorem found_methodNamed (span : Span) (type : SqlType) (token : Token) (arguments : List SqlType)
    (env : Env) (pass : Pass) :
    Ends env pass (methodNamed span type token arguments) fun symbol after => symbol.isMember = true →
      ∃ it found, symbol = .method it ∧ after.members.methods? type = some found ∧ it ∈ found := by
  unfold methodNamed
  dsimp only
  split
  · exact fun h => nomatch h
  · have hasked : Ends env pass (methodsOf type) fun found after =>
        after.members.methods? type = some found :=
      (pass.members.askMethods_extends _ type pass.next).2
    refine .caseSensitive (hasked.bind fun found after hfound => ?_)
    split
    · exact fun h => nomatch h
    next candidates =>
      split
      next it hselect =>
        exact .pure fun _ => ⟨it, found, rfl, hfound,
          Matching.mem_of_mem_select (Overload.select_selected hselect).1⟩
      · unfold ambiguousCall
        split <;> exact fun h => nomatch h
      · exact fun h => nomatch h

/-- **A bound property** is backed by what is remembered. -/
theorem backs_property (target : Bound.Expr) (token : Token) (env : Env) (pass : Pass) :
    Ends env pass (property target token) fun bound after => after.members.Backs bound := by
  refine (found_propertyNamed target.type token env pass).bind fun symbol after hsymbol => .pure ⟨?_, ?_⟩
  · rintro it hit
    cases hit
    obtain ⟨_, found, hsame, hfound, hmem⟩ := hsymbol rfl
    cases hsame
    exact ⟨target, found, rfl, hfound, hmem⟩
  · rintro it hit
    cases hit
    obtain ⟨_, _, hnone, _⟩ := hsymbol rfl
    cases hnone

/-- **A bound method** is backed by what is remembered. -/
theorem backs_method (info : NodeInfo) (ident : Option Token) (target : Bound.Expr)
    (arguments : List Bound.Expr) (env : Env) (pass : Pass) :
    Ends env pass (method info ident target arguments) fun bound after =>
      after.members.Backs bound := by
  cases ident with
  | none => exact .of_plain fun symbol hsymbol => by cases hsymbol; rfl
  | some token =>
    refine (found_methodNamed info.span target.type token _ env pass).bind fun symbol after hsymbol =>
      .pure ⟨?_, ?_⟩
    · rintro it hit
      cases hit
      obtain ⟨_, _, hnone, _⟩ := hsymbol rfl
      cases hnone
    · rintro it hit
      cases hit
      obtain ⟨_, found, hsame, hfound, hmem⟩ := hsymbol rfl
      cases hsame
      exact ⟨target, arguments, found, rfl, hfound, hmem⟩

namespace Together

/-! ## Names and variables -/

/-- What refers to nothing is called as the identifier says. -/
theorem unresolvedName (span : Span) (problem : Problem) (token : Token) :
    Together a scope (Binding.unresolved span problem token.ident) fun symbol =>
        symbol.isMember = false ∧ token.Spells symbol.name :=
  (unresolved span problem token.ident).mono fun _ ⟨hname, hmember⟩ =>
    ⟨hmember, hname ▸ token.spells_ident⟩

/-- A symbol for what cannot be resolved is called as the identifier says. -/
theorem badSymbolName (token : Token) :
    Together a scope (Binding.badSymbol token.ident) fun symbol =>
      symbol.isMember = false ∧ token.Spells symbol.name :=
  (badSymbol token.ident).mono fun _ ⟨hname, hmember⟩ => ⟨hmember, hname ▸ token.spells_ident⟩

/-- A missing expression refers to nothing. -/
theorem missing :
    Together a scope Binding.missingExpr fun bound => bound.Called none :=
  missingExpr.mono fun _ => .of_plain

/-- A name that the tree mentions is resolved alike over both catalogs, to something of that name. -/
theorem name {ident : Option Token} (h : ∀ token ∈ ident, a.part.Mentions token.ident) :
    Together a scope (Binding.name ident) (·.Called ident) := by
  cases ident with
  | none => exact missing
  | some token =>
    refine Tandem.seeing fun hscope => .currentScope (.caseSensitive ?_)
    simp only [hscope.resolveValue (h token rfl)]
    split
    next symbol hfound =>
      exact pure _ (.of_symbol rfl (Scope.isMember_of_resolveValue hfound)
        (Scope.name_of_resolveValue hfound))
    all_goals
      exact (unresolvedName _ _ token).bind fun _ hsymbol =>
        pure _ (.of_symbol rfl hsymbol.1 hsymbol.2)

/-- A parameter that the tree mentions is resolved alike over both catalogs. -/
theorem hostVariable (info : NodeInfo) {ident : Option Token}
    (h : ∀ token ∈ ident, a.part.Mentions token.ident) :
    Together a scope (Binding.hostVariable info ident)
      (·.Called ident) := by
  cases ident with
  | none => exact missing
  | some token =>
    refine Tandem.seeing fun hscope => .currentScope (.caseSensitive ?_)
    simp only [hscope.hostVariable? (h token rfl)]
    split
    next found hfound =>
      have hspells : token.Spells found.name :=
        Matching.equalIgnoringCase_of_mem_select (List.mem_of_head? hfound)
      exact pure _ (.of_symbol rfl rfl hspells)
    · exact (unresolvedName _ _ token).bind fun _ hsymbol =>
        pure _ (.of_symbol rfl hsymbol.1 hsymbol.2)

/-! ## Qualified names -/

/-- A column of an instance with names in play is looked up alike. -/
theorem columnOf {table : TableInstance} {token : Token} (h : a.part.Mentions token.ident)
    (htable : ∀ name ∈ table.names, a.Named name) :
    Together a scope (Binding.columnOf table token) fun symbol =>
      symbol.isMember = false ∧ token.Spells symbol.name := by
  have hcolumns : ∀ column ∈ table.columns, a.Named column.name := fun column hcolumn =>
    htable _ (List.mem_cons_of_mem _ (List.mem_map_of_mem hcolumn))
  refine Tandem.caseSensitive ?_
  simp only [(a.choice h).select hcolumns]
  split
  next column hcolumn =>
    have hmem : column ∈ Matching.select a.options.caseSensitive InstanceColumn.name token.ident
        table.columns := hcolumn ▸ List.mem_singleton_self column
    have hspells : token.Spells column.name := Matching.equalIgnoringCase_of_mem_select hmem
    exact pure _ ⟨rfl, hspells⟩
  · split
    · exact badSymbolName token
    · exact unresolvedName _ _ token
  · exact unresolvedName _ _ token

/-- A property of what cannot be resolved is made alike. -/
theorem propertyOfBad {info : NodeInfo} {token : Token}
    (hreads : a.part.Reads (.expr (.name info (some token)))) (span : Span) (problem : Problem)
    (member : Token) :
    Together a scope (Binding.propertyOfBad info token.ident span problem member.ident)
        (·.Called (some member)) :=
  (report span problem).bind fun _ _ => (badName token.ident).bind fun target hbad => by
    obtain ⟨symbol, rfl, hname, hmember⟩ := hbad
    have hcalled : (Bound.Expr.name symbol).Called (some token) :=
      .of_symbol rfl hmember (hname ▸ token.spells_ident)
    exact (recordExpr hreads rfl hcalled.spelled hcalled.plain).bind fun _ _ =>
      (badSymbolName member).bind fun _ hsymbol => pure _ (.of_symbol rfl hsymbol.1 hsymbol.2)

/-- **A decided qualifier.** -/
theorem qualified {info : NodeInfo} {token member : Token}
    (hreads : a.part.Reads (.expr (.name info (some token)))) (h : a.part.Mentions member.ident) :
    Together a scope (Binding.qualified info token member)
      fun decided => ∀ it, decided = some it → it.Called (some member) := by
  have htoken : a.part.Mentions token.ident := hreads.mentions (List.mem_singleton_self token)
  refine Tandem.seeing fun hscope => .currentScope (.caseSensitive ?_)
  dsimp only
  simp only [hscope.resolveInstance htoken, hscope.resolveValue htoken]
  split
  next table hfound =>
    obtain ⟨hname, hnames⟩ := Scope.name_of_resolveInstance hfound
    have hcalled : (Bound.Expr.name (.tableInstance table)).Called (some token) :=
      .of_symbol rfl rfl hname
    exact (recordExpr hreads rfl hcalled.spelled hcalled.plain).bind fun _ _ =>
      (columnOf h fun name hname => hscope.names name (hnames name hname)).bind fun _ hsymbol =>
        pure _ fun _ hit => Option.some.inj hit ▸ .of_symbol rfl hsymbol.1 hsymbol.2
  · exact (propertyOfBad hreads _ _ member).bind fun _ hbound =>
      pure _ fun _ hit => Option.some.inj hit ▸ hbound
  · split
    · exact (propertyOfBad hreads _ _ member).bind fun _ hbound =>
        pure _ fun _ hit => Option.some.inj hit ▸ hbound
    · exact pure _ fun _ hit => nomatch hit

/-! ## Members -/

/-- A property that the tree mentions is looked up alike, and called as the identifier says. -/
theorem propertyNamed (type : SqlType) {token : Token} (h : a.part.Mentions token.ident) :
    Together a scope (Binding.propertyNamed type token) fun symbol =>
      token.Spells symbol.name := by
  unfold Binding.propertyNamed
  dsimp only
  split
  · exact (badSymbolName token).mono fun _ => And.right
  · refine Tandem.caseSensitive ((propertiesOf type).bindView fun found hfound => ?_)
    simp only [id, (a.choice h).select hfound]
    split
    next it hit =>
      have hmem : it ∈ Matching.select a.options.caseSensitive Property.name token.ident found :=
        hit ▸ List.mem_singleton_self it
      have hspells : token.Spells it.name := Matching.equalIgnoringCase_of_mem_select hmem
      exact pure _ hspells
    all_goals exact (unresolvedName _ _ token).mono fun _ => And.right

/-- A property that the tree mentions is bound alike. -/
theorem property (target : Bound.Expr) {token : Token} (h : a.part.Mentions token.ident) :
    Together a scope (Binding.property target token)
      (·.Spelled (some token)) :=
  (propertyNamed target.type h).bind fun symbol hsymbol => pure _ fun other hother leaf hleaf => by
    cases hother
    cases hleaf
    exact hsymbol

/-- An ambiguous call is reported alike. -/
theorem ambiguousCall (span : Span) (token : Token) (arguments : List SqlType)
    (candidates : List String) :
    Together a scope (Binding.ambiguousCall span token.ident arguments candidates) fun symbol =>
        symbol.isMember = false ∧ token.Spells symbol.name := by
  unfold Binding.ambiguousCall
  split
  · exact badSymbolName token
  · exact unresolvedName _ _ token

/-- A method that the tree mentions is looked up alike, and called as the identifier says. -/
theorem methodNamed (span : Span) (type : SqlType) (arguments : List SqlType) {token : Token}
    (h : a.part.Mentions token.ident) :
    Together a scope (Binding.methodNamed span type token arguments)
      fun symbol => token.Spells symbol.name := by
  unfold Binding.methodNamed
  dsimp only
  split
  · exact (badSymbolName token).mono fun _ => And.right
  · refine Tandem.caseSensitive ((methodsOf type).bindView fun found hfound => ?_)
    simp only [id, (a.choice h).select hfound]
    split
    · exact (unresolvedName _ _ token).mono fun _ => And.right
    · split
      next it hit =>
        have hspells : token.Spells it.name :=
          Matching.equalIgnoringCase_of_mem_select (Overload.select_selected hit).1
        exact pure _ hspells
      · exact (ambiguousCall _ token _ _).mono fun _ => And.right
      · exact (unresolvedName _ _ token).mono fun _ => And.right

/-- A method call that the tree mentions is bound alike. -/
theorem method (info : NodeInfo) {ident : Option Token} (target : Bound.Expr)
    (arguments : List Bound.Expr) (h : ∀ token ∈ ident, a.part.Mentions token.ident) :
    Together a scope (Binding.method info ident target arguments) (·.Spelled ident) := by
  cases ident with
  | none => exact missing.mono fun _ => Bound.Expr.Called.spelled
  | some token =>
    refine (methodNamed _ _ _ (h token rfl)).bind fun symbol hsymbol =>
      pure _ fun other hother leaf hleaf => ?_
    cases hother
    cases hleaf
    exact hsymbol

/-! ## Calls -/

/-- A function is chosen alike among functions of the name. -/
theorem overload (span : Span) (token : Token) (arguments : List SqlType) {functions : List Function}
    (h : ∀ it ∈ functions, token.Spells it.name) :
    Together a scope (Binding.overload span token.ident arguments functions) fun chosen =>
        chosen.1.isMember = false ∧ token.Spells chosen.1.name := by
  unfold Binding.overload
  split
  next it hit => exact pure _ ⟨rfl, h it (Overload.select_selected hit).1⟩
  · exact (ambiguousCall _ token _ _).bind fun _ hsymbol => pure _ hsymbol
  · exact (unresolvedName _ _ token).bind fun _ hsymbol => pure _ hsymbol

/-- An aggregate is typed alike. -/
theorem aggregateType (span : Span) (it : Aggregate) (arguments : List SqlType) :
    Together a scope (Binding.aggregateType span it arguments) fun _ => True := by
  unfold Binding.aggregateType
  split
  · exact pure _ trivial
  · exact (report _ _).bind fun _ _ => pure _ trivial

/-- An aggregate is called as the name that finds it. -/
theorem spells_aggregate? {cased : Bool} {token : Token} {it : Aggregate}
    (h : scope.aggregate? cased token.ident = some it) : token.Spells it.name :=
  Matching.equalIgnoringCase_of_mem_select (List.mem_of_head? h)

/-- A call that the tree mentions is bound alike. -/
theorem call (info : NodeInfo) {ident : Option Token} (arguments : List Bound.Expr)
    (h : ∀ token ∈ ident, a.part.Mentions token.ident) :
    Together a scope (Binding.call info ident arguments)
      (·.Called ident) := by
  cases ident with
  | none => exact missing
  | some token =>
    refine Tandem.seeing fun hscope => .currentScope (.caseSensitive ?_)
    dsimp only
    simp only [hscope.functionsNamed (h token rfl), hscope.aggregate? (h token rfl)]
    split
    · split
      next it hit =>
        exact (aggregateType _ it _).bind fun _ _ =>
          pure _ (.of_symbol rfl rfl (spells_aggregate? hit))
      · exact (unresolvedName _ _ token).bind fun _ hsymbol =>
          pure _ (.of_symbol rfl hsymbol.1 hsymbol.2)
    · refine (overload _ token _ fun it hit => ?_).bind fun _ hsymbol =>
        pure _ (.of_symbol rfl hsymbol.1 hsymbol.2)
      exact Matching.equalIgnoringCase_of_mem_select hit

/-- A count of rows is bound alike. -/
theorem countAll (info : NodeInfo) {ident : Option Token}
    (h : ∀ token ∈ ident, a.part.Mentions token.ident) :
    Together a scope (Binding.countAll info ident) (·.Called ident) := by
  cases ident with
  | none => exact missing
  | some token =>
    refine Tandem.seeing fun hscope => .currentScope (.caseSensitive ?_)
    simp only [hscope.aggregate? (h token rfl)]
    split
    · exact (unresolvedName _ _ token).bind fun _ hsymbol =>
        pure _ (.of_symbol rfl hsymbol.1 hsymbol.2)
    next it hit =>
      have hcalled : ∀ type, (Bound.Expr.aggregate (.aggregate it) none type).Called (some token) :=
        fun _ => .of_symbol rfl rfl (spells_aggregate? hit)
      split
      · exact pure _ (hcalled _)
      · exact (report _ _).bind fun _ _ => pure _ (hcalled _)

/-! ## Literals, operators and conversions -/

/-- A missing expression is called as well as any without an identifier. -/
theorem literal (token : Option Token) :
    Together a scope (Binding.literal token) (·.Called none) := by
  cases token with
  | none => exact missing
  | some token =>
    unfold Binding.literal
    dsimp only
    split
    · exact pure _ (.of_none rfl)
    · exact (report _ _).bind fun _ _ => pure _ (.of_none rfl)

/-- A type that there is or is not is taken alike. -/
theorem typeOrReport (span : Span) (problem : Problem) (result : Option SqlType) :
    Together a scope (Binding.typeOrReport span problem result) fun _ => True := by
  unfold Binding.typeOrReport
  split
  · exact pure _ trivial
  · exact (report _ _).bind fun _ _ => pure _ trivial

/-- A unary operator is bound alike. -/
theorem unary (info : NodeInfo) (token : Option Token) (operand : Bound.Expr) :
    Together a scope (Binding.unary info token operand)
      (·.Called none) := by
  unfold Binding.unary
  split
  · exact missing
  · exact (typeOrReport _ _ _).bind fun _ _ => pure _ (.of_none rfl)

/-- A binary operator is bound alike. -/
theorem binary (info : NodeInfo) (token : Option Token) (negated : Bool) (left right : Bound.Expr) :
    Together a scope (Binding.binary info token negated left right) (·.Called none) := by
  unfold Binding.binary
  split
  · exact missing
  · exact (typeOrReport _ _ _).bind fun _ _ => pure _ (.of_none rfl)

/-- A type that the tree mentions is resolved alike. -/
theorem typeNamed {ident : Option Token} (h : ∀ token ∈ ident, a.part.Mentions token.ident) :
    Together a scope (Binding.typeNamed ident) fun _ => True := by
  cases ident with
  | none => exact pure _ trivial
  | some token =>
    refine Tandem.seeing fun hscope => .currentScope ?_
    simp only [hscope.resolveType? (h token rfl)]
    exact typeOrReport _ _ _

/-- A conversion to a type that the tree mentions is bound alike. -/
theorem cast (info : NodeInfo) (operand : Bound.Expr) {target : Option Ast.TypeName}
    (h : ∀ token ∈ target.bind Ast.TypeName.ident, a.part.Mentions token.ident) :
    Together a scope (Binding.cast info operand target)
      (·.symbol? = none) :=
  (typeNamed h).bind fun _ _ => (typeOrReport _ _ _).bind fun _ _ => pure _ rfl

/-- A condition is checked alike. -/
theorem checkCondition (span : Span) (place : ConditionPlace) (condition : Bound.Expr) :
    Together a scope (Binding.checkCondition span place condition) fun _ => True := by
  unfold Binding.checkCondition
  split
  · exact report _ _
  · exact pure _ trivial

/-- A label of a `CASE` is checked alike. -/
theorem checkLabel (input : Option Bound.Expr) (written : Option Ast.Expr) (condition : Bound.Expr) :
    Together a scope (Binding.checkLabel input written condition) fun _ => True := by
  unfold Binding.checkLabel
  split
  · exact pure _ trivial
  · exact checkCondition _ _ _
  · split
    · exact report _ _
    · exact pure _ trivial

/-- A `CASE` is typed alike. -/
theorem caseOf (info : NodeInfo) (input : Option Bound.Expr) (labels : List Bound.CaseLabel)
    (otherwise : Option Bound.Expr) :
    Together a scope (Binding.caseOf info input labels otherwise) (·.Called none) := by
  unfold Binding.caseOf
  split
  · exact pure _ (.of_none rfl)
  · exact (report _ _).bind fun _ _ => pure _ (.of_none rfl)

/-! ## Subselects -/

/-- The column of a query that stands for a value is taken alike. -/
theorem singleColumn (span : Span) (query : Bound.Query) :
    Together a scope (Binding.singleColumn span query)
      fun _ => True := by
  unfold Binding.singleColumn
  split
  · exact pure _ trivial
  · exact (report _ _).bind fun _ _ => pure _ trivial

/-- A subselect is bound alike. -/
theorem subselect (info : NodeInfo) (query : Bound.Query) :
    Together a scope (Binding.subselect info query) (·.Called none) :=
  (singleColumn _ _).bind fun _ _ => pure _ (.of_none rfl)

/-- A quantified comparison is bound alike. -/
theorem quantified (info : NodeInfo) (token : Option Token) (quantifier : Quantifier)
    (left : Bound.Expr) (query : Bound.Query) :
    Together a scope (Binding.quantified info token quantifier left query) (·.Called none) := by
  unfold Binding.quantified
  refine (singleColumn _ _).bind fun _ _ => ?_
  split
  · exact missing
  · exact (typeOrReport _ _ _).bind fun _ _ => pure _ (.of_none rfl)

/-! ## Tables -/

/-- A table that the tree mentions is resolved alike, and all of its names are in play. -/
theorem tableNamed {token : Token} (h : a.part.Mentions token.ident) :
    Together a scope (Binding.tableNamed token) fun source =>
      token.Spells source.name ∧ ∀ name ∈ source.names, a.Named name := by
  refine Tandem.seeing fun hscope => .currentScope (.caseSensitive ?_)
  simp only [hscope.commonTable? h, hscope.schemaTable? h]
  split
  next found hfound =>
    obtain ⟨hname, hnames⟩ := Scope.name_of_commonTable? hfound
    exact pure _ ⟨hname, fun name hcolumn =>
      hscope.names name (hnames name (List.mem_cons_of_mem _ hcolumn))⟩
  · split
    next found hfound =>
      have hspells : token.Spells found.name :=
        Matching.equalIgnoringCase_of_mem_select (List.mem_of_head? hfound)
      exact pure _ ⟨hspells, hscope.named_schemaTable hfound⟩
    · refine (report _ _).bind fun _ _ => (badInstance _).mono fun source ⟨hname, hnames⟩ => ?_
      exact ⟨hname ▸ token.spells_ident, hnames ▸ fun _ h => nomatch h⟩

/-- **A table by name** is called as its alias or else its identifier says. -/
theorem namedTable {ident : Option Token} {correlation : Option Ast.Alias}
    (h : ∀ token ∈ ident, a.part.Mentions token.ident)
    (hcorrelation : ∀ name ∈ aliasName? correlation, a.part.Mentions name) :
    Together a scope (Binding.namedTable ident correlation)
      fun it => ∃ made, it = .named made ∧ a.Admits (.tables it.instances) ∧ ∀ token, ident = some token →
          made.name = (aliasName? correlation).getD token.ident ∧ token.Spells made.source.name := by
  cases ident with
  | none =>
    exact missingTable.mono fun it ⟨⟨made, hmade⟩, hnames⟩ =>
      ⟨made, hmade, hnames, fun _ htoken => nomatch htoken⟩
  | some token =>
    have hname : a.part.Mentions ((aliasName? correlation).getD token.ident) := by
      cases hgiven : aliasName? correlation with
      | none => exact h token rfl
      | some name => exact hcorrelation name hgiven
    refine (tableNamed (h token rfl)).bind fun source ⟨hspells, hsource⟩ => ?_
    refine (newInstance (a.named_of_mentions hname) hsource).bind fun made ⟨hmade, hfrom, hnames⟩ => ?_
    refine pure _ ⟨made, rfl, CatalogPair.admits_tables.2 (List.forall_mem_singleton.2 hnames), ?_⟩
    intro other hother
    cases hother
    exact ⟨hmade, hfrom ▸ hspells⟩

/-- A derived table is bound alike, and the names of its instance are in play. -/
theorem derivedTable {ident : Option Token} {query : Bound.Query}
    (h : ∀ token ∈ ident, a.part.Mentions token.ident)
    (hquery : a.Admits (.queryColumns query.output)) :
    Together a scope (Binding.derivedTable ident query) fun it =>
      ∃ made, it = .derived made query ∧ a.Admits (.tables it.instances) ∧
        ∀ token, ident = some token → made.name = token.ident := by
  have hname : a.Named ((ident.map Token.ident).getD "") := by
    cases ident with
    | none => exact a.named_empty
    | some token => exact a.named_of_mentions (h token rfl)
  refine (supply (Supply.Gives.derivedTable_names _ _)).bind fun table htable => ?_
  rw [← Supply.Gives.queryColumn_names] at htable
  refine (newInstance hname (htable ▸ hquery)).bind fun made ⟨hmade, _, hnames⟩ => ?_
  refine pure _ ⟨made, rfl, CatalogPair.admits_tables.2 (List.forall_mem_singleton.2 hnames), ?_⟩
  intro token htoken
  rw [hmade, htoken]
  rfl

/-! ## Select lists -/

/-- The own name of an expression is mentioned. -/
theorem mentions_ownName? {written : Ast.Expr} {name : String}
    (h : a.part.Reads (.expr written.core)) (hname : written.ownName? = some name) :
    a.part.Mentions name := by
  unfold Ast.Expr.ownName? at hname
  split at hname
  next hcore =>
    obtain ⟨token, rfl, rfl⟩ := Option.map_eq_some_iff.1 hname
    rw [hcore] at h
    exact h.mentions (List.mem_singleton_self token)
  next hcore =>
    obtain ⟨token, rfl, rfl⟩ := Option.map_eq_some_iff.1 hname
    rw [hcore] at h
    exact h.mentions (List.mem_singleton_self token)
  next hcore =>
    obtain ⟨token, rfl, rfl⟩ := Option.map_eq_some_iff.1 hname
    rw [hcore] at h
    exact h.mentions (List.mem_singleton_self token)
  · cases hname

/-- **A select column** is called as its alias says. -/
theorem selectColumn {info : NodeInfo} {written : Option Ast.Expr} {correlation : Option Ast.Alias}
    (value : Bound.Expr) (hreads : a.part.Reads (.selectItem (.column info written correlation)))
    (hwritten : ∀ it ∈ written, a.part.Reads (.expr it.core)) :
    Together a scope (Binding.selectColumn info written correlation value) fun it =>
        a.Admits (.queryColumns it.output) := by
  have hname : a.Named (columnName written correlation) := by
    unfold columnName
    cases halias : aliasName? correlation with
    | some name =>
      obtain ⟨token, htoken, rfl⟩ := Option.map_eq_some_iff.1 halias
      exact a.named_of_mentions (hreads.mentions (Option.mem_toList.2 htoken))
    | none =>
      cases hown : written.bind Ast.Expr.ownName? with
      | none => exact a.named_empty
      | some name =>
        obtain ⟨it, hit, hown⟩ := Option.bind_eq_some_iff.1 hown
        exact a.named_of_mentions (mentions_ownName? (hwritten it hit) hown)
  refine (newColumn (columnName written correlation) value.type).bind fun column hcolumn => ?_
  have hcalls : (Piece.selectItem (.column info written correlation)).Calls
      (.selectItem (.column value column)) := by
    intro name halias
    rw [hcolumn, columnName, halias]
    rfl
  exact (record hreads rfl hcalls fun _ hbound => nomatch hbound).bind fun _ _ =>
    pure _ (List.forall_mem_singleton.2 (hcolumn ▸ hname))

/-- The qualifier of a wildcard is resolved alike, to an instance of its name. -/
theorem qualifier {instances : List TableInstance} {token : Token} (h : a.part.Mentions token.ident)
    (hinstances : a.Admits (.tables instances)) :
    Together a scope (Binding.qualifier instances token)
      fun chosen => ∀ table ∈ chosen, table ∈ instances ∧ token.Spells table.name := by
  have hnames : ∀ table ∈ instances, a.Named table.name := fun table htable =>
    CatalogPair.admits_tables.1 hinstances table htable _ List.mem_cons_self
  refine Tandem.caseSensitive ?_
  simp only [(a.choice h).select hnames]
  split
  next table htable =>
    have hmem : table ∈ Matching.select a.options.caseSensitive TableInstance.name token.ident
        instances := htable ▸ List.mem_singleton_self table
    refine pure _ fun other hother => Option.some.inj hother ▸ ⟨Matching.mem_of_mem_select hmem, ?_⟩
    exact Matching.equalIgnoringCase_of_mem_select hmem
  · exact (report _ _).bind fun _ _ => pure _ fun _ hnone => nomatch hnone
  · exact (report _ _).bind fun _ _ => pure _ fun _ hnone => nomatch hnone

/-- The columns that a `*` stands for have names that are in play. -/
theorem expand {instances : List TableInstance} (h : a.Admits (.tables instances)) :
    Together a scope (Binding.supply (Binding.expand instances)) fun made =>
        a.Admits (.queryColumns (made.map (·.output))) := by
  refine (supply (Supply.Gives.expand_names instances)).mono fun made hmade name hname => ?_
  obtain ⟨table, htable, hname⟩ := hmade name hname
  exact CatalogPair.admits_tables.1 h table htable name hname

/-- A wildcard is bound alike, and puts out columns with names in play. -/
theorem wildcard {info : NodeInfo} {instances : List TableInstance} {ident : Option Token}
    (hreads : a.part.Reads (.selectItem (.wildcard info ident)))
    (hinstances : a.Admits (.tables instances)) :
    Together a scope (Binding.wildcard info instances ident)
      fun it => a.Admits (.queryColumns it.output) := by
  have hitem : Together a scope (Binding.wildcardItem instances ident) fun it =>
      a.Admits (.queryColumns it.output) ∧
        (Piece.selectItem (.wildcard info ident)).Calls (.selectItem it) := by
    cases ident with
    | none =>
      exact (expand hinstances).bind fun made hmade => pure _ ⟨hmade, fun _ hnone => nomatch hnone⟩
    | some token =>
      have hmentions : a.part.Mentions token.ident := hreads.mentions (List.mem_singleton_self token)
      refine (qualifier hmentions hinstances).bind fun chosen hchosen => ?_
      have hadmits : a.Admits (.tables chosen.toList) := CatalogPair.admits_tables.2 fun table htable =>
        CatalogPair.admits_tables.1 hinstances table (hchosen table (Option.mem_toList.1 htable)).1
      refine (expand hadmits).bind fun made hmade => pure _ ⟨hmade, ?_⟩
      rintro leaf hleaf table htable
      cases hleaf
      exact (hchosen table htable).2
  exact hitem.bind fun it ⟨hadmits, hcalls⟩ =>
    (record hreads rfl hcalls fun _ hbound => nomatch hbound).bind fun _ _ => pure _ hadmits

/-! ## Row limits and set operations -/

/-- A row limit is read alike. -/
theorem limitValue (token : Option Token) :
    Together a scope (Binding.limitValue token) fun _ => True := by
  unfold Binding.limitValue
  split
  · exact pure _ trivial
  · split
    · exact pure _ trivial
    · exact (report _ _).bind fun _ _ => pure _ trivial

/-- A row limit is put around a query alike. -/
theorem limit (top : Option Ast.Top) {query : Bound.Query}
    (h : a.Admits (.queryColumns query.output)) :
    Together a scope (Binding.limit top query) fun it =>
      a.Admits (.queryColumns it.output) := by
  unfold Binding.limit
  split
  · exact pure _ h
  · exact (limitValue _).bind fun _ _ => pure _ h

/-- The types of two columns are merged alike. -/
theorem mergeType (span : Span) (ordinal : Nat) (left right : SqlType) :
    Together a scope (Binding.mergeType span ordinal left right) fun _ => True := by
  unfold Binding.mergeType
  split
  · exact pure _ trivial
  · exact (report _ _).bind fun _ _ => pure _ trivial

/-- Columns are merged alike pair by pair, under the names on the left. -/
theorem mergePairs (span : Span) (ordinal : Nat) {pairs : List (QueryColumn × QueryColumn)}
    (h : ∀ pair ∈ pairs, a.Named pair.1.name) :
    Together a scope (Binding.mergePairs span ordinal pairs)
      fun made => a.Admits (.queryColumns made) := by
  induction pairs generalizing ordinal with
  | nil => exact pure _ fun _ hname => nomatch hname
  | cons pair rest ih =>
    refine (mergeType _ _ _ _).bind fun type _ => ?_
    refine (newColumn pair.1.name type).bind fun column hcolumn => ?_
    refine (ih _ (List.forall_mem_of_forall_mem_cons h)).bind fun made hmade => pure _ ?_
    have hfirst : a.Named column.name := hcolumn ▸ h pair List.mem_cons_self
    exact List.forall_mem_cons.2 ⟨hfirst, hmade⟩

/-- **A set operation** has the names of its left side. -/
theorem combine (info : NodeInfo) (operator : Option SetOperator) {left : Bound.Query}
    (right : Bound.Query) (h : a.Admits (.queryColumns left.output)) :
    Together a scope (Binding.combine info operator left right)
      fun it => a.Admits (.queryColumns it.output) := by
  have hmerged : Together a scope (Binding.mergeColumns info.span left.output right.output)
      fun made => a.Admits (.queryColumns made) := by
    unfold Binding.mergeColumns
    split
    · refine mergePairs _ _ fun pair hpair => ?_
      exact h _ (List.mem_map_of_mem (List.of_mem_zip hpair).1)
    · refine (report _ _).bind fun _ _ =>
        (supply (Supply.Gives.copyColumns_names left.output)).mono fun made hmade name hname => ?_
      have hname : name ∈ QueryColumn.names made := hname
      exact h name (hmade.subst (motive := fun names => name ∈ names) hname)
  exact hmerged.bind fun _ hmade => pure _ hmade

/-! ## Tables of a `WITH` -/

/-- The length of a column name list is checked alike. -/
theorem checkNames (list : Option Ast.ColumnNames) (query : Bound.Query) :
    Together a scope (Binding.checkNames list query)
      fun _ => True := by
  unfold Binding.checkNames
  split
  · exact pure _ trivial
  · split
    · exact report _ _
    · exact pure _ trivial

/-- **A definition** is called as its identifier says. Its columns are called as those of its query, or
as the list says. -/
theorem define {info : NodeInfo} {ident : Option Token} {list : Option Ast.ColumnNames}
    {body : Option Ast.Query} {query : Bound.Query}
    (hreads : a.part.Reads (.commonTable (.mk info ident list body)))
    (hquery : a.Admits (.queryColumns query.output)) :
    Together a scope (Binding.define info ident list query)
      fun it => a.Admits (.commonTables [it.symbol]) := by
  have hname : a.Named ((ident.map Token.ident).getD "") := by
    cases ident with
    | none => exact a.named_empty
    | some token => exact a.named_of_mentions (hreads.mentions List.mem_cons_self)
  have hshape : ∀ name ∈ (renamed ((list.toList.flatMap Ast.ColumnNames.idents).map Token.ident)
      (QueryColumn.shape query.output)).map Prod.fst, a.Named name := by
    intro name hmem
    rcases names_renamed name hmem with hmem | hmem
    · obtain ⟨leaf, hleaf, rfl⟩ := List.mem_map.1 hmem
      exact a.named_of_mentions (hreads.mentions (List.mem_append_right _ hleaf))
    · rw [← Supply.Gives.queryColumn_names] at hmem
      exact hquery name hmem
  refine (checkNames list query).bind fun _ _ => ?_
  refine (supply (Supply.Gives.commonTable_names _ _ _ _)).bind fun table ⟨hown, hnames⟩ => ?_
  have hcalls : (Piece.commonTable (.mk info ident list body)).Calls
      (.definition (.mk table query)) := by
    intro leaf hleaf
    change table.name = leaf.ident
    rw [hown, hleaf]
    rfl
  refine (record hreads rfl hcalls fun _ hbound => nomatch hbound).bind fun _ _ => pure _ ?_
  refine CatalogPair.admits_commonTables.2 (List.forall_mem_singleton.2 ?_)
  change ∀ name ∈ table.names, a.Named name
  rw [hnames]
  exact List.forall_mem_cons.2 ⟨hname, hshape⟩

end Together

/-- What the right side of a join sees. -/
theorem Tandem.lateralScope (kind : JoinKind) {left : Bound.TableRef}
    (h : a.Admits (.tables left.instances)) :
    Tandem a scope (Binding.lateralScope kind left) (fun _ => Binding.lateralScope kind left)
      (fun providers => Scope.over (a.served providers)) a.Sees := by
  unfold Binding.lateralScope
  split
  · exact childScope h
  · exact seeing fun hscope => of_quiet (fun _ _ => rfl) (fun _ _ hpass => hpass) fun _ => hscope

end Binding

end QuerySemantics
