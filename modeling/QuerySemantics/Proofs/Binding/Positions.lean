import QuerySemantics.Proofs.Binding.Added
import QuerySemantics.Proofs.Binding.Literal
import QuerySemantics.Proofs.Binding.RemarkWalk

/-!
# Positions in an order

A numeral that an `ORDER BY` entry consists of is the position of an output column. Positions are numbers
of 64 bits; a longer numeral is bound like any other number.

## Main definitions

* `Binding.Positioned`: what an entry that consists of a numeral is bound to, and what it reports.

## Main results

* `Binding.orderKey_numeral`: binding an entry that consists of a numeral.
* `Binding.orderItems_append`: entries are bound one after the other.
* `Binding.ordered_positions`: an entry that consists of a numeral, anywhere in an `ORDER BY`.
* `Binding.ordered_positions_long`: a position that is out of range and is not reported.
-/

set_option autoImplicit false

namespace QuerySemantics

open Literal (Narrowest)

variable {columns : List QueryColumn} {it : Integer.Numeral}

/-! ## Positions -/

/-- A numeral is a position if it has 64 bits. -/
theorem Ast.Expr.position?_numeral (it : Integer.Numeral) (info : NodeInfo) (start : Nat) :
    (Ast.Expr.literal info (some (it.token start))).position? =
      if -2 ^ 63 ≤ it.value ∧ it.value < 2 ^ 63 then some (it.token start, it.value) else none := by
  change (Integer.signedFitting? 64 it.text).map (it.token start, ·) = _
  rw [it.signedFitting?_text]
  simp only [Integer.fits_iff]
  split <;> rfl

namespace Binding

/-- Positions count from one. -/
theorem columnAt?_succ (place : Nat) : columnAt? columns (place + 1) = columns[place]? := by
  rw [columnAt?, if_pos (by omega), show ((place : Int) + 1 - 1).toNat = place by omega]

/-- There is no column at a position that is out of range. -/
theorem columnAt?_eq_none {position : Int} (h : position < 1 ∨ columns.length < position) :
    columnAt? columns position = none := by
  unfold columnAt?
  split
  · exact List.getElem?_eq_none (by omega)
  · rfl

/-! ## One entry -/

/-- **What an entry that consists of a numeral comes to** behind a query with the given columns: what it is
bound to, and the diagnostics that there are then, behind those that there were.

A numeral of 64 bits that is in range is bound to the column at its position, and nothing is reported. One
that is out of range is reported as a mismatch of shapes, and is bound like any other number. A longer one
is bound like any other number, and is reported only if 128 bits do not hold it either, as no number. -/
structure Positioned (columns : List QueryColumn) (it : Integer.Numeral) (span : Span) (options : Options)
    (earlier : List Diagnostic) (key : Bound.Expr) (reported : List Diagnostic) : Prop where
  inRange : ∀ (place : Nat) (column : QueryColumn), it.value = place + 1 →
    columns[place]? = some column → it.value < 2 ^ 63 →
      key = .slot column.slot ∧ key.type = column.type ∧ reported = earlier
  outOfRange : it.value < 1 ∨ columns.length < it.value → -2 ^ 63 ≤ it.value ∧ it.value < 2 ^ 63 →
    (∃ value, Narrowest it.value value ∧ key = .literal value value.type) ∧
      reported = options.keep earlier ⟨span, .orderByPosition it.value columns.length⟩
  long : it.value < -2 ^ 63 ∨ 2 ^ 63 ≤ it.value → -2 ^ 127 ≤ it.value ∧ it.value < 2 ^ 127 →
    (∃ value, Narrowest it.value value ∧ key = .literal value value.type) ∧ reported = earlier
  invalid : it.value < -2 ^ 127 ∨ 2 ^ 127 ≤ it.value →
    key = .literal .null .unknown ∧ reported = options.keep earlier ⟨span, .invalidLiteral it.text⟩

/-- The state behind an expression that was bound on its own. -/
def Pass.keyed (pass : Pass) (info : NodeInfo) (key : Bound.Expr) (scope : Scope)
    (reported : List Diagnostic) : Pass :=
  { pass with records := ⟨info, .expr key, scope⟩ :: pass.records, diagnostics := reported }

/-- A numeral of 128 bits is bound to the integer that it denotes. -/
theorem expr_numeral (h : -2 ^ 127 ≤ it.value ∧ it.value < 2 ^ 127) (info : NodeInfo) (start : Nat)
    (env : Env) : ∃ value, Narrowest it.value value ∧ ∀ pass,
      expr (.literal info (some (it.token start))) env pass = (.literal value value.type,
        pass.keyed info (.literal value value.type) env.scope pass.diagnostics) := by
  obtain ⟨value, hnarrowest, hliteral⟩ := literal_of_fits h start
  refine ⟨value, hnarrowest, fun pass => ?_⟩
  rw [expr, hliteral]
  rfl

/-- A longer numeral is reported. -/
theorem expr_numeral_invalid (h : it.value < -2 ^ 127 ∨ 2 ^ 127 ≤ it.value) (info : NodeInfo)
    (start : Nat) (env : Env) (pass : Pass) :
    expr (.literal info (some (it.token start))) env pass = (.literal .null .unknown,
      pass.keyed info (.literal .null .unknown) env.scope
        (env.options.keep pass.diagnostics ⟨(it.token start).span, .invalidLiteral it.text⟩)) := by
  rw [expr, literal_of_not_fits h]
  simp only [Bind.bind, ReaderT.bind, StateT.bind, report_eq]
  rfl

/-- A position in range is bound to the column there. -/
theorem orderKey_inRange {place : Nat} {column : QueryColumn} (hvalue : it.value = place + 1)
    (hcolumn : columns[place]? = some column) (hfits : it.value < 2 ^ 63) (info : NodeInfo)
    (start : Nat) (env : Env) (pass : Pass) :
    orderKey columns (some (.literal info (some (it.token start)))) env pass =
      (.slot column.slot, pass.keyed info (.slot column.slot) env.scope pass.diagnostics) := by
  have hposition := Ast.Expr.position?_numeral it info start
  rw [if_pos (by omega), hvalue] at hposition
  rw [orderKey, hposition]
  simp only [columnAt?_succ, hcolumn]
  rfl

/-- A position that is out of range is reported, and then bound like any other number. -/
theorem orderKey_outOfRange (hrange : it.value < 1 ∨ columns.length < it.value)
    (hfits : -2 ^ 63 ≤ it.value ∧ it.value < 2 ^ 63) (info : NodeInfo) (start : Nat) :
    orderKey columns (some (.literal info (some (it.token start)))) = (do
      report (it.token start).span (.orderByPosition it.value columns.length)
      expr (.literal info (some (it.token start)))) := by
  have hposition := Ast.Expr.position?_numeral it info start
  rw [if_pos hfits] at hposition
  rw [orderKey, hposition]
  simp only [columnAt?_eq_none hrange]

/-- A numeral that is no position is bound like any other number. -/
theorem orderKey_long (h : ¬(-2 ^ 63 ≤ it.value ∧ it.value < 2 ^ 63)) (info : NodeInfo) (start : Nat) :
    orderKey columns (some (.literal info (some (it.token start)))) =
      expr (.literal info (some (it.token start))) := by
  have hposition := Ast.Expr.position?_numeral it info start
  rw [if_neg h] at hposition
  rw [orderKey, hposition]

/-- **An entry that consists of a numeral** is bound and recorded, and nothing else happens but that it
may be reported.

**Proof sketch.** By the size of the numeral: whether it is a position, and whether there is a column at
it. What is not bound to a column is bound as a literal. -/
theorem orderKey_numeral (columns : List QueryColumn) (it : Integer.Numeral) (info : NodeInfo)
    (start : Nat) (env : Env) (pass : Pass) : ∃ key reported,
      orderKey columns (some (.literal info (some (it.token start)))) env pass =
        (key, pass.keyed info key env.scope reported) ∧
      Positioned columns it (it.token start).span env.options pass.diagnostics key reported := by
  by_cases hposition : -2 ^ 63 ≤ it.value ∧ it.value < 2 ^ 63
  · by_cases hrange : it.value < 1 ∨ columns.length < it.value
    · have hfits : -2 ^ 127 ≤ it.value ∧ it.value < 2 ^ 127 := by omega
      obtain ⟨value, hnarrowest, hbound⟩ := expr_numeral hfits info start env
      let problem := Problem.orderByPosition it.value columns.length
      refine ⟨.literal value value.type, env.options.keep pass.diagnostics ⟨(it.token start).span, problem⟩,
        ?_, ?_⟩
      · rw [orderKey_outOfRange hrange hposition]
        simp only [Bind.bind, ReaderT.bind, StateT.bind, report_eq, hbound]
        rfl
      · refine ⟨fun place _ hplace hcolumn _ => ?_, fun _ _ => ⟨⟨value, hnarrowest, rfl⟩, rfl⟩,
          fun _ _ => by omega, fun _ => by omega⟩
        obtain ⟨hlt, -⟩ := List.getElem?_eq_some_iff.1 hcolumn
        omega
    · obtain ⟨place, hplace⟩ : ∃ place : Nat, it.value = place + 1 := ⟨(it.value - 1).toNat, by omega⟩
      have hcolumn : columns[place]? = some columns[place] := List.getElem?_eq_getElem (by omega)
      refine ⟨_, _, orderKey_inRange hplace hcolumn hposition.2 info start env pass, ?_⟩
      refine ⟨fun other found hother hfound _ => ?_, fun hout _ => absurd hout hrange,
        fun _ _ => by omega, fun _ => by omega⟩
      obtain rfl : other = place := by omega
      cases hcolumn.symm.trans hfound
      exact ⟨rfl, rfl, rfl⟩
  · rw [orderKey_long hposition]
    by_cases hfits : -2 ^ 127 ≤ it.value ∧ it.value < 2 ^ 127
    · obtain ⟨value, hnarrowest, hbound⟩ := expr_numeral hfits info start env
      exact ⟨_, _, hbound pass, fun _ _ _ _ _ => by omega, fun _ _ => by omega,
        fun _ _ => ⟨⟨value, hnarrowest, rfl⟩, rfl⟩, fun _ => by omega⟩
    · exact ⟨_, _, expr_numeral_invalid (by omega) info start env pass, fun _ _ _ _ _ => by omega,
        fun _ _ => by omega, fun _ _ => by omega, fun _ => ⟨rfl, rfl⟩⟩

/-! ## All entries -/

/-- Entries are bound one after the other. -/
theorem orderItems_append (columns : List QueryColumn) (first rest : List Ast.OrderItem) :
    orderItems columns (first ++ rest) = (do
      let keys ← orderItems columns first
      return keys ++ (← orderItems columns rest)) := by
  induction first with
  | nil => simp only [orderItems, List.nil_append, pure_bind, bind_pure]
  | cons item first ih =>
    obtain ⟨info, key, descending⟩ := item
    simp only [orderItems, List.cons_append, ih, bind_assoc, pure_bind]

/-- An entry is bound behind those before it, and those after it are bound behind it. -/
theorem orderItems_around (columns : List QueryColumn) (before after : List Ast.OrderItem)
    (info : NodeInfo) (key : Option Ast.Expr) (descending : Bool) (env : Env) (pass : Pass) :
    let first := orderItems columns before env pass
    let bound := orderKey columns key env first.2
    let rest := orderItems columns after env bound.2
    orderItems columns (before ++ .mk info key descending :: after) env pass =
      (first.1 ++ .mk bound.1 descending :: rest.1, rest.2) := by
  rw [orderItems_append, orderItems]
  rfl

/-- Each entry is bound. -/
theorem length_orderItems (columns : List QueryColumn) (items : List Ast.OrderItem) (env : Env)
    (pass : Pass) : (orderItems columns items env pass).1.length = items.length := by
  induction items generalizing pass with
  | nil => rfl
  | cons item items ih =>
    obtain ⟨info, key, descending⟩ := item
    rw [orderItems]
    exact congrArg Nat.succ (ih _)

/-- **An entry that consists of a numeral, among others**. -/
theorem orderItems_numeral (columns : List QueryColumn) (before : List Ast.OrderItem)
    (own info : NodeInfo) (descending : Bool) (it : Integer.Numeral) (start : Nat) (env : Env)
    (pass : Pass) :
    let first := orderItems columns before env pass
    ∃ key reported,
      Positioned columns it (it.token start).span env.options first.2.diagnostics key reported ∧
      ∀ after, let rest := orderItems columns after env (first.2.keyed info key env.scope reported)
        orderItems columns
          (before ++ .mk own (some (.literal info (some (it.token start)))) descending :: after) env pass =
            (first.1 ++ .mk key descending :: rest.1, rest.2) := by
  obtain ⟨key, reported, hkey, hpositioned⟩ :=
    orderKey_numeral columns it info start env (orderItems columns before env pass).2
  refine ⟨key, reported, hpositioned, fun after => ?_⟩
  have haround := orderItems_around columns before after own
    (some (.literal info (some (it.token start)))) descending env pass
  simp only [hkey] at haround
  exact haround

/-- Entries take nothing away from what was recorded and reported before. -/
theorem orderItems_later (columns : List QueryColumn) (items : List Ast.OrderItem) (env : Env)
    (pass : Pass) : pass.records ⊆ (orderItems columns items env pass).2.records ∧
      ∃ later, (orderItems columns items env pass).2.diagnostics = pass.diagnostics ++ later := by
  obtain ⟨log, -, hrecords, -⟩ := orderItems_visits columns items env pass
  exact ⟨hrecords ▸ List.subset_append_right _ _,
    _, (orderItems_notes columns items env).grows pass⟩

/-- The entries of an `ORDER BY` are bound behind what is ordered, in a scope of their own. -/
theorem query_ordered (info : NodeInfo) (input : Option Ast.Query) (env : Env) (pass : Pass) :
    ∃ (bound : Bound.Query) (scope : Scope) (entered : Pass), ∀ items,
      let keys := orderItems bound.output items { env with scope } entered
      (query (.ordered info input items) env pass).1.query = .ordered bound keys.1 ∧
        (query (.ordered info input items) env pass).2.diagnostics = keys.2.diagnostics ∧
        keys.2.records ⊆ (query (.ordered info input items) env pass).2.records := by
  let bound := optionalQuery input env pass
  let inner := bound.1.inner.child (.queryColumns bound.1.query.output) bound.2.next
  refine ⟨bound.1.query, inner.1, { bound.2 with
    next := inner.2, scopes := (info, inner.1) :: bound.2.scopes }, fun items => ?_⟩
  rw [query]
  exact ⟨rfl, rfl, List.subset_cons_self _ _⟩

/-- **Positions in an order.** An entry that consists of a numeral, anywhere in an `ORDER BY` behind any
query, is bound and recorded as the output of the ordered query and the size of the numeral have it: to the
column at the position, with its type and without a report; or as a number, behind one report that the
position is out of range. What it reports comes behind what is reported with the entries before it alone,
and what the entries after it report comes behind that.

But a numeral of more than 64 bits is no position: it is bound as a number, and only one of more than 128
bits is reported, as an invalid literal.

**Proof sketch.** An entry is bound in the state behind those before it, and the columns are the same for
all entries. Nothing that is bound later takes away a record or a diagnostic. -/
theorem ordered_positions (info own keyInfo : NodeInfo) (input : Option Ast.Query)
    (before after : List Ast.OrderItem) (descending : Bool) (it : Integer.Numeral) (start : Nat)
    (env : Env) (pass : Pass) :
    let entry : Ast.OrderItem := .mk own (some (.literal keyInfo (some (it.token start)))) descending
    let run items := query (.ordered info input items) env pass
    let whole := run (before ++ entry :: after)
    ∃ bound keys key scope later,
      whole.1.query = .ordered bound keys ∧
      keys[before.length]? = some (.mk key descending) ∧
      ⟨keyInfo, .expr key, scope⟩ ∈ whole.2.records ∧
      Positioned whole.1.query.output it (it.token start).span env.options (run before).2.diagnostics key
        (run (before ++ [entry])).2.diagnostics ∧
      whole.2.diagnostics = (run (before ++ [entry])).2.diagnostics ++ later := by
  intro entry run whole
  obtain ⟨bound, scope, entered, hrun⟩ := query_ordered info input env pass
  obtain ⟨key, reported, hpositioned, hitems⟩ := orderItems_numeral bound.output before own keyInfo
    descending it start { env with scope } entered
  obtain ⟨-, hbefore, -⟩ := hrun before
  obtain ⟨-, hentry, -⟩ := hrun (before ++ [entry])
  obtain ⟨hquery, hwhole, hrecords⟩ := hrun (before ++ entry :: after)
  rw [hitems []] at hentry
  rw [hitems after] at hquery hwhole hrecords
  obtain ⟨hkept, later, hlater⟩ := orderItems_later bound.output after { env with scope } _
  refine ⟨bound, _, key, scope, later, hquery, ?_, hrecords (hkept List.mem_cons_self), ?_, ?_⟩
  · rw [← length_orderItems bound.output before { env with scope } entered,
      List.getElem?_append_right (Nat.le_refl _), Nat.sub_self, List.getElem?_cons_zero]
  · rw [hquery, hbefore, hentry]
    exact hpositioned
  · rw [hwhole, hentry]
    exact hlater

/-- `SELECT 7, NULL`. -/
def twoColumns : Ast.Query :=
  .select default (some (.mk default false none
    [.column default (some (.literal default (some ⟨.numericLiteral, "7", 7⟩))) none,
      .column default (some (.literal default (some ⟨.nullKeyword, "NULL", 10⟩))) none])) none none none none

/-- An `ORDER BY` entry that consists of a numeral. -/
def numeralEntry (it : Integer.Numeral) (start : Nat) : Ast.OrderItem :=
  .mk default (some (.literal default (some (it.token start)))) false

/-- Binding `SELECT 7, NULL` with an `ORDER BY` behind it. -/
def orderedColumns (items : List Ast.OrderItem) : ScopedQuery × Pass :=
  query (.ordered default (some twoColumns) items) ⟨{}, default⟩ default

/-- The numeral `002`. -/
def paddedTwo : Integer.Numeral :=
  ⟨false, ['0', '0', '2'], List.cons_ne_nil _ _, List.all_eq_true.1 (by decide)⟩

/-- The numeral `9223372036854775808`, of the first integer that 64 bits do not hold. -/
def longNumeral : Integer.Numeral :=
  .ofNat false (2 ^ 63)

/-- `SELECT 7, NULL ORDER BY 3, 002` is ordered by its second column, and `3` is reported. -/
theorem ordered_positions_padded :
    let ordered := orderedColumns [numeralEntry (.ofNat false 3) 24, numeralEntry paddedTwo 27]
    (∃ bound keys column, ordered.1.query = .ordered bound keys ∧
      ordered.1.query.output[1]? = some column ∧ column.type.name = "NULL" ∧
      keys[1]? = some (.mk (.slot column.slot) false)) ∧
    ordered.2.diagnostics.map Diagnostic.display =
      ["24..25: shape mismatch: ORDER BY position 3 is out of range, the query has 2 columns"] := by
  refine ⟨?_, by decide +kernel⟩
  have hnames : (orderedColumns [numeralEntry (.ofNat false 3) 24,
      numeralEntry paddedTwo 27]).1.query.output.map (·.type.name) = ["INT", "NULL"] := by
    decide +kernel
  have hcolumn := congrArg (·[1]?) hnames
  simp only [List.getElem?_map, List.getElem?_cons_succ, List.getElem?_cons_zero,
    Option.map_eq_some_iff] at hcolumn
  obtain ⟨column, hcolumn, hname⟩ := hcolumn
  have hvalue : paddedTwo.value = (1 : Nat) + 1 := by decide
  have hentry : ∀ it start, Ast.OrderItem.mk default (some (.literal default
    (some (Integer.Numeral.token it start)))) false = numeralEntry it start := fun _ _ => rfl
  have hrun : ∀ items, query (.ordered default (some twoColumns) items) ⟨{}, default⟩ default =
    orderedColumns items := fun _ => rfl
  obtain ⟨bound, keys, key, scope, later, h⟩ := ordered_positions default default default
    (some twoColumns) [numeralEntry (.ofNat false 3) 24] [] false paddedTwo 27 ⟨{}, default⟩ default
  simp only [hrun, hentry, List.cons_append, List.nil_append] at h
  obtain ⟨hquery, hkey, -, hpositioned, -⟩ := h
  obtain ⟨rfl, -, -⟩ := hpositioned.inRange 1 column hvalue hcolumn (by rw [hvalue]; decide)
  exact ⟨bound, keys, column, hquery, hcolumn, hname, hkey⟩

/-- **A position that is out of range and is not reported**: nothing is reported of `SELECT 7, NULL ORDER BY
9223372036854775808`, a query with two columns. -/
theorem ordered_positions_long :
    longNumeral.text = "9223372036854775808" ∧ longNumeral.value = 9223372036854775808 ∧
      (orderedColumns [numeralEntry longNumeral 24]).1.query.output.length = 2 ∧
      (orderedColumns [numeralEntry longNumeral 24]).2.diagnostics = [] := by
  decide +kernel

end Binding

end QuerySemantics
