import QuerySemantics.Proofs.Binding.ParallelForms
import QuerySemantics.Proofs.Binding.Relocation
import QuerySemantics.Proofs.Model.Main

/-!
# Binding a query behind another

A query that is bound behind another one, in the scope of the catalog alone, is bound like the query
alone: what is recorded are twins, and what is reported is the same but moved. The two queries of a set
operation are bound so, and what the operation itself reports is decided by the types of their columns.

## Main definitions

* `Binding.shapeMismatches`: what a set operation reports of the types of its sides.
* `Binding.PassComparison.behind`: how a query alone and the query behind anything else are compared.

## Main results

* `Binding.query_behind`: a query behind anything else, and the query alone.
* `Binding.combined_ends`: binding both sides of a set operation, and then the operation.
* `Binding.exists_node_of_record`: binding a query records nodes of its tree only.
-/

set_option autoImplicit false

namespace QuerySemantics

namespace Binding

/-! ## Shape mismatches -/

/-- The pairs of types that have no common type, counted from `ordinal` on. -/
def typeMismatches (span : Span) : Nat → List (SqlType × SqlType) → List Diagnostic
  | _, [] => []
  | ordinal, (left, right) :: rest =>
    (if (left.common? right).isNone then [⟨span, .setOperationTypes ordinal left right⟩] else []) ++
      typeMismatches span (ordinal + 1) rest

/-- **Shape mismatches** of a set operation over columns of the given types: different numbers of
columns, or else columns without a common type. -/
def shapeMismatches (span : Span) (left right : List SqlType) : List Diagnostic :=
  if left.length = right.length then typeMismatches span 0 (left.zip right)
  else [⟨span, .setOperationCount left.length right.length⟩]

/-- Mismatches of types stand where the set operation does. -/
theorem category_of_mem_typeMismatches {span : Span} {pairs : List (SqlType × SqlType)} {ordinal : Nat}
    {it : Diagnostic} (h : it ∈ typeMismatches span ordinal pairs) :
    it.span = span ∧ it.problem.category = .shapeMismatch := by
  induction pairs generalizing ordinal with
  | nil => exact absurd h List.not_mem_nil
  | cons pair rest ih =>
    rw [typeMismatches, List.mem_append] at h
    rcases h with h | h
    · split at h
      · rw [List.mem_singleton.1 h]
        exact ⟨rfl, rfl⟩
      · exact absurd h List.not_mem_nil
    · exact ih h

/-- Shape mismatches are reported at the set operation, and as such. -/
theorem category_of_mem_shapeMismatches {span : Span} {left right : List SqlType} {it : Diagnostic}
    (h : it ∈ shapeMismatches span left right) :
    it.span = span ∧ it.problem.category = .shapeMismatch := by
  unfold shapeMismatches at h
  split at h
  · exact category_of_mem_typeMismatches h
  · rw [List.mem_singleton.1 h]
    exact ⟨rfl, rfl⟩

/-- **Adding diagnostics** to those that there are, and recording nothing. -/
def Adds {α : Type} (env : Env) (body : BindM α) (added : List Diagnostic) : Prop :=
  ∀ pass, (body env pass).2.records = pass.records ∧
    (body env pass).2.diagnostics = pass.diagnostics ++ added

namespace Adds

variable {env : Env} {span : Span} {α β : Type} {added added' : List Diagnostic}

/-- A value adds nothing. -/
theorem pure (value : α) : Adds env (Pure.pure value) [] :=
  fun _ => ⟨rfl, (List.append_nil _).symm⟩

/-- A sequence adds what its parts add. -/
theorem bind {body : BindM α} {rest : α → BindM β} (hbody : Adds env body added)
    (hrest : ∀ value, Adds env (rest value) added') : Adds env (body >>= rest) (added ++ added') := by
  intro pass
  obtain ⟨hrecords, hdiagnostics⟩ := hbody pass
  obtain ⟨hrecords', hdiagnostics'⟩ := hrest (body env pass).1 (body env pass).2
  rw [hdiagnostics, List.append_assoc] at hdiagnostics'
  exact ⟨hrecords'.trans hrecords, hdiagnostics'⟩

/-- Taking identities adds nothing. -/
theorem supply (taken : Supply α) : Adds env (Binding.supply taken) [] :=
  fun _ => ⟨rfl, (List.append_nil _).symm⟩

/-- Without a limit every problem is reported. -/
theorem report (hunlimited : env.options.maxDiagnostics = none) (span : Span) (problem : Problem) :
    Adds env (Binding.report span problem) [⟨span, problem⟩] := by
  intro pass
  rw [report_eq, Options.keep_unlimited hunlimited]
  exact ⟨rfl, rfl⟩

/-- A column is reported if its types have nothing in common. -/
theorem mergeType (hunlimited : env.options.maxDiagnostics = none) (ordinal : Nat)
    (left right : SqlType) :
    Adds env (Binding.mergeType span ordinal left right)
      (if (left.common? right).isNone then [⟨span, .setOperationTypes ordinal left right⟩] else []) := by
  unfold Binding.mergeType
  cases left.common? right with
  | some type => exact pure type
  | none => exact (report hunlimited _ _).bind fun _ => pure _

/-- Columns are reported pair by pair. -/
theorem mergePairs (hunlimited : env.options.maxDiagnostics = none) (ordinal : Nat)
    (pairs : List (QueryColumn × QueryColumn)) :
    Adds env (Binding.mergePairs span ordinal pairs)
      (typeMismatches span ordinal (pairs.map (Prod.map QueryColumn.type QueryColumn.type))) := by
  induction pairs generalizing ordinal with
  | nil => exact pure _
  | cons pair rest ih =>
    refine (mergeType hunlimited ordinal pair.1.type pair.2.type).bind fun type => ?_
    have hrest : Adds env _ _ := (supply (QueryColumn.create pair.1.name type)).bind fun column =>
      (ih (ordinal + 1)).bind fun columns => pure (column :: columns)
    rwa [List.nil_append, List.append_nil] at hrest

/-- Either the numbers of columns are reported, or the pairs. -/
theorem mergeColumns (hunlimited : env.options.maxDiagnostics = none) (left right : List QueryColumn) :
    Adds env (Binding.mergeColumns span left right)
      (shapeMismatches span (left.map QueryColumn.type) (right.map QueryColumn.type)) := by
  unfold Binding.mergeColumns shapeMismatches
  rw [List.length_map, List.length_map]
  split
  · rw [List.zip_map]
    exact mergePairs hunlimited 0 (left.zip right)
  · exact (report hunlimited _ _).bind fun _ => supply _

end Adds

variable {env : Env} {pass : Pass}

/-- **Both sides of a set operation** are bound one after the other, and nothing is recorded and only
shape mismatches are reported behind them. -/
theorem combined_ends (hunlimited : env.options.maxDiagnostics = none) (info : NodeInfo)
    (left right : Ast.Query) (operator : Option SetOperator) :
    let first := query left env pass
    let second := query right env first.2
    Ends env pass (query (.combined info (some left) operator (some right))) fun _ after =>
      (∃ record : Record, record.info = info ∧ after.records = record :: second.2.records) ∧
        after.diagnostics = second.2.diagnostics ++ shapeMismatches info.span
          (first.1.query.output.map QueryColumn.type) (second.1.query.output.map QueryColumn.type) := by
  intro first second
  have hcombine : Adds env (combine info operator first.1.query second.1.query)
      (shapeMismatches info.span (first.1.query.output.map QueryColumn.type)
        (second.1.query.output.map QueryColumn.type) ++ []) :=
    (Adds.mergeColumns hunlimited _ _).bind fun _ => .pure _
  obtain ⟨hrecords, hdiagnostics⟩ := hcombine second.2
  rw [List.append_nil] at hdiagnostics
  rw [query, optionalQuery, optionalQuery]
  let own : Record :=
    ⟨info, .query (combine info operator first.1.query second.1.query env second.2).1, env.scope⟩
  exact ⟨⟨own, rfl, congrArg (own :: ·) hrecords⟩, hdiagnostics⟩

/-! ## A query behind anything else -/

variable {count offset : Nat}

/-- Nothing goes together yet. -/
theorem bounded_nothing (next next' : SymbolId) : Pairing.Bounded (fun _ _ => False) next next' :=
  ⟨fun _ _ => False.elim, fun _ _ _ _ => False.elim⟩

/-- **Comparing a pass over a query alone** with one over the query behind anything else. -/
def PassComparison.behind (setting : SteadySetting) (count offset : Nat) (before : Pass) : PassComparison where
  toLikeness := .shift count offset
  typed := setting
  options := setting.options
  span span span' := span' = span.shift offset
  members cache cache' := setting.catalog.Answered setting.bases cache ∧
    setting.catalog.Answered setting.bases cache'
  records pairing records records' := ∃ new, records' = new ++ before.records ∧
    Twin setting pairing (records.map (Record.shift count offset)) new
  diagnostics reported reported' :=
    reported' = before.diagnostics ++ reported.map (Diagnostic.shift offset)
  span_info h := NodeInfo.span_of_shift h
  span_token h := Token.span_of_shift h
  askMethods _ {_ _ type} next next' hmembers htype := by
    have hasked := setting.steady.askMethods hmembers.1 htype next
    have hasked' := setting.steady.askMethods hmembers.2 htype next'
    exact ⟨Method.twin_of_alike hasked.1 hasked'.1 (setting.steady.methodTypes type 0 htype), hasked.2,
      hasked'.2⟩
  askProperties _ {_ _ type} next next' hmembers htype := by
    have hasked := setting.steady.askProperties hmembers.1 htype next
    have hasked' := setting.steady.askProperties hmembers.2 htype next'
    exact ⟨Property.twin_of_alike hasked.1 hasked'.1 (setting.steady.propertyTypes type 0 htype),
      hasked.2, hasked'.2⟩
  records_mono := fun hle ⟨new, hnew, htwin⟩ => ⟨new, hnew, Twinned.mono hle htwin⟩
  records_cons := fun {_ _ info' _ node' _ _} _ scope' hinfo hnode ⟨new, hnew, htwin⟩ =>
    ⟨⟨info', node', scope'⟩ :: new, by rw [hnew]; rfl, .cons ⟨hinfo, hnode⟩ htwin⟩
  diagnostics_keep problem hspan hreported := by
    rw [Options.keep_unlimited setting.unlimited, Options.keep_unlimited setting.unlimited, hspan,
      hreported, List.map_append, List.append_assoc]
    rfl

variable {setting : SteadySetting}

/-- **A query behind anything else**, in the scope of the catalog alone, is bound like the query alone:
twins of its records are added, and what it reports moved. -/
theorem query_behind {element : Element} {read : Nat → Nat → Ast.Query}
    (hread : ∀ index offset, (element.locate index offset).1.piece = .query (read index offset))
    (own : NodeInfo) (next next' : SymbolId) {before : Pass}
    (hanswered : setting.catalog.Answered setting.bases before.members) :
    let alone := query (read 1 0) (.root setting.options setting.catalog next)
      (.begun own setting.catalog next)
    let behind := query (read (1 + count) offset) (.root setting.options setting.catalog next') before
    setting.catalog.Answered setting.bases behind.2.members ∧
      behind.2.diagnostics = before.diagnostics ++ alone.2.diagnostics.map (Diagnostic.shift offset) ∧
      ∃ pairing : Pairing, pairing.OneToOne ∧ Twin setting pairing alone.1.query behind.1.query ∧
        ∃ new, behind.2.records = new ++ before.records ∧
          Twin setting pairing (alone.2.records.map (Record.shift count offset)) new := by
  intro alone behind
  let c : PassComparison := .behind setting count offset before
  have hpiece : (Piece.query (read 1 0)).Strict (parallelForms c).toCorrespondence
      (.query (read (1 + count) offset)) := by
    rw [← hread, ← hread]
    exact Located.Alike.strict (c := parallelForms c) (element.alike_locate count offset)
  cases hpiece with
  | query h =>
    have hbegun : Abreast c (fun _ _ => False) (.begun own setting.catalog next) before :=
      ⟨bounded_nothing _ _, ⟨Catalog.answered_empty _ _, hanswered⟩, ⟨[], rfl, .nil⟩,
        (List.append_nil _).symm⟩
    obtain ⟨pairing, -, htwin, habreast⟩ := h.parallel _ ⟨next, setting.catalog, []⟩
      ⟨next', setting.catalog, []⟩ ⟨rfl, rfl, .nil⟩ _ _ hbegun
    exact ⟨habreast.members.2, habreast.diagnostics, pairing, habreast.bounded.one,
      ScopedQuery.Twins.query htwin, habreast.records⟩

/-! ## Places of records -/

/-- **Binding a query records nodes of its tree only.** -/
theorem exists_node_of_record {element : Element} {index offset : Nat} {it : Ast.Query}
    (hread : (element.locate index offset).1.piece = .query it) {env : Env} {before : Pass}
    (hbefore : before.records = []) :
    ∀ record ∈ (query it env before).2.records,
      ∃ node ∈ (element.locate index offset).1.nodes, node.info? = some record.info := by
  intro record hrecord
  obtain ⟨log, hvisit, hrecords, -⟩ := query_visits it env before
  have hlog : record ∈ log.records := by
    rw [hrecords, hbefore, List.append_nil] at hrecord
    exact hrecord
  obtain ⟨piece, ⟨step, hstep, start, hstart, hreached⟩, -, hinfo⟩ :=
    (hvisit.exists_record_iff record.info).1 ⟨record, hlog, rfl⟩
  obtain rfl := List.mem_singleton.1 hstep
  obtain rfl : Piece.query it = start := Option.some.inj hstart
  rw [← hread] at hreached
  obtain ⟨node, hnode, rfl⟩ := Located.exists_node_of_reached hreached hinfo
  exact ⟨node, hnode, node.info?_piece ▸ hinfo⟩

end Binding

end QuerySemantics
