import QuerySemantics.Model.Emission
import QuerySemantics.Proofs.Model.Spans
import QuerySemantics.Proofs.Report.Files

/-!
# Series of emissions

Any number of models may add their diagnostics to one report, each under a name for its query text. The
report keeps one text for a name, the first: so a notice is about the text of its own model if this
text, or none, was under the name before.

## Main definitions

* `Emission`, `Report.emitAll`: a model with a name for its text, and a series of them.
* `Report.Tracks`: what a report knows after a series.

## Main results

* `Report.Tracks.emit`, `Report.tracks_emitAll`: one emission, and a whole series.
* `Report.emitAll_sources`: which text a notice is about, and that its place lies in its own model's.
* `Report.emitAll_reusedName`: under the name of another text, a notice points behind that text.
-/

set_option autoImplicit false

namespace QuerySemantics

/-! ## Emissions -/

namespace SemanticModel

/-- **Analysed model**: what it knows is what binding its tree gave. -/
def IsAnalysed (model : SemanticModel) : Prop :=
  ∃ next, model.result = (model.analysis.model next).1.result

/-- The model of an analysis is analysed. -/
theorem IsAnalysed.of_model (analysis : Analysis) (next : SymbolId) :
    (analysis.model next).1.IsAnalysed :=
  ⟨next, rfl⟩

/-- Asking for the methods of a type keeps a model analysed. -/
theorem IsAnalysed.lookupMethods {model : SemanticModel} (h : model.IsAnalysed) (type : SqlType)
    (next : SymbolId) : (model.lookupMethods type next).1.2.IsAnalysed :=
  h

/-- Asking for the properties of a type keeps a model analysed. -/
theorem IsAnalysed.lookupProperties {model : SemanticModel} (h : model.IsAnalysed) (type : SqlType)
    (next : SymbolId) : (model.lookupProperties type next).1.2.IsAnalysed :=
  h

/-- **Diagnostics point into the query text** of their model. -/
theorem IsAnalysed.span_bounds {model : SemanticModel} (h : model.IsAnalysed)
    {diagnostic : Diagnostic} (hdiagnostic : diagnostic ∈ model.diagnostics) :
    diagnostic.span.start ≤ diagnostic.span.stop ∧
      diagnostic.span.stop ≤ model.analysis.tree.text.utf8ByteSize := by
  obtain ⟨next, hresult⟩ := h
  rw [diagnostics, hresult] at hdiagnostic
  obtain ⟨inside, hcovers, -⟩ := SyntaxTree.diagnostic_covers hdiagnostic
  exact hcovers.bounds

end SemanticModel

/-- **Emission**: an analysed model, and the name under which its query text is registered. -/
structure Emission where
  model : SemanticModel
  name : String
  analysed : model.IsAnalysed

namespace Emission

/-- The query text of the model of an emission. -/
def text (call : Emission) : String :=
  call.model.analysis.tree.text

/-- What an emission reports: its model's diagnostics in order, each with the emission. -/
def reports (call : Emission) : List (Emission × Diagnostic) :=
  call.model.diagnostics.map (call, ·)

end Emission

namespace Report

/-- **Series** of emissions to one report. -/
def emitAll (report : Report) (calls : List Emission) : Report :=
  calls.foldl (fun report call => (call.model.emit report call.name).2) report

/-- **Showing** a diagnostic of an emission: the notice about it, with the number of the text that is
registered under the name of the emission. -/
def Shows (report : Report) (it : Emission × Diagnostic) (notice : Notice) : Prop :=
  it.2 ∈ it.1.model.diagnostics ∧ ∃ file text, notice = it.2.notice file ∧
    report.source? it.1.name = some text ∧ report.files[file]? = some ⟨it.1.name, text⟩

/-- **Tracking** a series: under each name is the text of the first emission with this name, and the
notices are those of the diagnostics of the emissions in order. -/
structure Tracks (report : Report) (calls : List Emission) : Prop where
  sources : ∀ name, report.source? name = (calls.find? (·.name == name)).map Emission.text
  notices : List.Forall₂ report.Shows (calls.flatMap Emission.reports) report.notices

variable {report : Report} {calls : List Emission}

/-- An empty report tracks the series of no emissions. -/
theorem Tracks.empty : Tracks .empty [] where
  sources _ := rfl
  notices := .nil

/-- **One emission** at the end of a series. -/
theorem Tracks.emit (h : report.Tracks calls) (call : Emission) :
    (call.model.emit report call.name).2.Tracks (calls ++ [call]) := by
  have hsource : ∀ name, (call.model.emit report call.name).2.source? name =
      (report.source? name).or (if name = call.name then some call.text else none) :=
    fun name => report.source?_addFile call.name call.text name
  constructor
  case sources =>
    intro name
    rw [hsource, h.sources, List.find?_append, Option.map_or, List.find?_singleton]
    by_cases hname : name = call.name
    · simp [hname]
    · simp [hname, Ne.symm hname]
  case notices =>
    have hnotices : (call.model.emit report call.name).2.notices = report.notices ++
        call.model.diagnostics.map (·.notice (report.addFile call.name call.text).1) := by
      rw [← report.notices_addFile call.name call.text]
      rfl
    rw [hnotices, List.flatMap_append, List.flatMap_singleton]
    refine List.rel_append (h.notices.imp ?earlier) ?new
    case earlier =>
      -- an earlier notice is about the text that it was about before
      rintro ⟨earlier, diagnostic⟩ notice ⟨hmem, file, text, heq, htext, hfile⟩
      refine ⟨hmem, file, text, heq, ?_, getElem?_addFile_of_some hfile call.name call.text⟩
      rw [hsource, htext, Option.some_or]
    case new =>
      rw [Emission.reports, List.forall₂_map_left_iff, List.forall₂_map_right_iff,
        List.forall₂_same]
      refine fun diagnostic hdiagnostic => ⟨hdiagnostic, _, _, rfl, ?_,
        report.getElem?_addFile call.name call.text⟩
      rw [hsource, if_pos rfl]
      cases report.source? call.name <;> rfl

/-- **A whole series** is tracked. -/
theorem tracks_emitAll (calls : List Emission) : Tracks (Report.empty.emitAll calls) calls := by
  have hrun : ∀ (rest : List Emission) {report : Report} {done : List Emission},
      report.Tracks done → (report.emitAll rest).Tracks (done ++ rest) := by
    intro rest
    induction rest with
    | nil =>
      intro report done h
      rwa [List.append_nil]
    | cons call rest ih =>
      intro report done h
      have hstep := ih (h.emit call)
      rwa [List.append_assoc] at hstep
  exact hrun calls .empty

/-- **Which text a notice is about**, after any series of emissions. The notices are those of the
diagnostics of the models, in order. The text that a notice is about is registered under the name with
which its diagnostic was emitted, and it is the text of the first emission with this name. The place of
the notice lies in the text of the model that reported it. So it lies in the registered text if this is
the text of that model, as it is when the name was given to no other text before. -/
theorem emitAll_sources (calls : List Emission) :
    let report := Report.empty.emitAll calls
    List.Forall₂ (fun (it : Emission × Diagnostic) notice => ∃ label first,
        notice = it.2.notice label.file ∧ notice.label = some label ∧ label.span = it.2.span ∧
        calls.find? (·.name == it.1.name) = some first ∧
        report.files[label.file]? = some ⟨it.1.name, first.text⟩ ∧
        label.span.start ≤ label.span.stop ∧ label.span.stop ≤ it.1.text.utf8ByteSize ∧
        (first.text = it.1.text → report.files[label.file]? = some ⟨it.1.name, it.1.text⟩))
      (calls.flatMap Emission.reports) report.notices := by
  intro report
  have htracks := tracks_emitAll calls
  refine htracks.notices.imp ?_
  rintro ⟨call, diagnostic⟩ notice ⟨hdiagnostic, file, text, rfl, htext, hfile⟩
  rw [htracks.sources] at htext
  obtain ⟨first, hfirst, rfl⟩ := Option.map_eq_some_iff.1 htext
  have hbounds := call.analysed.span_bounds hdiagnostic
  exact ⟨⟨file, diagnostic.span, diagnostic.problem.label⟩, first, rfl, rfl, rfl, hfirst, hfile,
    hbounds.1, hbounds.2, fun hown => hown ▸ hfile⟩

/-- The emission of the model of a query that is a name only, against an empty catalog. -/
def nameEmission (text name : String) : Emission :=
  let tree := ⟨0, .node .compilationUnit [.node .nameExpression [.token .identifier text]]⟩
  ⟨(Analysis.model ⟨tree, (Catalog.empty 0).1, {}⟩ 1).1, name, .of_model _ _⟩

/-- **A name that is used again**: the notice about `total` is about the text `a`, and its place reaches
behind this text. -/
theorem emitAll_reusedName :
    let calls := [nameEmission "a" "query.sql", nameEmission "total" "query.sql"]
    let report := Report.empty.emitAll calls
    (report.notices.map fun notice => notice.label.bind fun label =>
        report.files[label.file]?.map SourceFile.source) = [some "a", some "a"] ∧
      (calls.flatMap Emission.reports).map (·.1.text) = ["a", "total"] ∧
      report.notices.map (fun notice => notice.label.map Label.span) =
        [some ⟨0, 1⟩, some ⟨0, 5⟩] ∧
      "a".utf8ByteSize < 5 := by
  decide +kernel

end Report

end QuerySemantics
