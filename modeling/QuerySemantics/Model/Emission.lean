import QuerySemantics.Model.Basic
import QuerySemantics.Report.Basic

/-!
# Reporting the diagnostics of a model

## Main definitions

* `SemanticModel.emit`: adding the diagnostics of a model to a report.
-/

set_option autoImplicit false

namespace QuerySemantics

/-- **Emission**: registers the query text of a model under a name and adds the diagnostics of the
model as notices about it. Gives the number of the text. -/
def SemanticModel.emit (model : SemanticModel) (report : Report) (name : String) : Nat × Report :=
  let (file, registered) := report.addFile name model.analysis.tree.text
  (file, registered.extend (model.diagnostics.map (·.notice file)))

end QuerySemantics
