import QuerySemantics.Diagnostic.Basic

/-!
# Reports

A report collects notices about texts, to be shown to a reader together with the places in the texts
that they are about. A text is registered under a name; each name stands for one text.

## Main definitions

* `Notice`, `Label`, `Severity`: a notice, the place that it is about, and how grave it is.
* `Diagnostic.notice`: the notice of a diagnostic.
* `Report`, `Report.addFile`, `Report.add`: reports, registering a text and adding a notice.
-/

set_option autoImplicit false

namespace QuerySemantics

/-! ## Notices -/

/-- **Severity** of a notice. -/
inductive Severity where
  | bug
  | error
  | warning
  | note
  | help
deriving DecidableEq, Repr, Inhabited

namespace Severity

/-- Every severity, the gravest first. -/
def all : List Severity :=
  [.bug, .error, .warning, .note, .help]

/-- The word that a shown notice begins with. -/
def word : Severity → String
  | .bug => "bug"
  | .error => "error"
  | .warning => "warning"
  | .note => "note"
  | .help => "help"

/-- The identifier of a severity in listings of notices. -/
def describe : Severity → String
  | .bug => "Bug"
  | .error => "Error"
  | .warning => "Warning"
  | .note => "Note"
  | .help => "Help"

/-- Whether a notice of this severity counts as an error. -/
def isError : Severity → Bool
  | .bug | .error => true
  | .warning | .note | .help => false

end Severity

/-- **Label**: a place in a text, with what is written beside it. -/
structure Label where
  file : Nat
  span : Span
  text : String
deriving DecidableEq, Repr, Inhabited

/-- **Notice**: what a reader is told. -/
structure Notice where
  severity : Severity
  code : Option String
  message : String
  label : Option Label
  notes : List String
deriving DecidableEq, Repr, Inhabited

/-- The notice of an error of a category. -/
def Notice.error (category : Category) (message : String) (label : Label) (notes : List String) :
    Notice :=
  ⟨.error, some category.code, message, some label, notes⟩

/-- **Notice of a diagnostic** about a registered text. -/
def Diagnostic.notice (diagnostic : Diagnostic) (file : Nat) : Notice :=
  .error diagnostic.category diagnostic.message ⟨file, diagnostic.span, diagnostic.problem.label⟩
    diagnostic.problem.notes

/-! ## Reports -/

/-- A registered text and its name. -/
structure SourceFile where
  name : String
  source : String
deriving DecidableEq, Repr, Inhabited

/-- **Report**: registered texts, numbered from zero, and notices in the order in which they came. -/
structure Report where
  files : List SourceFile
  notices : List Notice
deriving DecidableEq, Repr, Inhabited

namespace Report

/-- The report that says nothing. -/
def empty : Report :=
  ⟨[], []⟩

/-- The number of the text that is registered under a name. -/
def fileId? (report : Report) (name : String) : Option Nat :=
  report.files.findIdx? (·.name == name)

/-- **Registration** of a text under a name. Gives its number. Where the name is registered already,
the text under it stays. -/
def addFile (report : Report) (name source : String) : Nat × Report :=
  match report.fileId? name with
  | some id => (id, report)
  | none => (report.files.length, { report with files := report.files ++ [⟨name, source⟩] })

/-- **Addition** of a notice. -/
def add (report : Report) (notice : Notice) : Report :=
  { report with notices := report.notices ++ [notice] }

/-- Addition of several notices. -/
def extend (report : Report) (notices : List Notice) : Report :=
  { report with notices := report.notices ++ notices }

/-- The report without its notices. -/
def clear (report : Report) : Report :=
  { report with notices := [] }

/-- Whether a notice counts as an error. -/
def hasErrors (report : Report) : Bool :=
  report.notices.any (·.severity.isError)

/-- The number of notices. -/
def size (report : Report) : Nat :=
  report.notices.length

/-- Whether there is no notice. -/
def isEmpty (report : Report) : Bool :=
  report.notices.isEmpty

end Report

end QuerySemantics
