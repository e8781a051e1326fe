import QuerySemantics.Proofs.Binding.Behind
import QuerySemantics.Proofs.Binding.RemarkRules

/-!
# What a computation reports

The log of a pass holds the diagnostics of all that was bound before. What a computation itself reports
are those that it leaves behind them.

## Main definitions

* `Binding.added`: the diagnostics that a computation adds.
* `Binding.Grows`: a computation that only adds to the diagnostics.
* `Binding.Env.unlimited`: surroundings in which every problem is reported.

## Main results

* `Binding.Grows.added_bind`: a sequence reports what its parts do, one after the other.
-/

set_option autoImplicit false

namespace QuerySemantics

namespace Binding

variable {α β : Type} {env : Env} {pass : Pass}

/-- The same scope and options, but without a limit for diagnostics. -/
def Env.unlimited (env : Env) : Env :=
  { env with options := { env.options with maxDiagnostics := none } }

/-- **What a computation reports**: the diagnostics behind those that there are. -/
def added (body : BindM α) (env : Env) (pass : Pass) : List Diagnostic :=
  (body env pass).2.diagnostics.drop pass.diagnostics.length

/-- What is behind the diagnostics that there were is what is reported. -/
theorem added_eq {body : BindM α} {reported : List Diagnostic}
    (h : (body env pass).2.diagnostics = pass.diagnostics ++ reported) :
    added body env pass = reported := by
  rw [added, h, List.drop_left]

/-- What adds some diagnostics reports these. -/
theorem Adds.added_eq {body : BindM α} {reported : List Diagnostic} (h : Adds env body reported)
    (pass : Pass) : added body env pass = reported :=
  Binding.added_eq (h pass).2

/-- **Growth**: the diagnostics that there are stay in front of what is reported. -/
def Grows (env : Env) (body : BindM α) : Prop :=
  ∀ pass, (body env pass).2.diagnostics = pass.diagnostics ++ added body env pass

/-- What only puts diagnostics behind those that there are grows. -/
theorem Grows.of_eq_append {body : BindM α}
    (h : ∀ pass, ∃ reported, (body env pass).2.diagnostics = pass.diagnostics ++ reported) :
    Grows env body := by
  intro pass
  obtain ⟨reported, hreported⟩ := h pass
  rw [Binding.added_eq hreported, hreported]

/-- What notes remarks only adds to the diagnostics. -/
theorem Notes.grows {body : BindM α} {may : α → List Remark → Prop} (h : Notes env body may) :
    Grows env body := by
  apply Grows.of_eq_append
  intro pass
  obtain ⟨remarks, -, hadded⟩ := h pass
  exact ⟨_, hadded⟩

/-- What is silent reports nothing. -/
theorem Silent.added_eq {body : BindM α} (h : Silent env body) (pass : Pass) :
    added body env pass = [] :=
  Binding.added_eq ((h pass).trans (List.append_nil _).symm)

/-- What comes before a computation that is silent is what reports. -/
theorem added_behind {first : BindM α} {rest : α → BindM β}
    (hrest : Silent env (rest (first env pass).1)) :
    added (first >>= rest) env pass = added first env pass := by
  show List.drop _ (rest _ env _).2.diagnostics = _
  rw [hrest _]
  rfl

/-- What comes after a computation that is silent is what reports. -/
theorem added_before {first : BindM α} (hfirst : Silent env first) (rest : α → BindM β) :
    added (first >>= rest) env pass = added (rest (first env pass).1) env (first env pass).2 := by
  show List.drop _ (rest _ env _).2.diagnostics = List.drop _ (rest _ env _).2.diagnostics
  rw [hfirst pass]

/-- What reports nothing grows. -/
theorem Silent.grows {body : BindM α} (h : Silent env body) : Grows env body := by
  intro pass
  rw [h.added_eq, List.append_nil, h pass]

namespace Grows

/-- A report is kept behind the others, or not at all. -/
theorem report (span : Span) (problem : Problem) : Grows env (Binding.report span problem) := by
  apply of_eq_append
  intro pass
  rw [report_eq, Options.keep]
  split
  · exact ⟨[⟨span, problem⟩], rfl⟩
  · exact ⟨[], (List.append_nil _).symm⟩

/-- **A sequence** reports what its first part does, and then what its second part does. -/
theorem added_bind {first : BindM α} {rest : α → BindM β} (hfirst : Grows env first)
    (hrest : Grows env (rest (first env pass).1)) :
    added (first >>= rest) env pass = added first env pass ++
      added (rest (first env pass).1) env (first env pass).2 := by
  apply Binding.added_eq
  show (rest (first env pass).1 env (first env pass).2).2.diagnostics = _
  rw [hrest _, hfirst pass, List.append_assoc]

/-- Growing goes on behind a growing computation. -/
theorem bind {first : BindM α} {rest : α → BindM β} (hfirst : Grows env first)
    (hrest : ∀ value, Grows env (rest value)) : Grows env (first >>= rest) := by
  intro pass
  rw [hfirst.added_bind (hrest _), ← List.append_assoc, ← hfirst pass]
  exact hrest _ _

/-- A missing type is at most one report more. -/
theorem typeOrReport (span : Span) (problem : Problem) (result : Option SqlType) :
    Grows env (Binding.typeOrReport span problem result) := by
  unfold Binding.typeOrReport
  split
  · exact Silent.pure.grows
  · exact (report span problem).bind fun _ => Silent.pure.grows

end Grows

end Binding

end QuerySemantics
