import QuerySemantics.Proofs.Model.OtherCatalog

/-!
# Members of a model

A model may be asked about the members of types as long as it lives. Providers may give other members
each time they are asked; the members of a model are stable all the same.

## Main definitions

* `SemanticModel.lookup`, `SemanticModel.lookupAll`, `SemanticModel.lookups`: later questions to a model,
  what they make of it, and what is answered.

## Main results

* `Analysis.model_members`: no provider is asked about equal types twice, equal questions have the same
  answer, and the members that expressions refer to are among those that are looked up.
-/

set_option autoImplicit false

namespace QuerySemantics

open Binding MemberCache

namespace SemanticModel

/-! ## Later questions -/

/-- **A later question** to a model, about the members of a type. -/
def lookup (model : SemanticModel) : Question → Supply (Answer × SemanticModel)
  | .methods type => do
    let (found, model) ← model.lookupMethods type
    return (.methods found, model)
  | .properties type => do
    let (found, model) ← model.lookupProperties type
    return (.properties found, model)

/-- The model behind a series of later questions, each put at some time. -/
def lookupAll : SemanticModel → List (Question × SymbolId) → SemanticModel
  | model, [] => model
  | model, (question, next) :: rest => lookupAll (model.lookup question next).1.2 rest

/-- The answers to a series of later questions. -/
def lookups : SemanticModel → List (Question × SymbolId) → List Answer
  | _, [] => []
  | model, (question, next) :: rest =>
    let (answer, after) := (model.lookup question next).1
    answer :: lookups after rest

variable (model : SemanticModel)

/-- A later question is put to what the model remembers. -/
theorem lookup_eq (question : Question) (next : SymbolId) :
    (model.lookup question next).1 =
      ((model.members.ask model.analysis.catalog question next).1.1,
        { model with members := (model.members.ask model.analysis.catalog question next).1.2 }) := by
  cases question <;> rfl

/-- Later questions change what the model remembers, and nothing else. -/
theorem lookupAll_eq (later : List (Question × SymbolId)) :
    model.lookupAll later =
      { model with members := model.members.askAll model.analysis.catalog later } := by
  induction later generalizing model with
  | nil => rfl
  | cons entry rest ih =>
    rw [lookupAll, lookup_eq, ih]
    rfl

/-- The answers to later questions are those of what the model remembers. -/
theorem lookups_eq (later : List (Question × SymbolId)) :
    model.lookups later = model.members.answers model.analysis.catalog later := by
  induction later generalizing model with
  | nil => rfl
  | cons entry rest ih =>
    obtain ⟨question, next⟩ := entry
    have hbehind := ih (model.lookup question next).1.2
    rw [lookup_eq] at hbehind
    rw [lookups, lookup_eq]
    exact congrArg _ hbehind

/-! ## Remembered members -/

/-- A property that is remembered is looked up at any later time. -/
theorem mem_lookupProperties {type : SqlType} {found : List Property} {it : Property}
    (hfound : model.members.properties? type = some found) (hit : it ∈ found)
    (later : List (Question × SymbolId)) (next : SymbolId) :
    it ∈ ((model.lookupAll later).lookupProperties type next).1.1 := by
  have hstays : (model.lookupAll later).members.properties? type = some found := by
    rw [lookupAll_eq]
    exact (model.members.extends_askAll later).properties? hfound
  obtain ⟨hextends, hanswer⟩ := (model.lookupAll later).members.askProperties_extends
    (model.lookupAll later).analysis.catalog.properties type next
  have hsame : found = ((model.lookupAll later).lookupProperties type next).1.1 :=
    Option.some.inj ((hextends.properties? hstays).symm.trans hanswer)
  exact hsame ▸ hit

/-- A method that is remembered is looked up at any later time. -/
theorem mem_lookupMethods {type : SqlType} {found : List Method} {it : Method}
    (hfound : model.members.methods? type = some found) (hit : it ∈ found)
    (later : List (Question × SymbolId)) (next : SymbolId) :
    it ∈ ((model.lookupAll later).lookupMethods type next).1.1 := by
  have hstays : (model.lookupAll later).members.methods? type = some found := by
    rw [lookupAll_eq]
    exact (model.members.extends_askAll later).methods? hfound
  obtain ⟨hextends, hanswer⟩ := (model.lookupAll later).members.askMethods_extends
    (model.lookupAll later).analysis.catalog.methods type next
  have hsame : found = ((model.lookupAll later).lookupMethods type next).1.1 :=
    Option.some.inj ((hextends.methods? hstays).symm.trans hanswer)
  exact hsame ▸ hit

end SemanticModel

/-- **Members are stable.** Over the pass and a series of later questions there are some calls of
providers, no two of them for members of one kind of equal types. Providers decide nothing but by their
answers to these calls: with any others that answer them alike, the model and the answers to the later
questions are the same. Later questions about equal types have the same answer. A property or method that
a recorded expression refers to is one of those that the model gives for the type of its target, then and
at any later time.

**Proof sketch.** The pass goes in tandem with one over other providers, as long as they share their
answers to the questions that reach one. A question that has an answer reaches none, as the answer is
remembered, first in the pass and then in the model that takes over what the pass remembers. -/
theorem Analysis.model_members (analysis : Analysis) (next : SymbolId)
    (later : List (Question × SymbolId)) :
    let model := (analysis.model next).1
    (∃ calls : List (Question × SymbolId),
      (calls.Pairwise fun call other => (call.1 == other.1) = false) ∧
      ∀ providers, let other := analysis.withCatalog (analysis.catalog.servedBy providers)
        (∀ call ∈ calls,
          call.1.provided other.catalog call.2 = call.1.provided analysis.catalog call.2) →
            (other.model next).1.AnswersAlike model ∧
              (other.model next).1.lookups later = model.lookups later) ∧
    (∀ (i j : Nat) (entry entry' : Question × SymbolId), later[i]? = some entry →
      later[j]? = some entry' → (entry.1 == entry'.1) = true →
        (model.lookups later)[i]? = (model.lookups later)[j]?) ∧
    ∀ record ∈ model.result.records, ∀ bound, record.node.expr? = some bound →
      (∀ it, bound.symbol? = some (.property it) → ∃ target, bound = .property target (.property it) ∧
        ∀ time, it ∈ ((model.lookupAll later).lookupProperties target.type time).1.1) ∧
      ∀ it, bound.symbol? = some (.method it) → ∃ target arguments,
        bound = .method target (.method it) arguments ∧
          ∀ time, it ∈ ((model.lookupAll later).lookupMethods target.type time).1.1 := by
  intro model
  refine ⟨?_, fun i j entry entry' hi hj hsame => ?_, fun record hrecord bound hbound => ?_⟩
  · let same := CatalogPair.self analysis.tree.root analysis.options analysis.catalog
    obtain ⟨series, hmembers, -, halike⟩ := CatalogPair.exists_series (a := same) rfl next
    refine ⟨MemberCache.empty.calls analysis.catalog (series ++ later), pairwise_calls _ _, ?_⟩
    intro providers other hshares
    have hasked : model.members = MemberCache.empty.askAll analysis.catalog series := hmembers
    have hanswers : (other.model next).1.AnswersAlike model :=
      halike providers (CatalogPair.Shares.before (a := same) hshares)
    have hlater : ∀ call ∈ model.members.calls analysis.catalog later,
        call.1.provided other.catalog call.2 = call.1.provided analysis.catalog call.2 := by
      intro call hcall
      refine hshares call ?_
      rw [calls_append, ← hasked]
      exact List.mem_append_right _ hcall
    refine ⟨hanswers, ?_⟩
    rw [SemanticModel.lookups_eq, SemanticModel.lookups_eq, hanswers.members]
    exact (askAll_congr model.members later hlater).2
  · rw [SemanticModel.lookups_eq]
    exact answers_congr _ hi hj hsame
  · obtain ⟨_, -, -, -, hbacks⟩ := analysis.tells_model next record hrecord
    refine ⟨fun it hit => ?_, fun it hit => ?_⟩
    · obtain ⟨target, found, hform, hfound, hmem⟩ := (hbacks bound hbound).property it hit
      exact ⟨target, hform, model.mem_lookupProperties hfound hmem later⟩
    · obtain ⟨target, arguments, found, hform, hfound, hmem⟩ := (hbacks bound hbound).method it hit
      exact ⟨target, arguments, hform, model.mem_lookupMethods hfound hmem later⟩

end QuerySemantics
