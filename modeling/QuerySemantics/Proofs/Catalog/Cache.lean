import Mathlib.Data.List.Infix
import QuerySemantics.Catalog.Basic
import QuerySemantics.Proofs.Value.Equality

/-!
# Remembered answers

A cache is put questions about the members of types. It passes a question on to a provider only if it
does not remember an answer for an equal type, and remembers the answer then. So it only ever grows, no
provider is asked about one type twice, and equal questions have the same answer ever after.

## Main definitions

* `MemberCache.Question`, `MemberCache.Answer`, `MemberCache.ask`: questions of both kinds.
* `MemberCache.Extends`: a cache with further answers.
* `MemberCache.Question.provided`: what the provider that is in charge answers.
* `MemberCache.askAll`, `MemberCache.answers`, `MemberCache.calls`: what a series of questions makes of a
  cache, what is answered, and which of the questions reach a provider.

## Main results

* `MemberCache.answer?_ask`: what was answered is remembered.
* `MemberCache.answers_congr`: equal questions of a series have the same answer.
* `MemberCache.pairwise_calls`: no question reaches a provider twice.
* `MemberCache.askAll_congr`: providers decide nothing but by their answers to these calls.
* `MemberCache.methods_askAll`, `MemberCache.properties_askAll`: where answers come from.
-/

set_option autoImplicit false

namespace QuerySemantics

namespace MemberCache

/-! ## Questions -/

/-- **Question** about the members of a type. -/
inductive Question where
  | methods (type : SqlType)
  | properties (type : SqlType)

/-- Questions are equal if they ask for members of one kind, of equal types. -/
instance : BEq Question where
  beq
    | .methods type, .methods other | .properties type, .properties other => type == other
    | _, _ => false

/-- **Answer** to a question. -/
inductive Answer where
  | methods (found : List Method)
  | properties (found : List Property)

variable {cache before middle after : MemberCache} {catalog : Catalog} {question : Question}

/-- The answer that is remembered for a question. -/
def answer? (cache : MemberCache) : Question → Option Answer
  | .methods type => (cache.methods? type).map .methods
  | .properties type => (cache.properties? type).map .properties

/-- **Asking** a cache, which asks the provider for what it does not remember. -/
def ask (cache : MemberCache) (catalog : Catalog) : Question → Supply (Answer × MemberCache)
  | .methods type => do
    let (found, cache) ← cache.askMethods catalog.methods type
    return (.methods found, cache)
  | .properties type => do
    let (found, cache) ← cache.askProperties catalog.properties type
    return (.properties found, cache)

/-- What the provider in charge of a type **provides**, if it is asked. -/
def Question.provided (catalog : Catalog) : Question → Supply Answer
  | .methods type => do return .methods (← catalog.methods.methods type)
  | .properties type => do return .properties (← catalog.properties.properties type)

/-! ## Growth -/

/-- **Extension**: a cache with further answers behind those of another. -/
structure Extends (before after : MemberCache) : Prop where
  methods : before.methods <+: after.methods
  properties : before.properties <+: after.properties

/-- A memory extends itself. -/
theorem Extends.refl (cache : MemberCache) : cache.Extends cache :=
  ⟨List.prefix_refl _, List.prefix_refl _⟩

/-- A memory extends what any before it extends. -/
theorem Extends.trans (h : before.Extends middle) (h' : middle.Extends after) :
    before.Extends after :=
  ⟨h.methods.trans h'.methods, h.properties.trans h'.properties⟩

/-- What is found is found with more behind it. -/
private theorem find?_of_prefix {α : Type} {answers more : List (SqlType × α)} (h : answers <+: more)
    {type : SqlType} {found : α} (hfound : (answers.find? (·.1 == type)).map Prod.snd = some found) :
    (more.find? (·.1 == type)).map Prod.snd = some found := by
  obtain ⟨rest, rfl⟩ := h
  obtain ⟨entry, hentry, rfl⟩ := Option.map_eq_some_iff.1 hfound
  rw [List.find?_append, hentry]
  rfl

/-- What is remembered of methods stays so. -/
theorem Extends.methods? (h : before.Extends after) {type : SqlType} {found : List Method}
    (hfound : before.methods? type = some found) : after.methods? type = some found :=
  find?_of_prefix h.methods hfound

/-- What is remembered of properties stays so. -/
theorem Extends.properties? (h : before.Extends after) {type : SqlType} {found : List Property}
    (hfound : before.properties? type = some found) : after.properties? type = some found :=
  find?_of_prefix h.properties hfound

/-- **What is remembered stays.** -/
theorem Extends.answer? (h : before.Extends after) {answer : Answer}
    (hanswer : before.answer? question = some answer) : after.answer? question = some answer := by
  cases question with
  | methods type =>
    obtain ⟨found, hfound, rfl⟩ := Option.map_eq_some_iff.1 hanswer
    exact Option.map_eq_some_iff.2 ⟨found, h.methods? hfound, rfl⟩
  | properties type =>
    obtain ⟨found, hfound, rfl⟩ := Option.map_eq_some_iff.1 hanswer
    exact Option.map_eq_some_iff.2 ⟨found, h.properties? hfound, rfl⟩

/-! ## Asking -/

/-- The last of the answers is found, if none before it is. -/
private theorem find?_last {α : Type} {answers : List (SqlType × α)} {type : SqlType}
    (h : (answers.find? (·.1 == type)).map Prod.snd = none) (found : α) :
    ((answers ++ [(type, found)]).find? (·.1 == type)).map Prod.snd = some found := by
  rw [List.find?_append, Option.map_eq_none_iff.1 h, Option.none_or,
    List.find?_singleton]
  simp

/-- Asking for methods forgets nothing, and remembers the answer. -/
theorem askMethods_extends (cache : MemberCache) (registry : Registry MethodProvider) (type : SqlType)
    (next : SymbolId) : cache.Extends (cache.askMethods registry type next).1.2 ∧
      (cache.askMethods registry type next).1.2.methods? type =
        some (cache.askMethods registry type next).1.1 := by
  unfold askMethods
  cases hfound : cache.methods? type with
  | some found => exact ⟨.refl _, hfound⟩
  | none => exact ⟨⟨List.prefix_append _ _, List.prefix_refl _⟩, find?_last hfound _⟩

/-- Asking for properties forgets nothing, and remembers the answer. -/
theorem askProperties_extends (cache : MemberCache) (registry : Registry PropertyProvider)
    (type : SqlType) (next : SymbolId) : cache.Extends (cache.askProperties registry type next).1.2 ∧
      (cache.askProperties registry type next).1.2.properties? type =
        some (cache.askProperties registry type next).1.1 := by
  unfold askProperties
  cases hfound : cache.properties? type with
  | some found => exact ⟨.refl _, hfound⟩
  | none => exact ⟨⟨List.prefix_refl _, List.prefix_append _ _⟩, find?_last hfound _⟩

/-- A question forgets nothing. -/
theorem extends_ask (cache : MemberCache) (catalog : Catalog) (question : Question) (next : SymbolId) :
    cache.Extends (cache.ask catalog question next).1.2 := by
  cases question with
  | methods type => exact (cache.askMethods_extends catalog.methods type next).1
  | properties type => exact (cache.askProperties_extends catalog.properties type next).1

/-- **An answer is remembered.** -/
theorem answer?_ask (cache : MemberCache) (catalog : Catalog) (question : Question) (next : SymbolId) :
    (cache.ask catalog question next).1.2.answer? question =
      some (cache.ask catalog question next).1.1 := by
  cases question with
  | methods type =>
    exact Option.map_eq_some_iff.2 ⟨_, (cache.askMethods_extends catalog.methods type next).2, rfl⟩
  | properties type =>
    exact Option.map_eq_some_iff.2 ⟨_, (cache.askProperties_extends catalog.properties type next).2, rfl⟩

/-- Equal questions have the same answer. -/
theorem answer?_congr (cache : MemberCache) {question other : Question} (h : (question == other) = true) :
    cache.answer? question = cache.answer? other := by
  have hsame : ∀ type other : SqlType, (type == other) = true → ∀ key : SqlType,
      (key == type) = (key == other) := fun _ _ h _ => BEq.congr_right h
  cases question <;> cases other
  case methods.methods type other => simp only [answer?, MemberCache.methods?, hsame type other h]
  case properties.properties type other =>
    simp only [answer?, MemberCache.properties?, hsame type other h]
  all_goals cases h

section Congruence

variable {catalog' : Catalog} {type : SqlType} {next : SymbolId}

/-- A sequence depends on its first step only at the identity at hand. -/
private theorem bind_congr {α β : Type} {first first' : Supply α} (h : first' next = first next)
    (rest : α → Supply β) : (first' >>= rest) next = (first >>= rest) next := by
  change rest (first' next).1 (first' next).2 = rest (first next).1 (first next).2
  rw [h]

/-- **Methods are asked for alike** if a provider that has to be asked answers alike. -/
theorem askMethods_congr
    (h : cache.answer? (.methods type) = none →
      (Question.methods type).provided catalog' next = (Question.methods type).provided catalog next) :
    cache.askMethods catalog'.methods type next = cache.askMethods catalog.methods type next := by
  unfold askMethods
  cases hfound : cache.methods? type with
  | some found => rfl
  | none =>
    have hprovided := h (by rw [answer?, hfound]; rfl)
    obtain ⟨hanswer, hnext⟩ := Prod.ext_iff.1 hprovided
    have hsame : catalog'.methods.methods type next = catalog.methods.methods type next :=
      Prod.ext (Answer.methods.inj hanswer) hnext
    exact bind_congr hsame _

/-- **Properties are asked for alike** if a provider that has to be asked answers alike. -/
theorem askProperties_congr
    (h : cache.answer? (.properties type) = none →
      (Question.properties type).provided catalog' next =
        (Question.properties type).provided catalog next) :
    cache.askProperties catalog'.properties type next =
      cache.askProperties catalog.properties type next := by
  unfold askProperties
  cases hfound : cache.properties? type with
  | some found => rfl
  | none =>
    have hprovided := h (by rw [answer?, hfound]; rfl)
    obtain ⟨hanswer, hnext⟩ := Prod.ext_iff.1 hprovided
    have hsame : catalog'.properties.properties type next = catalog.properties.properties type next :=
      Prod.ext (Answer.properties.inj hanswer) hnext
    exact bind_congr hsame _

/-- Questions are answered alike if a provider that has to be asked answers alike. -/
theorem ask_congr
    (h : cache.answer? question = none →
      question.provided catalog' next = question.provided catalog next) :
    cache.ask catalog' question next = cache.ask catalog question next := by
  cases question with
  | methods type => exact bind_congr (askMethods_congr h) _
  | properties type => exact bind_congr (askProperties_congr h) _

end Congruence

/-! ## Series of questions -/

variable {series : List (Question × SymbolId)}

/-- The cache behind a **series** of questions, each put at some time. -/
def askAll (catalog : Catalog) : MemberCache → List (Question × SymbolId) → MemberCache
  | cache, [] => cache
  | cache, (question, next) :: rest => askAll catalog (cache.ask catalog question next).1.2 rest

/-- The answers to a series of questions. -/
def answers (catalog : Catalog) : MemberCache → List (Question × SymbolId) → List Answer
  | _, [] => []
  | cache, (question, next) :: rest =>
    let (answer, after) := (cache.ask catalog question next).1
    answer :: answers catalog after rest

/-- **Calls**: those questions of a series that are passed on to a provider, as no answer to them is
remembered. -/
def calls (catalog : Catalog) : MemberCache → List (Question × SymbolId) → List (Question × SymbolId)
  | _, [] => []
  | cache, (question, next) :: rest =>
    let behind := calls catalog (cache.ask catalog question next).1.2 rest
    if (cache.answer? question).isNone then (question, next) :: behind else behind

/-- Questions one behind the other. -/
theorem askAll_append (cache : MemberCache) (series others : List (Question × SymbolId)) :
    cache.askAll catalog (series ++ others) = (cache.askAll catalog series).askAll catalog others := by
  induction series generalizing cache with
  | nil => rfl
  | cons first rest ih => exact ih _

/-- One more question. -/
theorem ask_askAll (cache : MemberCache) (series : List (Question × SymbolId)) (question : Question)
    (next : SymbolId) : ((cache.askAll catalog series).ask catalog question next).1.2 =
      cache.askAll catalog (series ++ [(question, next)]) :=
  (cache.askAll_append series [(question, next)]).symm

/-- Questions forget nothing. -/
theorem extends_askAll (cache : MemberCache) (series : List (Question × SymbolId)) :
    cache.Extends (cache.askAll catalog series) := by
  induction series generalizing cache with
  | nil => exact .refl cache
  | cons first rest ih => exact (cache.extends_ask catalog first.1 first.2).trans (ih _)

/-- The calls of a series come before those of another one behind it. -/
theorem calls_append (cache : MemberCache) (series others : List (Question × SymbolId)) :
    cache.calls catalog (series ++ others) =
      cache.calls catalog series ++ (cache.askAll catalog series).calls catalog others := by
  induction series generalizing cache with
  | nil => rfl
  | cons first rest ih =>
    rw [List.cons_append, calls, calls, ih, askAll]
    split <;> rfl

/-- **Answers are final**: each is what is remembered behind the series. -/
theorem answers_eq (cache : MemberCache) (series : List (Question × SymbolId)) :
    (cache.answers catalog series).map some =
      series.map fun entry => (cache.askAll catalog series).answer? entry.1 := by
  induction series generalizing cache with
  | nil => rfl
  | cons first rest ih =>
    have hfirst : (cache.askAll catalog (first :: rest)).answer? first.1 =
        some (cache.ask catalog first.1 first.2).1.1 :=
      (extends_askAll _ rest).answer? (cache.answer?_ask catalog first.1 first.2)
    rw [List.map_cons, hfirst]
    exact congrArg _ (ih _)

/-- **Equal questions of a series have the same answer.** -/
theorem answers_congr (cache : MemberCache) {i j : Nat} {entry entry' : Question × SymbolId}
    (hi : series[i]? = some entry) (hj : series[j]? = some entry')
    (h : (entry.1 == entry'.1) = true) :
    (cache.answers catalog series)[i]? = (cache.answers catalog series)[j]? := by
  have hsome : ∀ {k : Nat} {entry : Question × SymbolId}, series[k]? = some entry →
      (cache.answers catalog series)[k]?.map some =
        some ((cache.askAll catalog series).answer? entry.1) := by
    intro k entry hk
    rw [← List.getElem?_map, answers_eq, List.getElem?_map, hk, Option.map_some]
  have hsame := (hsome hi).trans ((congrArg some (answer?_congr _ h)).trans (hsome hj).symm)
  exact Option.map_injective (fun _ _ => Option.some.inj) hsame

/-- What reaches a provider is not remembered at first. -/
theorem answer?_of_mem_calls {cache : MemberCache} {series : List (Question × SymbolId)}
    {call : Question × SymbolId} (h : call ∈ cache.calls catalog series) :
    cache.answer? call.1 = none := by
  induction series generalizing cache with
  | nil => cases h
  | cons first rest ih =>
    have hbehind : call ∈ (cache.ask catalog first.1 first.2).1.2.calls catalog rest →
        cache.answer? call.1 = none := fun hmem => by
      cases hanswer : cache.answer? call.1 with
      | none => rfl
      | some answer =>
        have hnone := ih hmem
        rw [(cache.extends_ask catalog first.1 first.2).answer? hanswer] at hnone
        cases hnone
    rw [calls] at h
    split at h
    · rename_i hnone
      rcases List.mem_cons.1 h with rfl | hmem
      · exact Option.isNone_iff_eq_none.1 hnone
      · exact hbehind hmem
    · exact hbehind h

/-- **No question reaches a provider twice**, and none that is equal to another one.

**Proof sketch.** By induction on the series. The answer to a question that reaches a provider is
remembered from then on, and would be found for an equal one. -/
theorem pairwise_calls (cache : MemberCache) (series : List (Question × SymbolId)) :
    (cache.calls catalog series).Pairwise fun call other => (call.1 == other.1) = false := by
  induction series generalizing cache with
  | nil => exact .nil
  | cons first rest ih =>
    rw [calls]
    split
    · refine List.pairwise_cons.2 ⟨fun other hother => ?_, ih _⟩
      have hnone := answer?_of_mem_calls hother
      by_contra hne
      rw [← answer?_congr _ (Bool.not_eq_false _ ▸ hne : (first.1 == other.1) = true),
        answer?_ask] at hnone
      cases hnone
    · exact ih _

/-- **Providers decide nothing but by their answers to the calls** of a series. -/
theorem askAll_congr {catalog' : Catalog} (cache : MemberCache) (series : List (Question × SymbolId))
    (h : ∀ call ∈ cache.calls catalog series,
      call.1.provided catalog' call.2 = call.1.provided catalog call.2) :
    cache.askAll catalog' series = cache.askAll catalog series ∧
      cache.answers catalog' series = cache.answers catalog series := by
  induction series generalizing cache with
  | nil => exact ⟨rfl, rfl⟩
  | cons first rest ih =>
    rw [calls] at h
    have hfirst : cache.ask catalog' first.1 first.2 = cache.ask catalog first.1 first.2 := by
      refine ask_congr fun hnone => h first ?_
      rw [hnone]
      exact List.mem_cons_self
    obtain ⟨hafter, hanswers⟩ := ih (cache.ask catalog first.1 first.2).1.2 fun call hcall =>
      h call (by split; exacts [List.mem_cons_of_mem _ hcall, hcall])
    rw [askAll, askAll, answers, answers, hfirst]
    exact ⟨hafter, congrArg _ hanswers⟩

/-! ## Where answers come from -/

/-- The methods that a question leaves behind were there, or a provider gave them. -/
theorem methods_ask {entry : SqlType × List Method} {next : SymbolId}
    (h : entry ∈ (cache.ask catalog question next).1.2.methods) :
    entry ∈ cache.methods ∨ entry.2 = (catalog.methods.methods entry.1 next).1 := by
  cases question with
  | methods type =>
    change entry ∈ (cache.askMethods catalog.methods type next).1.2.methods at h
    rw [askMethods] at h
    cases hfound : cache.methods? type with
    | some found =>
      rw [hfound] at h
      exact .inl h
    | none =>
      rw [hfound] at h
      rcases List.mem_append.1 h with h | h
      · exact .inl h
      · obtain rfl := List.mem_singleton.1 h
        exact .inr rfl
  | properties type =>
    change entry ∈ (cache.askProperties catalog.properties type next).1.2.methods at h
    rw [askProperties] at h
    cases hfound : cache.properties? type with
    | some found | none =>
      rw [hfound] at h
      exact .inl h

/-- The properties that a question leaves behind were there, or a provider gave them. -/
theorem properties_ask {entry : SqlType × List Property} {next : SymbolId}
    (h : entry ∈ (cache.ask catalog question next).1.2.properties) :
    entry ∈ cache.properties ∨ entry.2 = (catalog.properties.properties entry.1 next).1 := by
  cases question with
  | methods type =>
    change entry ∈ (cache.askMethods catalog.methods type next).1.2.properties at h
    rw [askMethods] at h
    cases hfound : cache.methods? type with
    | some found | none =>
      rw [hfound] at h
      exact .inl h
  | properties type =>
    change entry ∈ (cache.askProperties catalog.properties type next).1.2.properties at h
    rw [askProperties] at h
    cases hfound : cache.properties? type with
    | some found =>
      rw [hfound] at h
      exact .inl h
    | none =>
      rw [hfound] at h
      rcases List.mem_append.1 h with h | h
      · exact .inl h
      · obtain rfl := List.mem_singleton.1 h
        exact .inr rfl

/-- **Provided methods**: those that are remembered behind a series were, or a provider gave them. -/
theorem methods_askAll {entry : SqlType × List Method}
    (h : entry ∈ (cache.askAll catalog series).methods) :
    entry ∈ cache.methods ∨ ∃ next, entry.2 = (catalog.methods.methods entry.1 next).1 := by
  induction series generalizing cache with
  | nil => exact .inl h
  | cons first rest ih =>
    rcases ih h with h | h
    · exact (methods_ask h).imp_right fun h => ⟨_, h⟩
    · exact .inr h

/-- **Provided properties**: those that are remembered behind a series were, or a provider gave them. -/
theorem properties_askAll {entry : SqlType × List Property}
    (h : entry ∈ (cache.askAll catalog series).properties) :
    entry ∈ cache.properties ∨ ∃ next, entry.2 = (catalog.properties.properties entry.1 next).1 := by
  induction series generalizing cache with
  | nil => exact .inl h
  | cons first rest ih =>
    rcases ih h with h | h
    · exact (properties_ask h).imp_right fun h => ⟨_, h⟩
    · exact .inr h

end MemberCache

end QuerySemantics
