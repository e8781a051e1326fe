import Mathlib.Data.List.Perm.Basic
import Mathlib.Data.List.Zip
import QuerySemantics.Proofs.Binding.Overload
import QuerySemantics.Proofs.Value.Equality

/-!
# Overloads and their order

What is selected among overloads is said here without the search for it: a candidate wins at its place
if its conversions are better than those of every other contender. Being better is asymmetric, so that
at most one place wins, wherever in the list it is. So the order of the candidates decides nothing but
the order in which ambiguous ones are listed.

## Main definitions

* `Overload.conversions`, `Overload.Applies`, `Overload.NeedsCast`, `Overload.Beats`: a candidate and the
  arguments.
* `Overload.contenders`: the preferred candidates.
* `Overload.Wins`: an occurrence of a candidate that is better than all others.
* `Overload.Choice.Reordered`: choices that are the same but for the order of ambiguous candidates.

## Main results

* `Overload.select_eq_selected_iff` and its fellows: what is selected.
* `Overload.Wins.unique`: one occurrence wins at most.
* `Overload.select_determined`: all of this, with the order of the candidates and exact matches.
-/

set_option autoImplicit false

namespace QuerySemantics

namespace Overload

/-! ## Candidates and arguments -/

/-- **Conversions** of the arguments to the parameters, in order. -/
def conversions (arguments parameters : List SqlType) : List Conversion :=
  arguments.zipWith Conversion.classify parameters

/-- **Applicability**: as many parameters as arguments, and a conversion for each argument. -/
def Applies (arguments parameters : List SqlType) : Prop :=
  parameters.length = arguments.length ∧ ∀ it ∈ conversions arguments parameters, it ≠ .none

/-- Whether an argument needs a `CAST`. -/
def NeedsCast (arguments parameters : List SqlType) : Prop :=
  .explicit ∈ conversions arguments parameters

/-- **Beating** other parameters: for no argument is the conversion worse, and for one it is better. -/
def Beats (arguments parameters others : List SqlType) : Prop :=
  let pairs := (conversions arguments parameters).zip (conversions arguments others)
  (∀ pair ∈ pairs, pair.1.rank ≤ pair.2.rank) ∧ ∃ pair ∈ pairs, pair.1.rank < pair.2.rank

/-- The conversions of the arguments are looked through. -/
instance (arguments parameters : List SqlType) : Decidable (Applies arguments parameters) := by
  unfold Applies
  infer_instance

/-- The conversions of the arguments are looked through. -/
instance (arguments parameters : List SqlType) : Decidable (NeedsCast arguments parameters) := by
  unfold NeedsCast
  infer_instance

/-- What beats other parameters is not beaten by them. -/
theorem Beats.asymm {arguments parameters others : List SqlType}
    (h : Beats arguments parameters others) : ¬Beats arguments others parameters := by
  rintro ⟨hle, -⟩
  obtain ⟨-, ⟨one, other⟩, hpair, hlt⟩ := h
  have hswapped : (other, one) ∈
      (conversions arguments others).zip (conversions arguments parameters) := by
    rw [← List.zip_swap]
    exact List.mem_map.2 ⟨(one, other), hpair, rfl⟩
  exact Nat.not_le.2 hlt (hle _ hswapped)

section Conversions

variable {arguments parameters : List SqlType}

/-- There is a conversion if there is not none. -/
theorem isPossible_iff {it : Conversion} : it.isPossible = true ↔ it ≠ .none := by
  cases it <;> simp [Conversion.isPossible]

/-- The first argument needs a conversion, and the others have to fit the other parameters. -/
theorem applies_cons {argument parameter : SqlType} :
    Applies (argument :: arguments) (parameter :: parameters) ↔
      (Conversion.classify argument parameter).isPossible = true ∧ Applies arguments parameters := by
  simp only [Applies, conversions, List.zipWith_cons_cons, List.forall_mem_cons, List.length_cons,
    Nat.add_right_cancel_iff, isPossible_iff]
  exact and_left_comm

/-- Conversions are found exactly if the parameters apply. -/
theorem conversions?_eq : conversions? arguments parameters =
    if Applies arguments parameters then some (conversions arguments parameters) else none := by
  induction arguments generalizing parameters with
  | nil => cases parameters <;> simp [conversions?, conversions, Applies]
  | cons argument arguments ih =>
    cases parameters with
    | nil => simp [conversions?, Applies]
    | cons parameter parameters =>
      simp only [conversions?, ih, applies_cons, isPossible_iff]
      by_cases hfirst : Conversion.classify argument parameter = .none
      · simp [hfirst]
      · by_cases hrest : Applies arguments parameters <;> simp [hfirst, hrest, conversions]

/-- A `CAST` is needed if there is an explicit conversion. -/
theorem any_isExplicit_iff :
    (conversions arguments parameters).any Conversion.isExplicit = true ↔
      NeedsCast arguments parameters := by
  rw [List.any_eq_true, NeedsCast]
  constructor
  · rintro ⟨it, hit, hexplicit⟩
    cases it <;> first | exact hit | cases hexplicit
  · exact fun h => ⟨_, h, rfl⟩

/-- Comparing the conversions is finding out who beats whom. -/
theorem better_iff {others : List SqlType} :
    better (conversions arguments parameters) (conversions arguments others) = true ↔
      Beats arguments parameters others := by
  simp [better, Beats]

end Conversions

/-! ## Contenders -/

variable {α : Type} (parameters : α → List SqlType) (arguments : List SqlType)

/-- **Contenders**: the candidates that apply without a `CAST`, or if there is none, all that apply. -/
def contenders (candidates : List α) : List α :=
  let applicants := candidates.filter fun it => Applies arguments (parameters it)
  if ∃ it ∈ applicants, ¬NeedsCast arguments (parameters it) then
    applicants.filter fun it => ¬NeedsCast arguments (parameters it)
  else applicants

/-- A candidate with its conversions. -/
def withConversions (it : α) : α × List Conversion :=
  (it, conversions arguments (parameters it))

/-- **Winning** at an occurrence: the candidate beats all contenders in front of it and behind it. -/
def Wins (front : List α) (it : α) (behind : List α) : Prop :=
  ∀ rival ∈ front ++ behind, Beats arguments (parameters it) (parameters rival)

variable {parameters arguments} {candidates others : List α}

/-- The applicable candidates are those that apply, with their conversions. -/
theorem applicable_eq : applicable parameters arguments candidates =
    (candidates.filter fun it => Applies arguments (parameters it)).map
      (withConversions parameters arguments) := by
  induction candidates with
  | nil => rfl
  | cons it rest ih =>
    unfold applicable at ih ⊢
    by_cases happlies : Applies arguments (parameters it)
    · rw [List.filterMap_cons_some (by rw [conversions?_eq, if_pos happlies, Option.map_some]), ih,
        List.filter_cons_of_pos (by simpa using happlies)]
      rfl
    · rw [List.filterMap_cons_none (by rw [conversions?_eq, if_neg happlies, Option.map_none]), ih,
        List.filter_cons_of_neg (by simpa using happlies)]

/-- **The preferred candidates** are the contenders. -/
theorem preferred_eq : preferred (applicable parameters arguments candidates) =
    (contenders parameters arguments candidates).map (withConversions parameters arguments) := by
  have hfree : ∀ it, castFree (withConversions parameters arguments it) =
      decide (¬NeedsCast arguments (parameters it)) := by
    intro it
    rw [decide_not, castFree, withConversions]
    exact congrArg not (Bool.eq_iff_iff.2 (any_isExplicit_iff.trans decide_eq_true_iff.symm))
  rw [applicable_eq, preferred, contenders]
  simp only [List.any_map, List.filter_map, Function.comp_def, hfree, List.any_eq_true,
    decide_eq_true_iff]
  split <;> rfl

/-! ## The winner -/

/-- **One occurrence wins at most.** -/
theorem Wins.unique {front front' behind behind' : List α} {it it' : α}
    (h : Wins parameters arguments front it behind)
    (h' : Wins parameters arguments front' it' behind')
    (heq : front ++ it :: behind = front' ++ it' :: behind') :
    front = front' ∧ it = it' ∧ behind = behind' := by
  rcases List.append_eq_append_iff.1 heq with ⟨middle, rfl, hbehind⟩ | ⟨middle, rfl, hbehind⟩ <;>
    cases middle with
    | nil => simp_all
    | cons first middle =>
      -- each of the two would beat the other
      obtain ⟨rfl, rfl⟩ := List.cons.inj hbehind
      exact absurd (h _ (by simp)) (h' _ (by simp)).asymm

/-- What is best wins at one of its occurrences. -/
theorem exists_wins_of_best? (before : List α) {those : List α} {it : α}
    (h : best? (before.map (withConversions parameters arguments))
      (those.map (withConversions parameters arguments)) = some it) :
    ∃ front behind, those = front ++ it :: behind ∧
      Wins parameters arguments (before ++ front) it behind := by
  induction those generalizing before with
  | nil => cases h
  | cons first rest ih =>
    rw [List.map_cons, best?] at h
    split at h
    · rename_i hall
      obtain rfl := Option.some.inj h
      refine ⟨[], rest, rfl, fun rival hrival => better_iff.1 ?_⟩
      rw [List.append_nil] at hrival
      rw [← List.map_append, List.all_map, List.all_eq_true] at hall
      exact hall rival hrival
    · obtain ⟨front, behind, rfl, hwins⟩ := ih (first :: before) h
      refine ⟨first :: front, behind, rfl, fun rival hrival => hwins rival ?_⟩
      simp only [List.mem_append, List.mem_cons] at hrival ⊢
      tauto

/-- Where something wins there is a best. -/
theorem isSome_best?_of_wins (before : List α) {front behind : List α} {it : α}
    (h : Wins parameters arguments (before ++ front) it behind) :
    (best? (before.map (withConversions parameters arguments))
      ((front ++ it :: behind).map (withConversions parameters arguments))).isSome = true := by
  induction front generalizing before with
  | nil =>
    have hall : (before ++ behind).all fun rival =>
        better (conversions arguments (parameters it)) (conversions arguments (parameters rival)) := by
      rw [List.append_nil] at h
      exact List.all_eq_true.2 fun rival hrival => better_iff.2 (h rival hrival)
    rw [List.nil_append, List.map_cons, best?, ← List.map_append, List.all_map]
    exact congrArg Option.isSome (if_pos hall)
  | cons first front ih =>
    rw [List.cons_append, List.map_cons, best?]
    split
    · rfl
    · refine ih (first :: before) fun rival hrival => h rival ?_
      simp only [List.mem_append, List.mem_cons] at hrival ⊢
      tauto

/-! ## The selection -/

/-- A selection is the best contender, if there is a contender and one is best. -/
theorem select_eq : select parameters arguments candidates =
    if contenders parameters arguments candidates = [] then .noMatch
    else
      match best? [] ((contenders parameters arguments candidates).map
        (withConversions parameters arguments)) with
      | some it => .selected it
      | none => .ambiguous (contenders parameters arguments candidates) := by
  rw [select, preferred_eq]
  cases contenders parameters arguments candidates with
  | nil => rfl
  | cons first rest =>
    have hnames : ((first :: rest).map (withConversions parameters arguments)).map Prod.fst =
        first :: rest := by
      simp [withConversions, Function.comp_def]
    rw [if_neg (List.cons_ne_nil first rest)]
    simp only [List.map_cons (f := withConversions parameters arguments)] at hnames ⊢
    cases best? [] (withConversions parameters arguments first ::
        rest.map (withConversions parameters arguments)) with
    | none => exact congrArg Choice.ambiguous hnames
    | some it => rfl

/-- There are no contenders exactly if no candidate applies. -/
theorem contenders_eq_nil_iff : contenders parameters arguments candidates = [] ↔
    ∀ it ∈ candidates, ¬Applies arguments (parameters it) := by
  simp only [contenders]
  split_ifs with hfree
  · obtain ⟨it, hit, hcast⟩ := hfree
    have hmem := List.mem_filter.1 hit
    refine iff_of_false (List.ne_nil_of_mem (List.mem_filter.2 ⟨hit, by simpa using hcast⟩)) ?_
    exact fun hnone => hnone it hmem.1 (of_decide_eq_true hmem.2)
  · simp [List.filter_eq_nil_iff]

/-- **Nothing is selected** exactly if there are no contenders. -/
theorem select_eq_noMatch_iff : select parameters arguments candidates = .noMatch ↔
    contenders parameters arguments candidates = [] := by
  rw [select_eq]
  split_ifs with hnil
  · exact iff_of_true rfl hnil
  · refine iff_of_false (fun h => ?_) hnil
    split at h <;> cases h

/-- **What is selected** wins among the contenders. -/
theorem select_eq_selected_iff {it : α} : select parameters arguments candidates = .selected it ↔
    ∃ front behind, contenders parameters arguments candidates = front ++ it :: behind ∧
      Wins parameters arguments front it behind := by
  rw [select_eq]
  constructor
  · intro h
    split_ifs at h
    split at h <;> cases h
    rename_i hbest
    exact exists_wins_of_best? [] hbest
  · rintro ⟨front, behind, heq, hwins⟩
    obtain ⟨best, hbest⟩ := Option.isSome_iff_exists.1 (isSome_best?_of_wins [] hwins)
    obtain ⟨front', behind', heq', hwins'⟩ := exists_wins_of_best? [] hbest
    obtain ⟨-, rfl, -⟩ := hwins.unique hwins' heq'
    rw [heq, if_neg (by simp)]
    simp only [List.map_nil] at hbest
    simp only [hbest]

/-- **Ambiguous candidates** are all the contenders, none of which wins. -/
theorem select_eq_ambiguous_iff {its : List α} :
    select parameters arguments candidates = .ambiguous its ↔
      its = contenders parameters arguments candidates ∧ its ≠ [] ∧
        ∀ front it behind, its = front ++ it :: behind → ¬Wins parameters arguments front it behind := by
  constructor
  · intro h
    have hits : its = contenders parameters arguments candidates := by
      rw [select_eq] at h
      split_ifs at h
      split at h <;> cases h
      rfl
    subst hits
    refine ⟨rfl, fun hnil => ?_, fun front it behind heq hwins => ?_⟩
    · exact nomatch h.symm.trans (select_eq_noMatch_iff.2 hnil)
    · exact nomatch h.symm.trans (select_eq_selected_iff.2 ⟨front, behind, heq, hwins⟩)
  · rintro ⟨rfl, hne, hnone⟩
    cases hchoice : select parameters arguments candidates with
    | noMatch => exact absurd (select_eq_noMatch_iff.1 hchoice) hne
    | selected it =>
      obtain ⟨front, behind, heq, hwins⟩ := select_eq_selected_iff.1 hchoice
      exact absurd hwins (hnone front it behind heq)
    | ambiguous its =>
      rw [select_eq] at hchoice
      split_ifs at hchoice
      split at hchoice <;> cases hchoice
      rfl

/-! ## The order of the candidates -/

/-- **Reordered choices**: the same but for the order of ambiguous candidates. -/
inductive Choice.Reordered : Choice α → Choice α → Prop
  | selected (it : α) : Choice.Reordered (.selected it) (.selected it)
  | ambiguous {its others : List α} (h : its.Perm others) :
      Choice.Reordered (.ambiguous its) (.ambiguous others)
  | noMatch : Choice.Reordered .noMatch .noMatch

/-- Reordered candidates have reordered contenders. -/
theorem contenders_perm (h : candidates.Perm others) :
    (contenders parameters arguments candidates).Perm (contenders parameters arguments others) := by
  have happlicants := h.filter fun it => Applies arguments (parameters it)
  simp only [contenders, happlicants.mem_iff]
  split
  · exact happlicants.filter _
  · exact happlicants

/-- Wherever the winner is in the list, it beats the others. -/
theorem exists_wins_of_perm {its rivals : List α} {it : α} (h : its.Perm (it :: rivals))
    (hbeats : ∀ rival ∈ rivals, Beats arguments (parameters it) (parameters rival)) :
    ∃ front behind, its = front ++ it :: behind ∧ Wins parameters arguments front it behind := by
  obtain ⟨front, behind, rfl⟩ := List.append_of_mem (h.mem_iff.2 List.mem_cons_self)
  have hrivals : (front ++ behind).Perm rivals := (List.perm_middle.symm.trans h).cons_inv
  exact ⟨front, behind, rfl, fun rival hrival => hbeats rival (hrivals.mem_iff.1 hrival)⟩

/-- **The order of the candidates** decides nothing but the order of ambiguous ones. -/
theorem select_reordered (h : candidates.Perm others) :
    (select parameters arguments candidates).Reordered (select parameters arguments others) := by
  have hcontenders : (contenders parameters arguments candidates).Perm
      (contenders parameters arguments others) := contenders_perm h
  cases hchoice : select parameters arguments candidates with
  | noMatch =>
    have hnil : contenders parameters arguments others = [] :=
      List.nil_perm.1 (select_eq_noMatch_iff.1 hchoice ▸ hcontenders)
    rw [select_eq_noMatch_iff.2 hnil]
    exact .noMatch
  | selected it =>
    obtain ⟨front, behind, heq, hwins⟩ := select_eq_selected_iff.1 hchoice
    rw [heq] at hcontenders
    have hothers := hcontenders.symm.trans List.perm_middle
    rw [select_eq_selected_iff.2 (exists_wins_of_perm hothers hwins)]
    exact .selected it
  | ambiguous its =>
    obtain ⟨rfl, hne, hnone⟩ := select_eq_ambiguous_iff.1 hchoice
    have hambiguous : select parameters arguments others =
        .ambiguous (contenders parameters arguments others) := by
      refine select_eq_ambiguous_iff.2 ⟨rfl, fun hnil => ?_, fun front it behind heq hwins => ?_⟩
      · exact hne (List.perm_nil.1 (hnil ▸ hcontenders))
      · rw [heq] at hcontenders
        obtain ⟨front', behind', heq', hwins'⟩ :=
          exists_wins_of_perm (hcontenders.trans List.perm_middle) hwins
        exact hnone front' it behind' heq' hwins'
    rw [hambiguous]
    exact .ambiguous hcontenders

/-! ## Exact matches -/

section Exact

variable {types : List SqlType}

/-- Parameters equal the arguments if each argument converts by the identity. -/
theorem beq_iff_identity : (types == arguments) = true ↔
    types.length = arguments.length ∧ ∀ it ∈ conversions arguments types, it = .identity := by
  induction arguments generalizing types with
  | nil => cases types <;> simp [conversions]
  | cons argument arguments ih =>
    cases types with
    | nil => simp [conversions]
    | cons type types =>
      rw [List.cons_beq_cons, Bool.and_eq_true, ih, BEq.comm,
        ← Conversion.classify_eq_identity_iff]
      simp only [conversions, List.zipWith_cons_cons, List.forall_mem_cons, List.length_cons,
        Nat.add_right_cancel_iff]
      exact and_left_comm

/-- An exact match applies. -/
theorem applies_of_beq (h : (types == arguments) = true) : Applies arguments types := by
  obtain ⟨hlength, hidentity⟩ := beq_iff_identity.1 h
  exact ⟨hlength, fun it hit => by simp [hidentity it hit]⟩

/-- An exact match needs no `CAST`. -/
theorem not_needsCast_of_beq (h : (types == arguments) = true) : ¬NeedsCast arguments types :=
  fun hcast => nomatch (beq_iff_identity.1 h).2 _ hcast

/-- Nothing beats an exact match. -/
theorem not_beats_of_beq (h : (types == arguments) = true) (others : List SqlType) :
    ¬Beats arguments others types := by
  rintro ⟨-, pair, hpair, hlt⟩
  rw [(beq_iff_identity.1 h).2 _ (List.of_mem_zip hpair).2] at hlt
  exact absurd hlt (Nat.not_lt_zero _)

/-- An exact match beats whatever applies and is none. -/
theorem beats_of_beq (h : (types == arguments) = true) {others : List SqlType}
    (happlies : Applies arguments others) (hother : (others == arguments) = false) :
    Beats arguments types others := by
  obtain ⟨hlength, hidentity⟩ := beq_iff_identity.1 h
  have hfirst : ∀ pair ∈ (conversions arguments types).zip (conversions arguments others),
      pair.1.rank = 0 := by
    intro pair hpair
    rw [hidentity _ (List.of_mem_zip hpair).1]
    rfl
  refine ⟨fun pair hpair => hfirst pair hpair ▸ Nat.zero_le _, ?_⟩
  obtain ⟨it, hit, hne⟩ : ∃ it ∈ conversions arguments others, it ≠ .identity := by
    by_contra hnone
    push Not at hnone
    exact Bool.false_ne_true (hother.symm.trans (beq_iff_identity.2 ⟨happlies.1, hnone⟩))
  have hlengths : (conversions arguments others).length ≤ (conversions arguments types).length := by
    simp [conversions, hlength, happlies.1]
  rw [← List.map_snd_zip hlengths] at hit
  obtain ⟨pair, hpair, rfl⟩ := List.mem_map.1 hit
  refine ⟨pair, hpair, hfirst pair hpair ▸ ?_⟩
  cases hrank : pair.2 <;> first | exact absurd hrank hne | exact Nat.zero_lt_succ _

end Exact

/-- Reordered choices select the same. -/
theorem Choice.Reordered.selected_iff {choice other : Choice α} {it : α}
    (h : choice.Reordered other) : choice = .selected it ↔ other = .selected it := by
  cases h <;> simp

/-- **An exact match** is selected unless there is another one. -/
theorem select_exact_iff {front behind : List α} {it : α}
    (hit : (parameters it == arguments) = true) :
    select parameters arguments (front ++ it :: behind) = .selected it ↔
      ∀ other ∈ front ++ behind, (parameters other == arguments) = false := by
  rw [(select_reordered List.perm_middle).selected_iff, select_eq_selected_iff]
  have hcontenders : contenders parameters arguments (it :: (front ++ behind)) =
      it :: ((front ++ behind).filter fun other => Applies arguments (parameters other)).filter
        fun other => ¬NeedsCast arguments (parameters other) := by
    simp [contenders, applies_of_beq hit, not_needsCast_of_beq hit]
  rw [hcontenders]
  constructor
  · rintro ⟨before, after, heq, hwins⟩ other hother
    by_contra hexact
    rw [Bool.not_eq_false] at hexact
    have hperm := (List.Perm.of_eq heq).trans List.perm_middle
    have hmem : other ∈ before ++ after := by
      rw [← hperm.cons_inv.mem_iff, List.mem_filter, List.mem_filter]
      exact ⟨⟨hother, decide_eq_true (applies_of_beq hexact)⟩,
        decide_eq_true (not_needsCast_of_beq hexact)⟩
    exact not_beats_of_beq hexact _ (hwins other hmem)
  · intro hothers
    refine ⟨[], _, rfl, fun rival hrival => ?_⟩
    rw [List.nil_append, List.mem_filter, List.mem_filter] at hrival
    obtain ⟨⟨hmem, happlies⟩, -⟩ := hrival
    exact beats_of_beq hit (of_decide_eq_true happlies) (hothers rival hmem)

/-- **Selection is exact and free of order.** Nothing is selected exactly if no candidate applies, a
candidate exactly if it wins among the contenders, and else all contenders are listed, in their order. One
occurrence wins at most, so that another order of the candidates gives the same choice but for the order
of ambiguous ones. A candidate whose parameters equal the arguments is selected unless there is another
one.

**Proof sketch.** The search runs through the contenders with the conversions of each, and compares these
as `Beats` does. Beating is asymmetric, so of two occurrences at most one beats the other. An exact match
has the best conversion for each argument, and nothing else that applies has. -/
theorem select_determined (parameters : α → List SqlType) (arguments : List SqlType)
    (candidates : List α) :
    let rivals := contenders parameters arguments candidates
    let choice := select parameters arguments candidates
    (choice = .noMatch ↔ ∀ it ∈ candidates, ¬Applies arguments (parameters it)) ∧
    (∀ it, choice = .selected it ↔ ∃ front behind, rivals = front ++ it :: behind ∧
      Wins parameters arguments front it behind) ∧
    (∀ its, choice = .ambiguous its ↔ its = rivals ∧ its ≠ [] ∧
      ∀ front it behind, its = front ++ it :: behind → ¬Wins parameters arguments front it behind) ∧
    (∀ front it behind front' it' behind', rivals = front ++ it :: behind →
      rivals = front' ++ it' :: behind' → Wins parameters arguments front it behind →
        Wins parameters arguments front' it' behind' → front = front' ∧ it = it' ∧ behind = behind') ∧
    (∀ others, candidates.Perm others → choice.Reordered (select parameters arguments others)) ∧
    ∀ front it behind, candidates = front ++ it :: behind → (parameters it == arguments) = true →
      (choice = .selected it ↔ ∀ other ∈ front ++ behind, (parameters other == arguments) = false) := by
  intro rivals choice
  refine ⟨?_, fun it => select_eq_selected_iff, fun its => select_eq_ambiguous_iff, ?_, ?_, ?_⟩
  · exact select_eq_noMatch_iff.trans contenders_eq_nil_iff
  · intro front it behind front' it' behind' heq heq' hwins hwins'
    exact hwins.unique hwins' (heq.symm.trans heq')
  · exact fun others hperm => select_reordered hperm
  · rintro front it behind rfl hit
    exact select_exact_iff hit

end Overload

end QuerySemantics
