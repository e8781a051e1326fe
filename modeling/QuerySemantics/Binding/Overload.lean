import QuerySemantics.Value.Conversion

/-!
# Overloads

Choosing among several functions or methods of one name. A candidate applies if it has as many
parameters as there are arguments and each argument converts to its parameter. Candidates that need
no `CAST` are preferred to those that need one. Of the preferred candidates the one is chosen that
is better than every other: for no argument is its conversion worse, and for one it is better.

## Main definitions

* `Overload.conversions?`: the conversions of the arguments to the parameters of a candidate.
* `Overload.applicable`, `Overload.preferred`: the candidates to choose from.
* `Overload.Choice`, `Overload.select`: the choice.
-/

set_option autoImplicit false

namespace QuerySemantics

namespace Overload

/-- **Choice** among candidates. -/
inductive Choice (α : Type) where
  | selected (it : α)
  /-- None of the preferred candidates is better than all others. -/
  | ambiguous (candidates : List α)
  /-- No candidate applies. -/
  | noMatch

/-- **Conversions** of the arguments to the parameters, if there are as many of both and each
argument converts. -/
def conversions? : (arguments parameters : List SqlType) → Option (List Conversion)
  | [], [] => some []
  | argument :: arguments, parameter :: parameters =>
    let conversion := Conversion.classify argument parameter
    if conversion.isPossible then (conversions? arguments parameters).map (conversion :: ·)
    else none
  | _, _ => none

/-- Whether the first conversions are for no argument worse than the second, and for one better. -/
def better (these those : List Conversion) : Bool :=
  (these.zip those).all (fun (x, y) => x.rank ≤ y.rank) &&
    (these.zip those).any (fun (x, y) => x.rank < y.rank)

variable {α : Type}

/-- **Applicable candidates**, with their conversions. -/
def applicable (parameters : α → List SqlType) (arguments : List SqlType) (candidates : List α) :
    List (α × List Conversion) :=
  candidates.filterMap fun it => (conversions? arguments (parameters it)).map (it, ·)

/-- Whether no conversion needs a `CAST`. -/
def castFree (candidate : α × List Conversion) : Bool :=
  !candidate.2.any Conversion.isExplicit

/-- **Preferred candidates**: those that need no `CAST`, or all if each needs one. -/
def preferred (candidates : List (α × List Conversion)) : List (α × List Conversion) :=
  if candidates.any castFree then candidates.filter castFree else candidates

/-- The first candidate of the list that is better than all others of it and all those `before`. -/
def best? (before : List (α × List Conversion)) : List (α × List Conversion) → Option α
  | [] => none
  | it :: after =>
    if (before ++ after).all fun other => better it.2 other.2 then some it.1
    else best? (it :: before) after

/-- **Selection** among candidates for arguments of the given types. -/
def select (parameters : α → List SqlType) (arguments : List SqlType) (candidates : List α) :
    Choice α :=
  match preferred (applicable parameters arguments candidates) with
  | [] => .noMatch
  | contenders =>
    match best? [] contenders with
    | some it => .selected it
    | none => .ambiguous (contenders.map (·.1))

end Overload

end QuerySemantics
