import Mathlib.Data.List.Basic
import Mathlib.Data.List.Induction
import QuerySemantics.Catalog.Members
import QuerySemantics.Proofs.Value.Equality

/-!
# Registering providers

A registry is filled by registrations, one after the other. A later provider for a type takes the place
of an earlier one, so that a type never has two. A type is served by the provider for itself, or else by
that for its nearest base that has one, or else by that for all objects.

## Main definitions

* `Registry.registered`: a registry after some registrations.
* `Registry.Latest`: the provider that was registered last for a type.
* `SqlType.bases`: the types that a type inherits from.
* `Registry.Serves`: the provider of the first among some types that was ever registered.

## Main results

* `Registry.get?_register_of_beq`, `Registry.get?_register_of_not_beq`, `Registry.Distinct.register`: what
  one registration does.
* `Registry.get?_registered_iff`: a registry keeps the latest provider for each type.
* `Registry.lookup_registered`: which provider serves a type.
-/

set_option autoImplicit false

namespace QuerySemantics

/-- **Bases** of a type, from the nearest on. Only host types inherit. -/
def SqlType.bases : SqlType → List SqlType
  | .host it => it.ancestors.map .host
  | _ => []

namespace Registry

/-! ## One registration -/

section Step

variable {provider : Type} {registry : Registry provider}

/-- Replacing providers does not change which entry is found for a type. -/
theorem find?_replaced (entries : List (SqlType × provider)) (type other : SqlType) (it : provider) :
    (entries.map fun entry => if entry.1 == type then (entry.1, it) else entry).find? (·.1 == other) =
      (entries.find? (·.1 == other)).map fun entry =>
        if entry.1 == type then (entry.1, it) else entry := by
  rw [List.find?_map]
  congr 2
  funext entry
  rw [Function.comp_apply]
  split <;> rfl

/-- **Distinct**: no two entries of the registry are for equal types. -/
def Distinct (registry : Registry provider) : Prop :=
  registry.types.Pairwise fun type other => (type == other) = false

/-- A type that has an entry keeps its place, and another type comes last. -/
theorem types_register (registry : Registry provider) (type : SqlType) (it : provider) :
    (registry.register type it).types =
      if registry.types.any (· == type) then registry.types else registry.types ++ [type] := by
  have hany : registry.types.any (· == type) = registry.entries.any (·.1 == type) := by
    rw [types, List.any_map]
    rfl
  rw [hany, register]
  split
  · rw [types, List.map_map, types]
    refine List.map_congr_left fun entry _ => ?_
    rw [Function.comp_apply]
    split <;> rfl
  · exact List.map_append

/-- **A registration keeps types distinct.** -/
theorem Distinct.register (h : registry.Distinct) (type : SqlType) (it : provider) :
    (registry.register type it).Distinct := by
  rw [Distinct, types_register]
  split
  · exact h
  · rename_i hnew
    refine List.pairwise_append.2 ⟨h, List.pairwise_singleton _ _, fun other hother _ hlast => ?_⟩
    rw [List.mem_singleton.1 hlast]
    exact Bool.eq_false_iff.2 fun heq => hnew (List.any_eq_true.2 ⟨other, hother, heq⟩)

/-- **After a registration** the type has the new provider, whether an earlier one is replaced or not. -/
theorem get?_register_of_beq {type other : SqlType} (h : (type == other) = true) (it : provider) :
    (registry.register type it).get? other = some it := by
  rw [register]
  split
  · rename_i hany
    -- the entry that is found is for an equal type, so it is the replaced one
    obtain ⟨entry, hentry, htype⟩ := List.any_eq_true.1 hany
    cases hfound : registry.entries.find? (·.1 == other) with
    | none => exact absurd (BEq.trans htype h) (List.find?_eq_none.1 hfound entry hentry)
    | some found =>
      have hother := List.find?_some hfound
      rw [get?, find?_replaced, hfound, Option.map_some, if_pos (BEq.trans hother (BEq.symm h))]
      rfl
  · rename_i hnew
    have hnone : registry.entries.find? (·.1 == other) = none := by
      rw [List.find?_eq_none]
      intro entry hentry hother
      exact hnew (List.any_eq_true.2 ⟨entry, hentry, BEq.trans hother (BEq.symm h)⟩)
    rw [get?, List.find?_append, hnone, Option.none_or, List.find?_singleton, if_pos h]
    rfl

/-- **Other types** have what they had before a registration. -/
theorem get?_register_of_not_beq {type other : SqlType} (h : (type == other) = false) (it : provider) :
    (registry.register type it).get? other = registry.get? other := by
  rw [register]
  split
  · rw [get?, find?_replaced, get?]
    cases hfound : registry.entries.find? (·.1 == other) with
    | none => rfl
    | some found =>
      have hother := List.find?_some hfound
      have hne : ¬(found.1 == type) = true := fun htype =>
        Bool.eq_false_iff.1 h (BEq.trans (BEq.symm htype) hother)
      rw [Option.map_some, if_neg hne]
  · rw [get?, List.find?_append, List.find?_singleton, if_neg (Bool.eq_false_iff.1 h), Option.or_none, get?]

end Step

/-! ## Some registrations -/

section Runs

variable {provider : Type} {calls : List (SqlType × provider)} {type : SqlType} {it : provider}

/-- **A registry after registrations**: they come one after the other, on a registry without entries. -/
def registered (calls : List (SqlType × provider)) : Registry provider :=
  calls.foldl (fun registry call => registry.register call.1 call.2) .empty

/-- One registration more. -/
theorem registered_concat (calls : List (SqlType × provider)) (call : SqlType × provider) :
    registered (calls ++ [call]) = (registered calls).register call.1 call.2 := by
  rw [registered, List.foldl_append]
  rfl

/-- **Unregistered**: no provider was ever registered for the type. -/
def Unregistered (calls : List (SqlType × provider)) (type : SqlType) : Prop :=
  ∀ call ∈ calls, (call.1 == type) = false

/-- **Latest provider** of a type: that of the last registration for an equal type. -/
def Latest (calls : List (SqlType × provider)) (type : SqlType) (it : provider) : Prop :=
  ∃ before key after, calls = before ++ (key, it) :: after ∧ (key == type) = true ∧
    Unregistered after type

/-- The last registration of all is the latest one for its type. -/
theorem latest_concat_of_beq {call : SqlType × provider} (h : (call.1 == type) = true) :
    Latest (calls ++ [call]) type it ↔ call.2 = it := by
  constructor
  · rintro ⟨before, key, after, hcalls, -, hafter⟩
    rcases List.eq_nil_or_concat' after with rfl | ⟨rest, last, rfl⟩
    · obtain ⟨-, hcall⟩ := List.append_inj' hcalls rfl
      rw [(List.cons.inj hcall).1]
    · -- otherwise the last registration is for another type
      rw [← List.cons_append, ← List.append_assoc] at hcalls
      obtain ⟨-, hcall⟩ := List.append_inj' hcalls rfl
      have hlast := hafter last (List.mem_append_right _ List.mem_cons_self)
      rw [← (List.cons.inj hcall).1, h] at hlast
      cases hlast
  · rintro rfl
    exact ⟨calls, call.1, [], rfl, h, fun _ hcall => absurd hcall List.not_mem_nil⟩

/-- A registration for another type leaves the latest provider as it was. -/
theorem latest_concat_of_not_beq {call : SqlType × provider} (h : (call.1 == type) = false) :
    Latest (calls ++ [call]) type it ↔ Latest calls type it := by
  constructor
  · rintro ⟨before, key, after, hcalls, hkey, hafter⟩
    rcases List.eq_nil_or_concat' after with rfl | ⟨rest, last, rfl⟩
    · obtain ⟨-, hcall⟩ := List.append_inj' hcalls rfl
      rw [(List.cons.inj hcall).1, hkey] at h
      cases h
    · rw [← List.cons_append, ← List.append_assoc] at hcalls
      obtain ⟨hcalls, -⟩ := List.append_inj' hcalls rfl
      exact ⟨before, key, rest, hcalls, hkey, fun call hcall => hafter call (List.mem_append_left _ hcall)⟩
  · rintro ⟨before, key, after, rfl, hkey, hafter⟩
    refine ⟨before, key, after ++ [call], by simp, hkey, fun other hother => ?_⟩
    rcases List.mem_append.1 hother with hother | hother
    · exact hafter other hother
    · rwa [List.mem_singleton.1 hother]

/-- **Types stay distinct** through all registrations. -/
theorem registered_distinct (calls : List (SqlType × provider)) : (registered calls).Distinct := by
  induction calls using List.reverseRecOn with
  | nil => exact List.Pairwise.nil
  | append_singleton calls call ih =>
    rw [registered_concat]
    exact ih.register call.1 call.2

/-- **The latest provider** for a type is the one that the registry has for it. -/
theorem get?_registered_iff : (registered calls).get? type = some it ↔ Latest calls type it := by
  induction calls using List.reverseRecOn with
  | nil => exact iff_of_false nofun fun ⟨_, _, _, hcalls, _⟩ => by simp at hcalls
  | append_singleton calls call ih =>
    rw [registered_concat]
    cases hcall : call.1 == type with
    | true => rw [get?_register_of_beq hcall, Option.some_inj, latest_concat_of_beq hcall]
    | false => rw [get?_register_of_not_beq hcall, ih, latest_concat_of_not_beq hcall]

/-- **A type without registrations** has no provider of its own. -/
theorem get?_registered_eq_none_iff :
    (registered calls).get? type = none ↔ Unregistered calls type := by
  induction calls using List.reverseRecOn with
  | nil => exact iff_of_true rfl fun _ hcall => absurd hcall List.not_mem_nil
  | append_singleton calls call ih =>
    rw [registered_concat, Unregistered, List.forall_mem_append, List.forall_mem_singleton]
    cases hcall : call.1 == type with
    | true => simp [get?_register_of_beq hcall]
    | false => rw [get?_register_of_not_beq hcall, ih, Unregistered, and_iff_left rfl]

end Runs

/-! ## Lookup -/

section Lookup

variable {member shape : Type} {calls : List (SqlType × Provider member shape)}
  {types : List SqlType} {it : Provider member shape}

/-- **Serving**: the latest provider of the first among some types that one was ever registered for, and
the provider without members if there is no such type. -/
inductive Serves (calls : List (SqlType × Provider member shape)) :
    List SqlType → Provider member shape → Prop where
  | nobody : Serves calls [] .nothing
  | first {type : SqlType} {rest : List SqlType} {it : Provider member shape} :
      Latest calls type it → Serves calls (type :: rest) it
  | later {type : SqlType} {rest : List SqlType} {it : Provider member shape} :
      Unregistered calls type → Serves calls rest it → Serves calls (type :: rest) it

/-- Going through some types finds the provider that serves them. -/
theorem findSome?_registered_iff :
    (types.findSome? (registered calls).get?).getD .nothing = it ↔ Serves calls types it := by
  induction types with
  | nil =>
    constructor
    · rintro rfl
      exact .nobody
    · rintro ⟨⟩
      rfl
  | cons type rest ih =>
    rw [List.findSome?_cons]
    cases hget : (registered calls).get? type with
    | some found =>
      rw [Option.getD_some]
      constructor
      · rintro rfl
        exact .first (get?_registered_iff.1 hget)
      · intro h
        cases h with
        | first hlatest => exact Option.some_inj.1 (hget.symm.trans (get?_registered_iff.2 hlatest))
        | later hnone => cases hget.symm.trans (get?_registered_eq_none_iff.2 hnone)
    | none =>
      rw [ih]
      constructor
      · exact .later (get?_registered_eq_none_iff.1 hget)
      · intro h
        cases h with
        | first hlatest => cases hget.symm.trans (get?_registered_iff.2 hlatest)
        | later _ h => exact h

/-- The types whose providers may serve a type. -/
theorem candidates_eq (type : SqlType) : candidates type = type :: (type.bases ++ [.object]) := by
  cases type <;> rfl

/-- **The most specific and latest provider.** After any registrations, no type has two entries; the
provider for exactly a type is the one that was registered last for an equal type; and the provider that
is asked for the members of a type is the latest one of the first type that one was ever registered for,
among the type itself, its bases from the nearest on and the type of all objects, or the provider without
members if there is none for any of them. -/
theorem lookup_registered (calls : List (SqlType × Provider member shape)) (type : SqlType) :
    (registered calls).Distinct ∧
      (∀ it, (registered calls).get? type = some it ↔ Latest calls type it) ∧
      ∀ it, ((registered calls).lookup? type).getD .nothing = it ↔
        Serves calls (type :: (type.bases ++ [.object])) it := by
  refine ⟨registered_distinct calls, fun it => get?_registered_iff, fun it => ?_⟩
  rw [lookup?, candidates_eq]
  exact findSome?_registered_iff

/-- A provider for a base serves a derived type until the type gets one of its own, and a type of the same
name replaces the provider in its place. -/
example (first second third : MethodProvider) :
    let shape : SqlType := .host ⟨"Shape", []⟩
    let circle : SqlType := .host ⟨"Circle", ["Shape"]⟩
    let calls := [(shape, first), (.object, second), (.host ⟨"Shape", ["Thing"]⟩, third)]
    (registered calls).size = 2 ∧ (registered calls).lookup? circle = some third ∧
      (registered calls).lookup? .int32 = some second :=
  ⟨rfl, rfl, rfl⟩

end Lookup

end Registry

end QuerySemantics
