/-
This file says in which ways a computation may end. Main statement: computations one after another,
or one for each value of a list, end in a way in which each of them may.
-/

import Mathlib.Data.List.Forall2
import Flourish.Failure

namespace Flourish

/-- A computation ends with a value of one kind or with an error of another. -/
inductive Ends {Error Value : Type} (good : Value → Prop) (bad : Error → Prop) :
    Except Error Value → Prop
  | ok {value : Value} (holds : good value) : Ends good bad (.ok value)
  | error {error : Error} (holds : bad error) : Ends good bad (.error error)

namespace Ends

variable {Error Value Other : Type} {good : Value → Prop} {fine : Other → Prop}
  {bad : Error → Prop}

theorem holds {value : Value} (ends : Ends good bad (.ok value)) : good value := by
  cases ends with
  | ok holds => exact holds

theorem fails {error : Error} (ends : Ends good bad (.error error)) : bad error := by
  cases ends with
  | error holds => exact holds

/-- A computation that cannot end with an error ends with a value. -/
theorem exists_ok {result : Except Error Value} (ends : Ends good (fun _ => False) result) :
    ∃ value, result = .ok value ∧ good value := by
  cases ends with
  | ok holds => exact ⟨_, rfl, holds⟩
  | error fails => exact fails.elim

theorem self (result : Except Error Value) :
    Ends (fun value => result = .ok value) (fun _ => True) result := by
  cases result with
  | ok value => exact .ok rfl
  | error error => exact .error trivial

theorem mono {other : Value → Prop} {result : Except Error Value} (ends : Ends good bad result)
    (weaker : ∀ value, good value → other value) : Ends other bad result := by
  cases ends with
  | ok holds => exact .ok (weaker _ holds)
  | error holds => exact .error holds

theorem bind {first : Except Error Value} {next : Value → Except Error Other}
    (before : Ends good bad first) (after : ∀ value, good value → Ends fine bad (next value)) :
    Ends fine bad (first >>= next) := by
  cases before with
  | ok holds => exact after _ holds
  | error holds => exact .error holds

theorem map {first : Except Error Value} {change : Value → Other} (before : Ends good bad first)
    (kept : ∀ value, good value → fine (change value)) : Ends fine bad (first.map change) := by
  cases before with
  | ok holds => exact .ok (kept _ holds)
  | error holds => exact .error holds

/-- The results for the values of a list are found one by one. -/
theorem mapM {matching : Value → Other → Prop} {compute : Value → Except Error Other}
    (values : List Value) (each : ∀ value ∈ values, Ends (matching value) bad (compute value)) :
    Ends (List.Forall₂ matching values) bad (values.mapM compute) := by
  induction values with
  | nil => exact .ok .nil
  | cons value rest inductionHypothesis =>
      rw [List.mapM_cons]
      have others := inductionHypothesis fun other member =>
        each other (List.mem_cons_of_mem _ member)
      refine (each value List.mem_cons_self).bind fun first suits => ?_
      exact others.bind fun found all => .ok (.cons suits all)

/-- All results for the values of a list are of one kind. -/
theorem mapM_all {compute : Value → Except Error Other} (values : List Value)
    (each : ∀ value ∈ values, Ends fine bad (compute value)) :
    Ends (fun results => ∀ result ∈ results, fine result) bad (values.mapM compute) := by
  refine (mapM values each).mono fun results all => ?_
  clear each
  induction all with
  | nil => exact fun result member => nomatch member
  | cons holds _ inductionHypothesis =>
      exact List.forall_mem_cons.mpr ⟨holds, inductionHypothesis⟩

end Ends

theorem exists_of_map_ok {Error Value Other : Type} {result : Except Error Value}
    {change : Value → Other} {changed : Other} (same : result.map change = .ok changed) :
    ∃ value, result = .ok value ∧ change value = changed := by
  cases result with
  | error error => cases same
  | ok value => exact ⟨value, rfl, Except.ok.inj same⟩

/-- A change of the value does not matter for whether there is one. -/
theorem exists_map_ok_iff {Error Value Other : Type} {result : Except Error Value}
    {change : Value → Other} :
    (∃ changed, result.map change = .ok changed) ↔ ∃ value, result = .ok value := by
  constructor
  · rintro ⟨changed, same⟩
    obtain ⟨value, succeeded, _⟩ := exists_of_map_ok same
    exact ⟨value, succeeded⟩
  · rintro ⟨value, rfl⟩
    exact ⟨change value, rfl⟩

end Flourish
