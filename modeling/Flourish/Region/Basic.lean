/-
This file looks at a text in place, up to a limit from which on nothing is seen.
-/

import Flourish.Text.Basic

namespace Flourish

/-- A text of which nothing from `limit` on is seen. -/
structure Region where
  text : Text
  limit : Nat
  deriving DecidableEq, Repr

namespace Region

/-- A text of which all is seen. -/
def whole (text : Text) : Region :=
  ⟨text, text.length⟩

/-- The letter at a position. -/
def letter? (region : Region) (position : Nat) : Option Letter :=
  if position < region.limit then region.text[position]? else none

/-- Whether a word stands at a position and ends before the limit. -/
def holds (region : Region) (word : Text) (position : Nat) : Bool :=
  position + word.length ≤ region.limit && word.isPrefixOf (region.text.drop position)

theorem lt_limit_of_letter {region : Region} {position : Nat} {letter : Letter}
    (found : region.letter? position = some letter) : position < region.limit := by
  unfold letter? at found
  split at found
  · assumption
  · cases found

/-- The end of the run of letters from a position on that pass a test. -/
def runStop (region : Region) (test : Letter → Bool) (position : Nat) : Nat :=
  if passes : (region.letter? position).any test then runStop region test (position + 1)
  else position
termination_by region.limit - position
decreasing_by
  obtain ⟨letter, found, _⟩ := (Option.any_eq_true _ _).mp passes
  have inside := lt_limit_of_letter found
  omega

theorem le_runStop (region : Region) (test : Letter → Bool) (position : Nat) :
    position ≤ region.runStop test position := by
  fun_induction runStop region test position with
  | case1 position passes inductionHypothesis => exact Nat.le_of_succ_le inductionHypothesis
  | case2 position ended => exact Nat.le_refl _

/-- The first place from a position on at which a word stands. -/
def find? (region : Region) (word : Text) (position : Nat) : Option Nat :=
  if position + word.length ≤ region.limit then
    if region.holds word position then some position else find? region word (position + 1)
  else none
termination_by region.limit + 1 - position

theorem find?_bounds {region : Region} {word : Text} {position found : Nat}
    (same : region.find? word position = some found) :
    position ≤ found ∧ found + word.length ≤ region.limit := by
  fun_induction find? region word position with
  | case1 position fits here =>
      cases same
      exact ⟨Nat.le_refl _, fits⟩
  | case2 position fits elsewhere inductionHypothesis =>
      obtain ⟨behind, ends⟩ := inductionHypothesis same
      exact ⟨Nat.le_of_succ_le behind, ends⟩
  | case3 => cases same

/-- A word stands nowhere before the first place at which it is found. -/
theorem not_holds_of_find? {region : Region} {word : Text} {position place : Nat}
    (behind : position ≤ place)
    (ahead : ∀ found, region.find? word position = some found → place < found) :
    ¬ region.holds word place := by
  intro here
  fun_induction find? region word position with
  | case1 position fits found => exact absurd (ahead position rfl) (Nat.not_lt.mpr behind)
  | case2 position fits elsewhere inductionHypothesis =>
      rcases Nat.eq_or_lt_of_le behind with rfl | later
      · exact elsewhere here
      · exact inductionHypothesis later ahead
  | case3 position short =>
      have fits := of_decide_eq_true (Bool.and_eq_true_iff.mp here).1
      omega

end Region
end Flourish
