/-
This file says what a text becomes through the glyphs of a style. Main statement: whatever is put
between the glyphs, the text becomes the glyphs joined by it; to put nothing between them is no
case of its own.
-/

import Flourish.Conversion

namespace Flourish

/-- Pieces that are joined by nothing stand one after another. -/
theorem Text.join_empty (pieces : List Text) : join [] pieces = pieces.flatten := by
  induction pieces with
  | nil => rfl
  | cons piece rest inductionHypothesis =>
      cases rest with
      | nil => rfl
      | cons next others =>
          rw [join] at inductionHypothesis ⊢
          simp only [List.intersperse_cons_cons, List.flatten_cons, List.nil_append,
            inductionHypothesis]

namespace Conversion

theorem repeated_empty (count : Nat) : repeated count [] = [] := by
  simp [repeated]

theorem repeated_letter (count : Nat) (letter : Letter) :
    repeated count [letter] = List.replicate count letter := by
  simp [repeated]

theorem repeated_one (text : Text) : repeated 1 text = text := by
  simp [repeated]

variable (style : StyleBody) (text : Text)

theorem convert_eq : convert style text = (style.glyphs text).map (Text.join []) := by
  rw [convert]
  congr 1
  funext glyphs
  exact (Text.join_empty glyphs).symm

/-- Copies of a separator are put between glyphs, also if there are none or they are empty. -/
theorem separated_eq (separator : Text) (count : Int) : separated style text separator count =
    (style.glyphs text).map (Text.join (repeated count.toNat separator)) := by
  unfold separated
  split
  · next nothing =>
      have empty : repeated count.toNat separator = [] := by
        simp only [Bool.or_eq_true, decide_eq_true_eq, List.isEmpty_iff] at nothing
        rcases nothing with few | rfl
        · rw [Int.toNat_of_nonpos few]
          rfl
        · exact repeated_empty _
      rw [empty, convert_eq]
  · rfl

/-- Spaces are put between glyphs, also if there are none. -/
theorem spaced_eq (count : Int) : spaced style text count =
    (style.glyphs text).map (Text.join (List.replicate count.toNat (.of ' '))) := by
  unfold spaced
  split
  · next few => rw [convert_eq, Int.toNat_of_nonpos few, List.replicate_zero]
  · rw [separated_eq, repeated_letter]

end Conversion
end Flourish
