/-
This file holds the laws of letters. Main statement: a letter is known by its code.
-/

import Mathlib.Order.Defs.LinearOrder
import Flourish.Text.Letter

namespace Flourish.Letter

variable {first second third letter : Letter}

theorem le_def : first ≤ second ↔ first.toNat ≤ second.toNat :=
  Iff.rfl

theorem le_trans (before : first ≤ second) (after : second ≤ third) : first ≤ third :=
  Nat.le_trans before after

theorem ofNat_toNat (letter : Letter) : ofNat letter.toNat = letter := by
  cases letter with
  | of char =>
      have valid := char.valid
      have outside : ¬ (firstHalf ≤ char.toNat ∧ char.toNat < firstHalf + 2048) := by
        rcases valid with below | ⟨above, _⟩
        · exact fun half => absurd half.1 (Nat.not_le.mpr below)
        · exact fun half => absurd half.2 (Nat.not_lt.mpr above)
      rw [toNat_of, ofNat, dif_neg outside, Char.ofNat_toNat]
  | half index =>
      have inside : firstHalf ≤ firstHalf + index.val ∧
          firstHalf + index.val < firstHalf + 2048 :=
        ⟨Nat.le_add_right .., Nat.add_lt_add_left index.isLt _⟩
      simp only [toNat, ofNat, dif_pos inside, Nat.add_sub_cancel_left]

theorem isDigit_iff_toNat : letter.isDigit ↔ 48 ≤ letter.toNat ∧ letter.toNat ≤ 57 := by
  cases letter with
  | of char => exact Char.isDigit_iff_toNat
  | half index => simp [isDigit, holds, toNat, firstHalf]; omega

end Flourish.Letter
