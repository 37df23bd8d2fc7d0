/-
This file resolves colors again that were resolved before. Main statement: a palette whose values
are colors, and whose names are none, gives a resolved value for itself.
-/

import Mathlib.Data.List.TakeWhile
import Flourish.Proofs.Palette

namespace Flourish

/-- A text without white space has none to be trimmed. -/
theorem Text.trim_visible {text : Text} (visible : ∀ letter ∈ text, isBlank letter = false) :
    trim text = text := by
  have kept {letters : Text} (each : ∀ letter ∈ letters, isBlank letter = false) :
      letters.dropWhile isBlank = letters :=
    List.dropWhile_eq_self_iff.mpr fun _ => by simp [each _ (List.getElem_mem _)]
  have reversed : ∀ letter ∈ text.reverse, isBlank letter = false := fun letter member =>
    visible letter (List.mem_reverse.mp member)
  rw [trim, trimStart, kept visible, trimEnd, kept reversed, List.reverse_reverse]

namespace Palette

theorem isHexDigit_of_isUpperDigit {letter : Letter} (upper : IsUpperDigit letter) :
    isHexDigit letter := by
  simp only [isHexDigit, Bool.or_eq_true, Bool.and_eq_true, decide_eq_true_eq]
  rcases upper with ⟨above, below⟩ | ⟨above, below⟩
  · exact Or.inl (Or.inl ⟨above, below⟩)
  · exact Or.inr ⟨above, below⟩

namespace IsColor

variable {color : Text}

theorem digits (isColor : IsColor color) : ∀ letter ∈ color, isHexDigit letter :=
  fun letter member => isHexDigit_of_isUpperDigit (isColor.2 letter member)

theorem isHex (isColor : IsColor color) : isHex color :=
  isHex_iff.mpr ⟨isColor.1, isColor.digits⟩

theorem trimmed (isColor : IsColor color) : Text.trim color = color :=
  Text.trim_visible fun letter member =>
    forall_isHexDigit (fun letter => Text.isBlank letter = false) (by decide)
      (isColor.digits letter member)

/-- A color is written by its own digits. -/
theorem writes (isColor : IsColor color) : Writes color color := by
  refine ⟨color, Or.inl isColor.trimmed, isColor.1, isColor.digits, ?_⟩
  have upper : ∀ letter ∈ color, letter.toUpper = letter := fun letter member =>
    forall_isHexDigit (fun letter => IsUpperDigit letter → letter.toUpper = letter) (by decide)
      (isColor.digits letter member) (isColor.2 letter member)
  rw [List.map_congr_left upper, List.map_id']

end IsColor

/-- All values of the palette are colors, and none of its names is one. -/
structure Stable (palette : Palette) : Prop where
  colors : ∀ entry ∈ palette.overlay ++ palette.builtin, IsColor entry.2
  names : ∀ entry ∈ palette.overlay ++ palette.builtin, ¬ IsColor entry.1

namespace Stable

variable {palette : Palette} {color value : Text}

theorem isColor_of_lookup (stable : palette.Stable) (found : palette.lookup? value = some color) :
    IsColor color := by
  rcases lookup?_eq_some_iff.mp found with extended | ⟨_, first | ⟨_, writes⟩⟩
  · exact stable.colors _ (List.mem_append_left _ (Table.mem_of_find? extended))
  · exact stable.colors _ (List.mem_append_right _ (Table.mem_of_find? first))
  · exact writes.isColor

/-- No name stands in the way of a color, which is therefore resolved to itself. -/
theorem resolved_color (stable : palette.Stable) (isColor : IsColor color) :
    palette.resolved color = color := by
  have unnamed {table : Table Text} (within : table ⊆ palette.overlay ++ palette.builtin) :
      table.find? color = none := by
    rw [Table.find?_eq_none_iff]
    rintro entry member rfl
    exact stable.names entry (within member) isColor
  have found : palette.lookup? color = some color := by
    rw [lookup?_eq_some_iff, isColor.trimmed]
    exact Or.inr ⟨unnamed (List.subset_append_left _ _),
      Or.inr ⟨unnamed (List.subset_append_right _ _), isColor.writes⟩⟩
  rw [resolved, found, Option.getD_some]

/-- A value that is not kept becomes a color. -/
theorem resolved_cases (stable : palette.Stable) (value : Text) :
    palette.resolved value = value ∨ IsColor (palette.resolved value) := by
  rw [resolved]
  cases found : palette.lookup? value with
  | none => exact Or.inl rfl
  | some color => exact Or.inr (stable.isColor_of_lookup found)

/-- Resolving a value again changes nothing. -/
theorem resolved_resolved (stable : palette.Stable) (value : Text) :
    palette.resolved (palette.resolved value) = palette.resolved value := by
  rcases stable.resolved_cases value with kept | isColor
  · rw [kept, kept]
  · exact stable.resolved_color isColor

end Stable

/-- All values of the palette are colors, and none of its names has six hexadecimal digits. -/
structure Settled (palette : Palette) : Prop where
  colors : ∀ entry ∈ palette.overlay ++ palette.builtin, IsColor entry.2
  names : ∀ entry ∈ palette.overlay ++ palette.builtin, isHex entry.1 = false

namespace Settled

variable {palette : Palette}

theorem stable (settled : palette.Settled) : palette.Stable where
  colors := settled.colors
  names entry member isColor := by
    have digits := isColor.isHex
    rw [settled.names entry member] at digits
    cases digits

theorem resolved_resolved (settled : palette.Settled) (value : Text) :
    palette.resolved (palette.resolved value) = palette.resolved value :=
  settled.stable.resolved_resolved value

end Settled

end Palette
end Flourish
