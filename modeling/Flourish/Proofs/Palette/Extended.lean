/-
This file says what a palette gives after colors were added to it. Main statement: a key that is
trimmed to the name of an added color gives this color, and every other key gives what it gave.
-/

import Flourish.Proofs.Palette

namespace Flourish
namespace Palette

/-- Every way to read a color gives this color for the key. -/
structure Answers (palette : Palette) (key color : Text) : Prop where
  found : palette.lookup? key = some color
  resolved : palette.resolved key = color
  required : ∀ parameter, palette.require parameter key = .ok color

/-- Every way to read a color gives the same for the key in both palettes. -/
structure AgreesOn (palette other : Palette) (key : Text) : Prop where
  found : palette.lookup? key = other.lookup? key
  resolved : palette.resolved key = other.resolved key
  required : ∀ parameter, palette.require parameter key = other.require parameter key

variable {palette other extended : Palette} {overrides : List (Text × Text)} {key color : Text}

/-- All ways to read a color go through the look-up. -/
theorem answers_of_lookup (found : palette.lookup? key = some color) :
    palette.Answers key color where
  found := found
  resolved := by rw [Palette.resolved, found, Option.getD_some]
  required := fun parameter => by rw [require, found]

theorem agreesOn_of_lookup (same : palette.lookup? key = other.lookup? key) :
    palette.AgreesOn other key where
  found := same
  resolved := by rw [Palette.resolved, Palette.resolved, same]
  required := fun parameter => by rw [require, require, same]

/-- A color of the overlay comes before all others. -/
theorem lookup?_of_overlay (found : palette.overlay.find? (Text.trim key) = some color) :
    palette.lookup? key = some color :=
  lookup?_eq_some_iff.mpr (Or.inl found)

/-- Of a key only the trimmed form counts. -/
theorem lookup?_congr
    (overlay : palette.overlay.find? (Text.trim key) = other.overlay.find? (Text.trim key))
    (builtin : palette.builtin.find? (Text.trim key) = other.builtin.find? (Text.trim key)) :
    palette.lookup? key = other.lookup? key := by
  simp only [lookup?, overlay, builtin]

theorem accepted_of_extend (added : palette.extend overrides = .ok extended) :
    Accepted overrides := by
  by_contra refused
  obtain ⟨_, _, _, _, _, _, _, failed⟩ := extend_refused palette refused
  cases added.symm.trans failed

/-- After colors were added, a key that is trimmed to an added name gives the color that the last
value of the name writes. Every other key gives what it gave before. -/
theorem answers_of_extend (added : palette.extend overrides = .ok extended) :
    (∀ name value, (Table.ofEntries overrides).find? name = some value →
      ∃ color, hexNormalized? value = some color ∧
        ∀ key, Text.trim key = name → extended.Answers key color) ∧
      ∀ key, (∀ entry ∈ overrides, entry.1 ≠ Text.trim key) → extended.AgreesOn palette key := by
  have accepted := accepted_of_extend added
  obtain ⟨_, again, builtin, overlay, _⟩ := extend_accepted palette accepted
  cases added.symm.trans again
  constructor
  · intro name value last
    obtain ⟨earlier, later, rfl, _⟩ := Table.find?_ofEntries_eq_some_iff.mp last
    obtain ⟨color, writes⟩ := accepted (name, value) (List.mem_append_right _ List.mem_cons_self)
    refine ⟨color, hexNormalized?_eq_some_iff.mpr writes, fun key trimmed => ?_⟩
    have lastWrites := lastWrites_iff.mpr ⟨value, last, writes⟩
    apply answers_of_lookup
    apply lookup?_of_overlay
    rw [trimmed]
    exact (overlay name color).mpr (Or.inl lastWrites)
  · intro key absent
    have unwritten (color : Text) : ¬ LastWrites overrides (Text.trim key) color := by
      rintro ⟨earlier, value, later, rfl, _⟩
      exact absent _ (List.mem_append_right _ List.mem_cons_self) rfl
    apply agreesOn_of_lookup
    apply lookup?_congr _ (by rw [builtin])
    ext color
    rw [overlay, or_iff_right (unwritten color), and_iff_right absent]

/-- A palette with one color. -/
def accented : Palette :=
  ofBuiltin [("accent", "F41C80")]

/-- A new color, and one under a name with white space around it. -/
def spacedOverrides : List (Text × Text) :=
  [("brand", "#ff6b35"), (" accent ", "#000000")]

def spacedPalette : Palette :=
  { accented with overlay := [("brand", "FF6B35"), (" accent ", "000000")] }

theorem answers_of_extend_spaced :
    accented.extend spacedOverrides = .ok spacedPalette ∧ spacedPalette.Answers " brand" "FF6B35" ∧
      spacedPalette.AgreesOn accented " accent " := by
  have added : accented.extend spacedOverrides = .ok spacedPalette := by rfl
  obtain ⟨given, kept⟩ := answers_of_extend added
  obtain ⟨color, normalized, gives⟩ := given "brand" "#ff6b35" (by decide)
  have same : color = "FF6B35" := Option.some.inj (normalized.symm.trans (by decide))
  exact ⟨added, same ▸ gives " brand" (by decide), kept " accent " (by decide)⟩

/-- A color that was added under a name with white space around it is not given for this name: the
color of the trimmed name is. -/
theorem not_answers_spaced :
    accented.extend spacedOverrides = .ok spacedPalette ∧
      (Table.ofEntries spacedOverrides).find? " accent " = some ("#000000" : Text) ∧
      hexNormalized? "#000000" = some ("000000" : Text) ∧
      spacedPalette.Answers " accent " "F41C80" ∧ ¬ spacedPalette.Answers " accent " "000000" := by
  have found : spacedPalette.lookup? " accent " = some ("F41C80" : Text) := by decide
  refine ⟨rfl, by decide, by decide, answers_of_lookup found, fun gives => ?_⟩
  cases found.symm.trans gives.found

end Palette
end Flourish
