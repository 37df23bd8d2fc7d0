/-
This file says what colors a palette gives. Main statements: a value is read as a color exactly if
it writes one, a palette is extended exactly if all new values write colors, and then the last value
of each name counts.
-/

import Mathlib.Data.List.Forall2
import Flourish.Palette
import Flourish.Proofs.Table
import Flourish.Proofs.Text.Letter
import Flourish.Text.Uppercase

namespace Flourish

namespace Palette

def IsUpperDigit (letter : Letter) : Prop :=
  ('0' ≤ letter ∧ letter ≤ '9') ∨ ('A' ≤ letter ∧ letter ≤ 'F')

instance : DecidablePred IsUpperDigit :=
  fun _ => inferInstanceAs (Decidable (_ ∨ _))

/-- Six hexadecimal digits in upper case without a number sign. -/
def IsColor (color : Text) : Prop :=
  color.length = 6 ∧ ∀ letter ∈ color, IsUpperDigit letter

-- Only the letters of the text are tried, not all letters there are.
instance (color : Text) : Decidable (IsColor color) :=
  decidable_of_iff (color.length = 6 ∧ color.all fun letter => decide (IsUpperDigit letter))
    (by simp [IsColor])

/-- The value writes this color: it has the six digits in either case, perhaps after a number sign
and with white space around. -/
def Writes (value color : Text) : Prop :=
  ∃ digits : Text, (Text.trim value = digits ∨ Text.trim value = .of '#' :: digits) ∧
    digits.length = 6 ∧ (∀ letter ∈ digits, isHexDigit letter) ∧
    color = digits.map Letter.toUpper

variable {value color name : Text}

theorem isHex_iff {text : Text} :
    isHex text ↔ text.length = 6 ∧ ∀ letter ∈ text, isHexDigit letter := by
  simp [isHex]

theorem hexNormalized?_signed {digits : Text} (trimmed : Text.trim value = .of '#' :: digits) :
    hexNormalized? value = if isHex digits then some (digits.map Letter.toUpper) else none := by
  simp only [hexNormalized?, trimmed]

theorem hexNormalized?_plain (plain : ∀ rest, Text.trim value ≠ .of '#' :: rest) :
    hexNormalized? value =
      if isHex (Text.trim value) then some ((Text.trim value).map Letter.toUpper) else none := by
  unfold hexNormalized?
  split
  · next rest same => exact absurd same (plain rest)
  · rfl

/-- A value is read as the color that it writes. -/
theorem hexNormalized?_eq_some_iff : hexNormalized? value = some color ↔ Writes value color := by
  have read (digits : Text) :
      (if isHex digits then some (digits.map Letter.toUpper) else none) = some color ↔
        digits.length = 6 ∧ (∀ letter ∈ digits, isHexDigit letter) ∧
          color = digits.map Letter.toUpper := by
    rw [Option.ite_none_right_eq_some, isHex_iff, and_assoc, Option.some.injEq,
      eq_comm (a := color)]
  by_cases signed : ∃ rest, Text.trim value = .of '#' :: rest
  · obtain ⟨digits, trimmed⟩ := signed
    rw [hexNormalized?_signed trimmed, read]
    refine ⟨fun written => ⟨digits, Or.inr trimmed, written⟩, ?_⟩
    rintro ⟨found, same | same, written⟩
    · -- The whole value would be digits, but a number sign is none.
      have sign : .of '#' ∈ found := by
        rw [← same, trimmed]
        exact List.mem_cons_self
      exact absurd (written.2.1 '#' sign) (by decide)
    · cases trimmed.symm.trans same
      exact written
  · have plain : ∀ rest, Text.trim value ≠ .of '#' :: rest := fun rest same => signed ⟨rest, same⟩
    rw [hexNormalized?_plain plain, read]
    refine ⟨fun written => ⟨_, Or.inl rfl, written⟩, ?_⟩
    rintro ⟨found, same | same, written⟩
    · rw [same]
      exact written
    · exact absurd same (plain found)

/-- A property of hexadecimal digits holds if it holds of those among the first letters. -/
theorem forall_isHexDigit (good : Letter → Prop)
    (each : ∀ code < 103, isHexDigit (Letter.ofNat code) → good (Letter.ofNat code)) {letter : Letter}
    (digit : isHexDigit letter) : good letter := by
  have least : letter ≤ 'f' := by
    simp only [isHexDigit, Bool.or_eq_true, Bool.and_eq_true, decide_eq_true_eq] at digit
    rcases digit with (⟨_, below⟩ | ⟨_, below⟩) | ⟨_, below⟩
    · exact Letter.le_trans below (by decide)
    · exact below
    · exact Letter.le_trans below (by decide)
  have small : letter.toNat < 103 :=
    Nat.lt_succ_of_le (Letter.le_def.mp least)
  have found := each letter.toNat small
  rw [Letter.ofNat_toNat] at found
  exact found digit

theorem toUpper_of_isHexDigit {letter : Letter} (digit : isHexDigit letter) :
    IsUpperDigit letter.toUpper :=
  forall_isHexDigit (fun letter => IsUpperDigit letter.toUpper) (by decide) digit

/-- Hexadecimal digits are changed to upper case one by one. -/
theorem uppercase_digits {digits : Text} (each : ∀ letter ∈ digits, isHexDigit letter) :
    Text.uppercase digits = digits.map Letter.toUpper := by
  have single {letter : Letter} (digit : isHexDigit letter) :
      Text.uppercaseLetter letter = [letter.toUpper] :=
    forall_isHexDigit (fun letter => Text.uppercaseLetter letter = [letter.toUpper])
      (by decide +kernel) digit
  rw [Text.uppercase, List.flatMap_congr fun letter member => single (each letter member)]
  exact List.map_eq_flatMap.symm

/-- Six hexadecimal digits in upper case are a color. -/
theorem isColor_toUpper {digits : Text} (length : digits.length = 6)
    (each : ∀ letter ∈ digits, isHexDigit letter) : IsColor (digits.map Letter.toUpper) := by
  refine ⟨by rw [List.length_map, length], fun letter member => ?_⟩
  obtain ⟨digit, among, rfl⟩ := List.mem_map.mp member
  exact toUpper_of_isHexDigit (each digit among)

/-- A value writes one color at most. -/
theorem Writes.unique {other : Text} (writes : Writes value color) (others : Writes value other) :
    color = other :=
  Option.some.inj
    ((hexNormalized?_eq_some_iff.mpr writes).symm.trans (hexNormalized?_eq_some_iff.mpr others))

/-- What a value writes is a color. -/
theorem Writes.isColor (writes : Writes value color) : IsColor color := by
  obtain ⟨digits, _, length, each, rfl⟩ := writes
  exact isColor_toUpper length each

/-- The overlay comes before the built-in colors, and these before values that write colors. -/
theorem lookup?_eq_some_iff {palette : Palette} : palette.lookup? name = some color ↔
    palette.overlay.find? (Text.trim name) = some color ∨
      (palette.overlay.find? (Text.trim name) = none ∧
        (palette.builtin.find? (Text.trim name) = some color ∨
          (palette.builtin.find? (Text.trim name) = none ∧ Writes (Text.trim name) color))) := by
  simp only [lookup?, ← hexNormalized?_eq_some_iff]
  split
  · next found => simp only [found, reduceCtorEq, false_and, or_false]
  · next missing =>
      simp only [missing, reduceCtorEq, true_and, false_or]
      split
      · next found => simp only [found, reduceCtorEq, false_and, or_false]
      · next absent => simp only [absent, reduceCtorEq, true_and, false_or]

/-- Every value of the entries writes a color. -/
def Accepted (overrides : List (Text × Text)) : Prop :=
  ∀ entry ∈ overrides, ∃ color, Writes entry.2 color

/-- The last entry of a name has a value that writes this color. -/
def LastWrites (overrides : List (Text × Text)) (name color : Text) : Prop :=
  ∃ earlier value later, overrides = earlier ++ (name, value) :: later ∧
    (∀ entry ∈ later, entry.1 ≠ name) ∧ Writes value color

variable {palette : Palette} {overrides : List (Text × Text)}

/-- Entries that all write colors are normalized one by one. -/
theorem normalizedEntries_accepted (accepted : Accepted overrides) :
    ∃ entries, normalizedEntries overrides = .ok entries ∧
      List.Forall₂ (fun entry color => color.1 = entry.1 ∧ Writes entry.2 color.2) overrides
        entries := by
  induction overrides with
  | nil => exact ⟨[], rfl, .nil⟩
  | cons entry rest inductionHypothesis =>
      obtain ⟨color, writes⟩ := accepted entry List.mem_cons_self
      obtain ⟨entries, normalized, found⟩ := inductionHypothesis fun other member =>
        accepted other (List.mem_cons_of_mem _ member)
      refine ⟨(entry.1, color) :: entries, ?_, .cons ⟨rfl, writes⟩ found⟩
      rw [normalizedEntries, hexNormalized?_eq_some_iff.mpr writes, normalized]
      rfl

/-- The first entry that writes no color is the one that is reported. -/
theorem normalizedEntries_refused {earlier later : List (Text × Text)} (accepted : Accepted earlier)
    (bad : ∀ color, ¬ Writes value color) :
    normalizedEntries (earlier ++ (name, value) :: later) =
      .error (Cause.invalidParameter name value .notHex).unplaced := by
  induction earlier with
  | nil =>
      have unread : hexNormalized? value = none := by
        rw [Option.eq_none_iff_forall_ne_some]
        exact fun color read => bad color (hexNormalized?_eq_some_iff.mp read)
      rw [List.nil_append, normalizedEntries, unread]
  | cons entry rest inductionHypothesis =>
      obtain ⟨color, writes⟩ := accepted entry List.mem_cons_self
      rw [List.cons_append, normalizedEntries, hexNormalized?_eq_some_iff.mpr writes,
        inductionHypothesis fun other member => accepted other (List.mem_cons_of_mem _ member)]
      rfl

/-- Entries of which some write no color have a first one that does not. -/
theorem exists_first_of_not_accepted (refused : ¬ Accepted overrides) :
    ∃ earlier name value later, overrides = earlier ++ (name, value) :: later ∧
      Accepted earlier ∧ ∀ color, ¬ Writes value color := by
  induction overrides with
  | nil => exact absurd (fun entry member => nomatch member) refused
  | cons entry rest inductionHypothesis =>
      by_cases writes : ∃ color, Writes entry.2 color
      · have others : ¬ Accepted rest := fun accepted =>
          refused (List.forall_mem_cons.mpr ⟨writes, accepted⟩)
        obtain ⟨earlier, name, value, later, rfl, accepted, bad⟩ := inductionHypothesis others
        exact ⟨entry :: earlier, name, value, later, rfl,
          List.forall_mem_cons.mpr ⟨writes, accepted⟩, bad⟩
      · have none : Accepted [] := fun other member => nomatch member
        exact ⟨[], entry.1, entry.2, rest, rfl, none, fun color written => writes ⟨color, written⟩⟩

theorem lastWrites_iff : LastWrites overrides name color ↔
    ∃ value, (Table.ofEntries overrides).find? name = some value ∧ Writes value color := by
  constructor
  · rintro ⟨earlier, value, later, split, absent, writes⟩
    exact ⟨value, Table.find?_ofEntries_eq_some_iff.mpr ⟨earlier, later, split, absent⟩, writes⟩
  · rintro ⟨value, found, writes⟩
    obtain ⟨earlier, later, split, absent⟩ := Table.find?_ofEntries_eq_some_iff.mp found
    exact ⟨earlier, value, later, split, absent, writes⟩

/-- Entries that are normalized one by one have the same names. -/
theorem find?_normalized {entries : List (Text × Text)} (name : Text)
    (normalized : List.Forall₂ (fun entry color => color.1 = entry.1 ∧ Writes entry.2 color.2)
      overrides entries) :
    (Table.find? overrides name = none ∧ Table.find? entries name = none) ∨
      ∃ value color, Table.find? overrides name = some value ∧
        Table.find? entries name = some color ∧ Writes value color := by
  induction normalized with
  | nil => exact Or.inl ⟨rfl, rfl⟩
  | @cons entry color rest others writes _ inductionHypothesis =>
      rw [Table.find?_cons, Table.find?_cons, writes.1]
      split
      · exact Or.inr ⟨_, _, rfl, rfl, writes.2⟩
      · exact inductionHypothesis

/-- A palette is extended with entries that all write colors. The last entry of each name counts,
and other names keep their colors. -/
theorem extend_accepted (palette : Palette) (accepted : Accepted overrides) :
    ∃ extended, palette.extend overrides = .ok extended ∧ extended.builtin = palette.builtin ∧
      (∀ name color, extended.overlay.find? name = some color ↔ LastWrites overrides name color ∨
        ((∀ entry ∈ overrides, entry.1 ≠ name) ∧ palette.overlay.find? name = some color)) ∧
      ∀ entry ∈ extended.overlay, IsColor entry.2 ∨ entry ∈ palette.overlay := by
  obtain ⟨entries, same, normalized⟩ := normalizedEntries_accepted accepted
  refine ⟨{ palette with overlay := palette.overlay.insertAll entries }, ?_, rfl, ?_, ?_⟩
  · rw [extend, same]
    rfl
  · intro name color
    have absent : (∀ entry ∈ overrides, entry.1 ≠ name) ↔
        Table.find? overrides.reverse name = none := by
      simp only [Table.find?_eq_none_iff, List.mem_reverse]
    rw [Table.find?_insertAll, lastWrites_iff, absent, Table.find?_ofEntries]
    rcases find?_normalized name (List.forall₂_reverse_iff.mpr normalized) with
      ⟨neither, same⟩ | ⟨value, last, found, same, writes⟩
    · simp only [neither, same, Option.none_or, reduceCtorEq, false_and, exists_false, true_and,
        false_or]
    · simp only [found, same, Option.some_or, Option.some.injEq, reduceCtorEq, false_and, or_false,
        exists_eq_left']
      exact ⟨fun same => same ▸ writes, writes.unique⟩
  · intro entry member
    have colors : ∀ color ∈ entries, IsColor color.2 :=
      ((List.forall₂_and_left entries overrides).mp
        (List.Forall₂.flip (normalized.imp fun _ _ writes => ⟨writes.2.isColor, trivial⟩))).1
    exact (Table.mem_insertAll member).imp_left (colors entry)

/-- A palette is not extended with entries of which some write no color. The first of these is
reported. -/
theorem extend_refused (palette : Palette) (refused : ¬ Accepted overrides) :
    ∃ earlier name value later, overrides = earlier ++ (name, value) :: later ∧
      Accepted earlier ∧ (∀ color, ¬ Writes value color) ∧
      palette.extend overrides =
        .error (Cause.invalidParameter name value .notHex).unplaced := by
  obtain ⟨earlier, name, value, later, rfl, accepted, bad⟩ := exists_first_of_not_accepted refused
  refine ⟨earlier, name, value, later, rfl, accepted, bad, ?_⟩
  rw [extend, normalizedEntries_refused accepted bad]
  rfl

end Palette
end Flourish
