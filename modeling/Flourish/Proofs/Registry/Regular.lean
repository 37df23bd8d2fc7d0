/-
This file says which definitions of a registry never break a run. Main statements: with glyphs that
are texts every text is converted, and the registry that comes with the library breaks no run.
-/

import Flourish.Conversion
import Flourish.Proofs.Table
import Flourish.Registry.Standard
import Flourish.Substitution
import Flourish.Text.Numeral

namespace Flourish

/-- All glyphs of the style are texts. -/
def StyleBody.Textual (style : StyleBody) : Prop :=
  ∀ table ∈ [style.upper, style.lower, style.digits, style.extra], ∀ entry ∈ table,
    ∃ written, entry.2 = .text written

/-- A numbered place has a number that can be read and is not zero. -/
def TemplatePart.Counts : TemplatePart → Prop
  | .argument digits => digits.length ≤ Text.maximumDigits ∧ Text.decimalValue digits ≠ 0
  | _ => True

instance : DecidablePred TemplatePart.Counts
  | .letters _ => inferInstanceAs (Decidable True)
  | .content => inferInstanceAs (Decidable True)
  | .argument _ => inferInstanceAs (Decidable (_ ∧ _))

/-- The numbered places of the template count from one and have numbers that can be read. -/
def ComponentBody.Numbered (component : ComponentBody) : Prop :=
  ∀ part ∈ Substitution.parts component.template, part.Counts

/-- A component that is drawn from its first argument declares one. -/
def Entry.Supplied (entry : Entry ComponentBody) : Prop :=
  entry.body.native → entry.id = "swatch" ∨ entry.id = "tech" ∨ entry.id = "status" →
    entry.body.arguments ≠ []

/-- The definitions that are used as they are hold nothing that breaks a run. -/
structure Registry.Regular (registry : Registry) : Prop where
  textual : ∀ entry ∈ registry.styles, entry.body.Textual
  numbered : ∀ entry ∈ registry.components, entry.body.Numbered
  supplied : ∀ entry ∈ registry.components, entry.Supplied

namespace StyleBody

variable {style : StyleBody} {table : Table Document} {letter : Letter} {glyph : Document}

theorem given?_eq_some (given : given? table letter = some glyph) : ([letter], glyph) ∈ table :=
  Table.mem_of_find? (Option.eq_some_of_filter_eq_some given)

theorem tableFor_mem (style : StyleBody) (letter : Letter) :
    style.tableFor letter ∈ [style.upper, style.lower, style.digits, style.extra] := by
  simp only [tableFor]
  split
  · simp
  · split
    · simp
    · split <;> simp

theorem exists_text_of_glyph? (textual : style.Textual) (found : style.glyph? letter = some glyph) :
    ∃ written, glyph = .text written := by
  simp only [glyph?] at found
  split at found
  · next own =>
      cases found
      exact textual _ (style.tableFor_mem letter) _ (given?_eq_some own)
  · exact textual style.extra (by simp) _ (given?_eq_some found)

theorem exists_glyph (textual : style.Textual) (letter : Letter) :
    ∃ written, style.glyph letter = .ok written := by
  cases found : style.glyph? letter with
  | none => exact ⟨[letter], by rw [StyleBody.glyph, found]⟩
  | some glyph =>
      obtain ⟨written, rfl⟩ := exists_text_of_glyph? textual found
      exact ⟨written, by rw [StyleBody.glyph, found]⟩

theorem exists_glyphs (textual : style.Textual) (text : Text) :
    ∃ glyphs, style.glyphs text = .ok glyphs := by
  induction text with
  | nil => exact ⟨[], rfl⟩
  | cons letter rest inductionHypothesis =>
      obtain ⟨written, first⟩ := exists_glyph textual letter
      obtain ⟨others, converted⟩ := inductionHypothesis
      rw [glyphs] at converted
      exact ⟨written :: others, by rw [glyphs, List.mapM_cons, first, converted]; rfl⟩

/-- With glyphs that are texts every text is converted, whatever is put between glyphs. -/
theorem exists_spread (textual : style.Textual) (text : Text) (between : Spread) :
    ∃ written, Conversion.spread style text between = .ok written := by
  obtain ⟨glyphs, found⟩ := exists_glyphs textual text
  have converts : ∃ written, Conversion.convert style text = .ok written :=
    ⟨glyphs.flatten, by rw [Conversion.convert, found]; rfl⟩
  have separates (separator : Text) (count : Int) :
      ∃ written, Conversion.separated style text separator count = .ok written := by
    unfold Conversion.separated
    split
    · exact converts
    · exact ⟨_, by rw [found]; rfl⟩
  cases between with
  | plain => exact converts
  | spaced count =>
      simp only [Conversion.spread, Conversion.spaced]
      split
      · exact converts
      · exact separates _ _
  | separated separator => exact separates _ _

end StyleBody

namespace Registry

theorem Standard.glyphs_textual {keys values : Text} {entry : Text × Document}
    (member : entry ∈ glyphs keys values) : ∃ written, entry.2 = .text written := by
  obtain ⟨index, _, rfl⟩ := List.mem_iff_getElem.mp member
  exact ⟨_, by simp only [glyphs, List.getElem_zipWith]; rfl⟩

theorem Standard.letterStyle_textual (id : Text) (aliases : List Text)
    (category description upper lower digits : Text) :
    (letterStyle id aliases category description upper lower digits).body.Textual := by
  intro table among entry member
  simp only [letterStyle, List.mem_cons, List.not_mem_nil, or_false] at among
  rcases among with rfl | rfl | rfl | rfl
  · exact glyphs_textual member
  · exact glyphs_textual member
  · exact glyphs_textual member
  · cases member

variable {Body : Type} {table : List (Entry Body)} {name : Text} {context : Context}
  {entry : Entry Body}

theorem mem_of_find? (found : Entry.find? table name = some entry) : entry ∈ table := by
  obtain ⟨id, _, kept⟩ := Option.bind_eq_some_iff.mp found
  exact List.mem_of_find?_eq_some kept

theorem find?_of_resolveIn (found : resolveIn table name context = .ok (some entry)) :
    Entry.find? table name = some entry := by
  simp only [resolveIn] at found
  split at found
  · cases found
  · next known =>
      split at found <;> cases found
      exact known

theorem mem_of_resolveIn (found : resolveIn table name context = .ok (some entry)) :
    entry ∈ table :=
  mem_of_find? (find?_of_resolveIn found)

theorem find?_of_require {subject : Subject}
    (found : require subject table name context = .ok entry) :
    Entry.find? table name = some entry := by
  simp only [require] at found
  split at found
  · cases found
  · next known =>
      cases found
      exact find?_of_resolveIn known
  · cases found

theorem mem_of_require {subject : Subject}
    (found : require subject table name context = .ok entry) : entry ∈ table :=
  mem_of_find? (find?_of_require found)

/-- The registry that comes with the library is regular. -/
theorem standard_regular (partials : Table Text) : (standard partials).Regular where
  textual := by
    show ∀ entry ∈ Standard.styles, entry.body.Textual
    unfold Standard.styles
    simp only [List.forall_mem_cons, Standard.letterStyle_textual, List.not_mem_nil,
      false_implies, implies_true, and_self]
  numbered := by
    show ∀ entry ∈ Standard.components, ∀ part ∈ Substitution.parts entry.body.template,
      part.Counts
    with_unfolding_all decide
  supplied := by
    show ∀ entry ∈ Standard.components, entry.body.native →
      entry.id = "swatch" ∨ entry.id = "tech" ∨ entry.id = "status" → entry.body.arguments ≠ []
    decide

end Registry
end Flourish
