/-
This file says which texts can be written. Main statement: a text has octets exactly if none of its
letters is a half.
-/

import Flourish.Proofs.Failure.Ends
import Flourish.Text.Percent

namespace Flourish

namespace Text

variable {text first second : Text} {octets : Octets}

/-- All letters of the text are characters. -/
def Whole (text : Text) : Prop :=
  ∀ letter ∈ text, letter.isHalf = false

instance (text : Text) : Decidable text.Whole :=
  inferInstanceAs (Decidable (∀ letter ∈ text, letter.isHalf = false))

@[simp]
theorem whole_nil : Whole [] :=
  List.forall_mem_nil _

@[simp]
theorem whole_cons {letter : Letter} :
    Whole (letter :: text) ↔ letter.isHalf = false ∧ text.Whole :=
  List.forall_mem_cons

@[simp]
theorem whole_append : Whole (first ++ second) ↔ first.Whole ∧ second.Whole :=
  List.forall_mem_append

@[simp]
theorem whole_map_of (chars : List Char) : Whole (chars.map .of) := by
  intro letter member
  obtain ⟨char, _, rfl⟩ := List.mem_map.mp member
  rfl

@[simp]
theorem whole_ofNat (value : Nat) : (ofNat value).Whole :=
  whole_map_of _

theorem whole_flatMap {letters : Letter → Text} :
    Whole (text.flatMap letters) ↔ ∀ letter ∈ text, (letters letter).Whole := by
  simp only [Whole, List.mem_flatMap]
  exact ⟨fun each letter member part among => each part ⟨letter, member, among⟩,
    fun each part ⟨letter, member, among⟩ => each letter member part among⟩

@[simp]
theorem whole_wording_nil : Whole (wording []) :=
  whole_nil

@[simp]
theorem whole_wording_cons {part : Text} {parts : List Text} :
    Whole (wording (part :: parts)) ↔ part.Whole ∧ Whole (wording parts) :=
  whole_append

theorem encodingFaultFrom_eq_none_iff {position : Nat} :
    encodingFaultFrom position text = none ↔ text.Whole := by
  induction text generalizing position with
  | nil => simp [encodingFaultFrom]
  | cons letter rest inductionHypothesis =>
      cases half : letter.isHalf with
      | true => simp [encodingFaultFrom, half]
      | false => simp [encodingFaultFrom, half, inductionHypothesis]

theorem encoded_eq_ok_iff : encoded text = .ok octets ↔ text.Whole ∧ toUtf8 text = octets := by
  unfold encoded
  cases fault : encodingFaultFrom 0 text with
  | none => simp [encodingFaultFrom_eq_none_iff.mp fault]
  | some fault =>
      have broken : ¬ text.Whole := fun whole => by
        rw [encodingFaultFrom_eq_none_iff.mpr whole] at fault
        cases fault
      simp [broken]

/-- A text has octets exactly if it is whole. -/
theorem exists_encoded_iff : (∃ octets, encoded text = .ok octets) ↔ text.Whole := by
  simp [encoded_eq_ok_iff]

theorem exists_percentEncoded_iff :
    (∃ escaped, percentEncoded text = .ok escaped) ↔ text.Whole := by
  rw [← exists_encoded_iff]
  exact exists_map_ok_iff

end Text
end Flourish
