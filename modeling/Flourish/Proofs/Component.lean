/-
This file says what a component becomes whose template puts letters before and after its content.
Main statement: its template is filled with the content between those letters.
-/

import Flourish.Component
import Flourish.Proofs.Palette.References
import Flourish.Proofs.Substitution

namespace Flourish

/-- A component with content whose template is two texts around the content. They hold no tag, no
place of an argument and no parameter. -/
structure ComponentBody.Wraps (body : ComponentBody) (around : Text × Text) : Prop where
  opens : body.selfClosing = false
  templated : body.native = false
  untransformed : body.postProcess = none
  template : body.template = around.1 ++ (Substitution.contentMark ++ around.2)
  before : ∀ letter ∈ around.1, letter ≠ '{' ∧ letter ≠ '$' ∧ letter ≠ '='
  after : ∀ letter ∈ around.2, letter ≠ '{' ∧ letter ≠ '$' ∧ letter ≠ '='

namespace Substitution

/-- Letters without a dollar sign belong to the part in hand. -/
theorem partsFrom_letters {letters : Text} (plain : .of '$' ∉ letters) (pending rest : Text) :
    partsFrom pending (letters ++ rest) = partsFrom (letters.reverse ++ pending) rest := by
  induction letters generalizing pending with
  | nil => rfl
  | cons letter others inductionHypothesis =>
      have notMark : letter ≠ '$' := fun same => plain (same ▸ List.mem_cons_self)
      rw [List.cons_append, partsFrom, contentMark_absent notMark]
      simp only [notMark, if_false, List.isEmpty_nil, if_true, Bool.false_eq_true]
      rw [inductionHypothesis fun later => plain (List.mem_cons_of_mem _ later)]
      simp

theorem partsFrom_content (pending rest : Text) :
    partsFrom pending (contentMark ++ rest) =
      .letters pending.reverse :: .content :: partsFrom [] rest := by
  have starts : contentMark.isPrefixOf (contentMark ++ rest) :=
    List.isPrefixOf_iff_prefix.mpr (List.prefix_append _ _)
  rw [contentMark_letters, List.cons_append] at starts ⊢
  rw [partsFrom, contentMark_letters, if_pos starts]
  rfl

/-- A template with one mark for its content has the parts around the mark. -/
theorem parts_around {before after : Text} (plainBefore : .of '$' ∉ before)
    (plainAfter : .of '$' ∉ after) :
    parts (before ++ (contentMark ++ after)) =
      [.letters before, .content, .letters after] := by
  have last := partsFrom_letters plainAfter [] []
  rw [List.append_nil, List.append_nil, partsFrom] at last
  rw [parts, partsFrom_letters plainBefore, partsFrom_content, last]
  simp

end Substitution

namespace Component

variable {entry : Entry ComponentBody} {around : Text × Text}

theorem fill_wraps (wraps : entry.body.Wraps around) (palette : Palette) :
    fill palette entry [] = .ok [.letters around.1, .content, .letters around.2] := by
  have parts := Substitution.parts_around (fun member => (wraps.before _ member).2.1 rfl)
    (fun member => (wraps.after _ member).2.1 rfl)
  have before := palette.resolvedRefs_of_not_mem fun member => (wraps.before _ member).2.2 rfl
  have after := palette.resolvedRefs_of_not_mem fun member => (wraps.after _ member).2.2 rfl
  rw [fill, wraps.template, parts]
  simp only [List.mapM_cons, List.mapM_nil, fillPart, before, after]
  rfl

/-- A call without arguments of a component that puts letters around its content becomes the content
between them. -/
theorem expandEntry_wraps (wraps : entry.body.Wraps around) (registry : Registry)
    (palette : Palette) (tag : Tag) (bare : tag.arguments = []) (unset : tag.parameters = [])
    (content : Text) :
    ∃ parameters starts, (expandEntry registry palette entry tag content).result =
      .ok (.template (around.1 ++ (content ++ around.2)) none parameters starts) := by
  have called : ∃ parameters starts, call palette entry tag content =
      .ok (.template (around.1 ++ (content ++ around.2)) none parameters starts) := by
    have text : Filled.text content [.letters around.1, .content, .letters around.2] =
        around.1 ++ (content ++ around.2) := by simp [Filled.text]
    simp only [call, unset, mergedParameters, List.find?_nil, wraps.templated, Bool.false_eq_true,
      if_false, substitute_eq, bare, fill_wraps wraps, Except.map, finished, wraps.untransformed,
      text]
    exact ⟨_, _, rfl⟩
  obtain ⟨parameters, starts, called⟩ := called
  refine ⟨parameters, starts, ?_⟩
  simp only [expandEntry, called]

end Component

end Flourish
