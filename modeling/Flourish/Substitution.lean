/-
This file puts arguments and content into templates.
-/

import Flourish.Failure
import Flourish.Text.Digit

namespace Flourish

/-- A part of a template: its own letters, the place of the content, or the place of a numbered
argument. -/
inductive TemplatePart where
  | letters (text : Text)
  | content
  | argument (digits : Text)
  deriving DecidableEq, Repr

/-- A part of a substituted template: letters that do not depend on the content, or the content. -/
inductive Filled where
  | letters (text : Text)
  | content
  deriving DecidableEq, Repr

namespace Filled

/-- The text of parts, given the content. -/
def text (content : Text) (parts : List Filled) : Text :=
  parts.flatMap fun part =>
    match part with
    | .letters own => own
    | .content => content

/-- The offsets at which copies of the content begin, after `position` letters. -/
def starts (contentSize position : Nat) : List Filled → List Nat
  | [] => []
  | .letters own :: rest => starts contentSize (position + own.length) rest
  | .content :: rest => position :: starts contentSize (position + contentSize) rest

end Filled

/-- A text as far as it is written, and the places in it at which the content was put. -/
structure Draft where
  text : Text
  starts : List Nat
  deriving DecidableEq, Repr

namespace Draft

/-- A draft with one more part. -/
def put (content : Text) (draft : Draft) : Filled → Draft
  | .letters own => ⟨draft.text ++ own, draft.starts⟩
  | .content => ⟨draft.text ++ content, draft.starts ++ [draft.text.length]⟩

/-- Parts that are put one after the other make their text, with the places of the content in it. -/
theorem foldl_put (content : Text) (draft : Draft) (filled : List Filled) :
    filled.foldl (put content) draft =
      ⟨draft.text ++ Filled.text content filled,
        draft.starts ++ Filled.starts content.length draft.text.length filled⟩ := by
  induction filled generalizing draft with
  | nil => simp [Filled.text, Filled.starts]
  | cons part rest inductionHypothesis =>
      rw [List.foldl_cons, inductionHypothesis]
      cases part <;> simp [put, Filled.text, Filled.starts]

end Draft

namespace Substitution

def contentMark : Text :=
  "$content"

theorem contentMark_letters :
    contentMark = [.of '$', .of 'c', .of 'o', .of 'n', .of 't', .of 'e', .of 'n', .of 't'] :=
  rfl

/-- The parts of a component's template, after letters that were read but belong to no part yet,
newest first. -/
def partsFrom (pending : Text) : Text → List TemplatePart
  | [] => [.letters pending.reverse]
  | letter :: rest =>
      if contentMark.isPrefixOf (letter :: rest) then
        .letters pending.reverse :: .content :: partsFrom [] (rest.drop 7)
      else
        let digits := if letter = '$' then rest.takeWhile Text.isDecimal else []
        if digits.isEmpty then partsFrom (letter :: pending) rest
        else
          .letters pending.reverse :: .argument digits :: partsFrom [] (rest.drop digits.length)
termination_by text => text.length
decreasing_by all_goals (simp only [List.length_drop, List.length_cons]; omega)

/-- The parts of a component's template: `$content`, and `$` with decimal digits of any script. -/
def parts (template : Text) : List TemplatePart :=
  partsFrom [] template

/-- The mark `$1` counts only if no digit follows it. -/
def isFirstMark : Text → Bool
  | '$' :: '1' :: [] => true
  | '$' :: '1' :: letter :: _ => !Text.isDigit letter
  | _ => false

/-- The parts of a project's template, in which `$content` and `$1` both stand for the content. -/
def partialParts : Text → List Filled
  | [] => []
  | letter :: rest =>
      if contentMark.isPrefixOf (letter :: rest) then .content :: partialParts (rest.drop 7)
      else if isFirstMark (letter :: rest) then .content :: partialParts (rest.drop 1)
      else .letters [letter] :: partialParts rest
termination_by text => text.length
decreasing_by all_goals (simp only [List.length_drop, List.length_cons]; omega)

/-- This function goes from one dollar sign to the next and keeps count of the letters that are
written. -/
def fillPartialFrom (content : Text) (draft : Draft) (size : Nat) (template : Text) : Draft :=
  let before := template.takeWhile (· ≠ .of '$')
  let place := size + before.length
  match _ : template.drop before.length with
  | [] => ⟨draft.text ++ before, draft.starts⟩
  | sign :: rest =>
      if contentMark.isPrefixOf (sign :: rest) then
        fillPartialFrom content ⟨draft.text ++ before ++ content, draft.starts ++ [place]⟩
          (place + content.length) (rest.drop 7)
      else if isFirstMark (sign :: rest) then
        fillPartialFrom content ⟨draft.text ++ before ++ content, draft.starts ++ [place]⟩
          (place + content.length) (rest.drop 1)
      else fillPartialFrom content ⟨draft.text ++ before ++ [sign], draft.starts⟩ (place + 1) rest
termination_by template.length
decreasing_by
  all_goals
    have shorter := congrArg List.length ‹template.drop _ = _›
    simp only [List.length_drop, List.length_cons] at shorter ⊢
    omega

/-- A project's template with its content, and the offsets of the content in it. -/
def fillPartial (template content : Text) : Text × List Nat :=
  let draft := fillPartialFrom content ⟨[], []⟩ 0 template
  (draft.text, draft.starts)

end Substitution
end Flourish
