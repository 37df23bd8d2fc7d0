/-
This file says where the content of a tag stands in a filled template. Main statement: a copy of
the content stands at each of its places, and no two copies overlap.
-/

import Flourish.Substitution

namespace Flourish

/-- Copies of a content stand in a text at these places, in this order and without overlap. -/
structure Inserted (content text : Text) (starts : List Nat) : Prop where
  spaced : starts.Pairwise fun first second => first + content.length ≤ second
  written : ∀ start ∈ starts, content <+: text.drop start

namespace Inserted

theorem none (content text : Text) : Inserted content text [] :=
  ⟨List.Pairwise.nil, fun _ member => nomatch member⟩

/-- A text stands whole at its own front. -/
theorem whole (content : Text) : Inserted content content [0] := by
  refine ⟨List.pairwise_singleton _ _, fun start member => ?_⟩
  cases List.mem_singleton.mp member
  exact List.prefix_refl _

end Inserted

namespace Filled

variable {content : Text} {position : Nat}

theorem text_append (content : Text) (before after : List Filled) :
    text content (before ++ after) = text content before ++ text content after := by
  simp only [text, List.flatMap_append]

/-- The content is copied behind the parts that come before it. -/
theorem content_isPrefix (content : Text) (before after : List Filled) :
    content <+: (text content (before ++ .content :: after)).drop (text content before).length := by
  rw [text_append, List.drop_left]
  exact List.prefix_append _ _

/-- The places of the content are those that its parts have in the template. -/
theorem mem_starts_iff {filled : List Filled} {start : Nat} :
    start ∈ starts content.length position filled ↔
      ∃ before after, filled = before ++ .content :: after ∧
        start = position + (text content before).length := by
  induction filled generalizing position with
  | nil => simp [starts]
  | cons part rest inductionHypothesis =>
      constructor
      · intro member
        cases part with
        | letters own =>
            obtain ⟨before, after, rfl, rfl⟩ := inductionHypothesis.mp member
            exact ⟨.letters own :: before, after, rfl, by simp [text, Nat.add_assoc]⟩
        | content =>
            rcases List.mem_cons.mp member with rfl | later
            · exact ⟨[], rest, rfl, rfl⟩
            · obtain ⟨before, after, rfl, rfl⟩ := inductionHypothesis.mp later
              exact ⟨.content :: before, after, rfl, by simp [text, Nat.add_assoc]⟩
      · rintro ⟨before, after, same, rfl⟩
        cases before with
        | nil =>
            cases same
            exact List.mem_cons_self
        | cons first others =>
            cases same
            cases part with
            | letters own =>
                exact inductionHypothesis.mpr
                  ⟨others, after, rfl, by simp [text, Nat.add_assoc]⟩
            | content =>
                exact List.mem_cons_of_mem _ (inductionHypothesis.mpr
                  ⟨others, after, rfl, by simp [text, Nat.add_assoc]⟩)

/-- A copy of the content ends before the next one begins. -/
theorem starts_spaced (content : Text) (position : Nat) (filled : List Filled) :
    (starts content.length position filled).Pairwise
      fun first second => first + content.length ≤ second := by
  induction filled generalizing position with
  | nil => exact List.Pairwise.nil
  | cons part rest inductionHypothesis =>
      cases part with
      | letters own => exact inductionHypothesis _
      | content =>
          refine List.Pairwise.cons (fun later member => ?_) (inductionHypothesis _)
          obtain ⟨before, after, _, rfl⟩ := mem_starts_iff.mp member
          exact Nat.le_add_right _ _

/-- The content stands in a filled template at each of its places. -/
theorem inserted (content : Text) (filled : List Filled) :
    Inserted content (text content filled) (starts content.length 0 filled) := by
  refine ⟨starts_spaced content 0 filled, fun start member => ?_⟩
  obtain ⟨before, after, rfl, rfl⟩ := mem_starts_iff.mp member
  rw [Nat.zero_add]
  exact content_isPrefix content before after

end Filled

namespace Substitution

variable {letter : Letter}

theorem contentMark_absent (other : letter ≠ '$') (rest : Text) :
    contentMark.isPrefixOf (letter :: rest) = false := by
  refine Bool.eq_false_iff.mpr fun starts => other ?_
  rw [List.isPrefixOf_iff_prefix, contentMark_letters] at starts
  exact (List.cons_prefix_cons.mp starts).1.symm

theorem isFirstMark_absent (other : letter ≠ '$') (rest : Text) :
    isFirstMark (letter :: rest) = false := by
  unfold isFirstMark
  split
  · next same => exact absurd (List.cons.inj same).1 other
  · next same => exact absurd (List.cons.inj same).1 other
  · rfl

theorem partialParts_letter (other : letter ≠ '$') (rest : Text) :
    partialParts (letter :: rest) = .letters [letter] :: partialParts rest := by
  rw [partialParts, contentMark_absent other, isFirstMark_absent other]
  rfl

/-- Letters up to a dollar sign are parts of their own. -/
theorem foldl_put_run (content : Text) (draft : Draft) (template : Text) :
    let before := template.takeWhile (· ≠ .of '$')
    (partialParts template).foldl (Draft.put content) draft =
      (partialParts (template.drop before.length)).foldl (Draft.put content)
        ⟨draft.text ++ before, draft.starts⟩ := by
  induction template generalizing draft with
  | nil => simp
  | cons letter rest inductionHypothesis =>
      by_cases dollar : letter = '$'
      · simp [dollar]
      · rw [partialParts_letter dollar, List.foldl_cons, inductionHypothesis]
        simp [dollar, Draft.put]

/-- Going from sign to sign puts the parts of the template one after the other. -/
theorem fillPartialFrom_eq (content : Text) (draft : Draft) (template : Text) :
    fillPartialFrom content draft draft.text.length template =
      (partialParts template).foldl (Draft.put content) draft := by
  -- The count in hand is the size of what is written.
  generalize counted : draft.text.length = size
  fun_induction fillPartialFrom content draft size template with
  | case1 draft size template before ended =>
      rw [foldl_put_run, ended, partialParts]
      rfl
  | case2 draft size template before place sign rest found starts inductionHypothesis =>
      have placed : (draft.text ++ before).length = place := by rw [List.length_append, counted]
      rw [foldl_put_run, found, partialParts, if_pos starts, List.foldl_cons, Draft.put, placed]
      exact inductionHypothesis (by rw [List.length_append, placed])
  | case3 draft size template before place sign rest found other starts inductionHypothesis =>
      have placed : (draft.text ++ before).length = place := by rw [List.length_append, counted]
      rw [foldl_put_run, found, partialParts, if_neg other, if_pos starts, List.foldl_cons,
        Draft.put, placed]
      exact inductionHypothesis (by rw [List.length_append, placed])
  | case4 draft size template before place sign rest found other plain inductionHypothesis =>
      have placed : (draft.text ++ before).length = place := by rw [List.length_append, counted]
      rw [foldl_put_run, found, partialParts, if_neg other, if_neg plain, List.foldl_cons]
      exact inductionHypothesis (by rw [List.length_append, placed]; rfl)

/-- A project's template becomes the text of its parts, with the places of the content in it. -/
theorem fillPartial_eq (template content : Text) :
    fillPartial template content =
      (Filled.text content (partialParts template),
        Filled.starts content.length 0 (partialParts template)) := by
  have parts := fillPartialFrom_eq content ⟨[], []⟩ template
  rw [Draft.foldl_put] at parts
  simp only [fillPartial, List.length_nil] at parts ⊢
  rw [parts]
  rfl

end Substitution
end Flourish
