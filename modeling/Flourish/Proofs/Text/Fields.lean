/-
This file says how texts are split at a letter and joined again. Main statement: a text is its
fields with the separator between them, and fields without the separator are found again.
-/

import Mathlib.Data.List.Forall2
import Flourish.Text.Basic

namespace Flourish

section Lists

variable {Sign : Type} {separator sign : Sign} {part : List Sign} {parts : List (List Sign)}

/-- What is in joined lists is in one of them or is the separator. -/
theorem mem_of_mem_intercalate (member : sign ∈ [separator].intercalate parts) :
    sign = separator ∨ ∃ part ∈ parts, sign ∈ part := by
  induction parts with
  | nil => cases member
  | cons first others inductionHypothesis =>
      by_cases last : others = []
      · rw [last, List.intercalate_singleton] at member
        exact Or.inr ⟨first, List.mem_cons_self, member⟩
      · rw [List.intercalate_cons_of_ne_nil last, List.mem_append, List.mem_append,
          List.mem_singleton] at member
        rcases member with (within | between) | later
        · exact Or.inr ⟨first, List.mem_cons_self, within⟩
        · exact Or.inl between
        · refine (inductionHypothesis later).imp_right ?_
          rintro ⟨part, among, within⟩
          exact ⟨part, List.mem_cons_of_mem _ among, within⟩

theorem mem_intercalate_of_mem (member : part ∈ parts) (within : sign ∈ part) :
    sign ∈ [separator].intercalate parts := by
  induction parts with
  | nil => cases member
  | cons first others inductionHypothesis =>
      by_cases last : others = []
      · rw [last, List.mem_singleton] at member
        rwa [last, List.intercalate_singleton, ← member]
      · rw [List.intercalate_cons_of_ne_nil last, List.mem_append, List.mem_append]
        rcases List.mem_cons.mp member with rfl | later
        · exact Or.inl (Or.inl within)
        · exact Or.inr (inductionHypothesis later)

/-- Lists before others are joined with the separator behind each of them. -/
theorem intercalate_append (before : List (List Sign)) (some_ : parts ≠ []) :
    [separator].intercalate (before ++ parts) =
      before.flatMap (· ++ [separator]) ++ [separator].intercalate parts := by
  induction before with
  | nil => rfl
  | cons first others inductionHypothesis =>
      rw [List.cons_append, List.intercalate_cons_of_ne_nil (by simp [some_]), inductionHypothesis,
        List.flatMap_cons, List.append_assoc (first ++ [separator])]

/-- What stands before the first of joined lists continues the last of others. -/
theorem intercalate_append_cons (before others : List (List Sign)) (last first : List Sign) :
    [separator].intercalate (before ++ (last ++ first) :: others) =
      [separator].intercalate (before ++ [last]) ++ [separator].intercalate (first :: others) := by
  have front : [separator].intercalate ((last ++ first) :: others) =
      last ++ [separator].intercalate (first :: others) := by
    cases others with
    | nil => simp only [List.intercalate_singleton]
    | cons next more =>
        simp only [List.intercalate_cons_of_ne_nil (List.cons_ne_nil next more), List.append_assoc]
  rw [intercalate_append before (List.cons_ne_nil _ _), front,
    intercalate_append before (List.cons_ne_nil _ _), List.intercalate_singleton,
    List.append_assoc]

/-- What stands behind a list that was split continues its last part. -/
theorem splitOn_append [DecidableEq Sign] {signs rest last first : List Sign}
    {before others : List (List Sign)} (split : signs.splitOn separator = before ++ [last])
    (later : rest.splitOn separator = first :: others) :
    (signs ++ rest).splitOn separator = before ++ (last ++ first) :: others := by
  induction signs generalizing before last with
  | nil =>
      rw [List.splitOn_nil] at split
      cases before with
      | nil =>
          cases split
          exact later
      | cons earlier more => simp at split
  | cons sign signs inductionHypothesis =>
      obtain ⟨middle, end_, found⟩ : ∃ middle end_, signs.splitOn separator = middle ++ [end_] :=
        (List.eq_nil_or_concat' _).resolve_left (List.splitOn_ne_nil separator signs)
      have tail := inductionHypothesis found
      rw [List.splitOn_cons_eq_if_modifyHead, found] at split
      rw [List.cons_append, List.splitOn_cons_eq_if_modifyHead, tail]
      split at split
      · next same =>
          have ends : before ++ [last] = ([] :: middle) ++ [end_] := split.symm
          obtain ⟨rfl, equal⟩ := List.append_inj' ends rfl
          cases equal
          rw [if_pos same, List.cons_append]
      · next other =>
          rw [if_neg other]
          cases middle with
          | nil =>
              have ends : before ++ [last] = [] ++ [sign :: end_] := split.symm
              obtain ⟨rfl, equal⟩ := List.append_inj' ends rfl
              cases equal
              rfl
          | cons next more =>
              have ends : before ++ [last] = ((sign :: next) :: more) ++ [end_] := split.symm
              obtain ⟨rfl, equal⟩ := List.append_inj' ends rfl
              cases equal
              rfl

/-- No part of a split list has the separator in it. -/
theorem not_mem_of_mem_splitOn [DecidableEq Sign] {signs : List Sign}
    (member : part ∈ signs.splitOn separator) : separator ∉ part := by
  induction signs generalizing part with
  | nil =>
      cases List.mem_singleton.mp member
      exact List.not_mem_nil
  | cons sign rest inductionHypothesis =>
      rw [List.splitOn_cons_eq_if_modifyHead] at member
      split at member
      · rcases List.mem_cons.mp member with rfl | later
        · exact List.not_mem_nil
        · exact inductionHypothesis later
      · next other =>
          obtain ⟨first, others, found⟩ :=
            List.exists_cons_of_ne_nil (List.splitOn_ne_nil separator rest)
          rw [found, List.modifyHead_cons] at member
          rw [found] at inductionHypothesis
          rcases List.mem_cons.mp member with rfl | later
          · have different : sign ≠ separator := by simpa using other
            intro within
            rcases List.mem_cons.mp within with equal | within
            · exact different equal.symm
            · exact inductionHypothesis List.mem_cons_self within
          · exact inductionHypothesis (List.mem_cons_of_mem _ later)

end Lists

namespace Text

@[simp] theorem join_singleton (separator piece : Text) : join separator [piece] = piece :=
  List.intercalate_singleton

theorem join_cons (separator piece : Text) {pieces : List Text} (some_ : pieces ≠ []) :
    join separator (piece :: pieces) = piece ++ (separator ++ join separator pieces) := by
  rw [← List.append_assoc]
  exact List.intercalate_cons_of_ne_nil some_

/-- What stands before the first piece stands before all of them. -/
theorem join_modifyHead (separator before : Text) {pieces : List Text} (some_ : pieces ≠ []) :
    join separator (pieces.modifyHead (before ++ ·)) = before ++ join separator pieces := by
  obtain ⟨first, others, rfl⟩ := List.exists_cons_of_ne_nil some_
  cases others with
  | nil => simp
  | cons next more => simp [join_cons]

theorem modifyHead_nothing (pieces : List Text) :
    pieces.modifyHead (([] : Text).reverse ++ ·) = pieces := by
  cases pieces <;> rfl

/-- The fields are what the library's splitting of lists gives. -/
theorem fields_eq_splitOn (separator : Letter) (text : Text) :
    fields separator text = text.splitOn separator := by
  induction text with
  | nil => rfl
  | cons letter rest inductionHypothesis =>
      rw [fields, List.splitOn_cons_eq_if_modifyHead, inductionHypothesis]
      obtain ⟨field, others, found⟩ :=
        List.exists_cons_of_ne_nil (List.splitOn_ne_nil separator rest)
      simp only [found, beq_iff_eq, List.modifyHead_cons]

theorem fields_ne_nil (separator : Letter) (text : Text) : fields separator text ≠ [] := by
  rw [fields_eq_splitOn]
  apply List.splitOn_ne_nil

theorem fields_append (separator : Letter) (first second : Text) :
    fields separator (first ++ separator :: second) =
      fields separator first ++ fields separator second := by
  simp only [fields_eq_splitOn]
  apply List.splitOn_append_cons_self

theorem fields_of_not_mem {separator : Letter} {text : Text} (absent : separator ∉ text) :
    fields separator text = [text] := by
  rw [fields_eq_splitOn]
  exact List.splitOn_eq_singleton absent

/-- A text is its fields with the separator between them. -/
theorem join_fields (separator : Letter) (text : Text) :
    join [separator] (fields separator text) = text := by
  rw [fields_eq_splitOn]
  exact List.intercalate_splitOn separator

/-- Pieces without the separator are the fields of the text that they are joined to. -/
theorem fields_join {separator : Letter} {pieces : List Text} (some_ : pieces ≠ [])
    (plain : ∀ piece ∈ pieces, separator ∉ piece) :
    fields separator (join [separator] pieces) = pieces := by
  rw [fields_eq_splitOn]
  exact List.splitOn_intercalate separator plain some_

theorem not_mem_of_mem_fields {separator : Letter} {text field : Text}
    (member : field ∈ fields separator text) : separator ∉ field := by
  rw [fields_eq_splitOn] at member
  exact not_mem_of_mem_splitOn member

end Text

end Flourish
