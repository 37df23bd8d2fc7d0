/-
This file says what becomes of a text before it is cut into lexemes. Main statement: a line stays as
it is, up to the newline behind it, if it has no return and does not begin with a byte order mark.
-/

import Flourish.Highlight.Lexeme

namespace Flourish

namespace Text

variable {text : Text}

/-- Without returns there is nothing to unify. -/
theorem unifyNewlines_of_not_mem (plain : .of '\r' ∉ text) : unifyNewlines text = text := by
  fun_induction unifyNewlines text with
  | case1 => simp at plain
  | case2 => simp at plain
  | case3 letter rest _ _ inductionHypothesis =>
      rw [inductionHypothesis (List.not_mem_of_not_mem_cons plain)]
  | case4 => rfl

/-- No return is left. -/
theorem not_mem_unifyNewlines (text : Text) : .of '\r' ∉ unifyNewlines text := by
  fun_induction unifyNewlines text with
  | case1 rest inductionHypothesis => simpa using inductionHypothesis
  | case2 rest _ inductionHypothesis => simpa using inductionHypothesis
  | case3 letter rest _ other inductionHypothesis =>
      rintro (_ | ⟨_, member⟩)
      · exact other rfl
      · exact inductionHypothesis member
  | case4 => simp

/-- The letter in front of which nothing is dropped. -/
theorem dropWhile_of_head? {letter : Letter} (first : text.head? ≠ some letter) :
    text.dropWhile (· = letter) = text := by
  cases text with
  | nil => rfl
  | cons other rest =>
      rw [List.dropWhile_cons_of_neg]
      simpa using first

/-- Where a text neither begins nor ends with a letter, only what follows is stripped of it. -/
theorem stripLetter_append {letter : Letter} {front : Text} (rest : Text) (filled : front ≠ [])
    (first : front.head? ≠ some letter) (last : front.getLast? ≠ some letter) :
    stripLetter letter (front ++ rest) =
      front ++ (rest.reverse.dropWhile (· = letter)).reverse := by
  have begins : (front ++ rest).head? ≠ some letter := by
    obtain ⟨other, others, rfl⟩ := List.exists_cons_of_ne_nil filled
    exact first
  have ends : front.reverse.head? ≠ some letter := by rwa [List.head?_reverse]
  rw [stripLetter, dropWhile_of_head? begins, List.reverse_append, List.dropWhile_append,
    dropWhile_of_head? ends]
  split
  · next empty => simp [List.isEmpty_iff.mp empty]
  · simp

theorem stripLetter_of_not_mem {letter : Letter} (absent : letter ∉ text) :
    stripLetter letter text = text := by
  have begins : text.head? ≠ some letter := fun first => absent (List.mem_of_head? first)
  have ends : text.reverse.head? ≠ some letter := by
    intro last
    exact absent (List.mem_reverse.mp (List.mem_of_head? last))
  rw [stripLetter, dropWhile_of_head? begins, dropWhile_of_head? ends, List.reverse_reverse]

theorem stripLetter_sublist (letter : Letter) (text : Text) :
    (stripLetter letter text).Sublist text := by
  rw [stripLetter, ← List.reverse_sublist, List.reverse_reverse]
  exact (List.dropWhile_sublist _).trans (List.dropWhile_sublist _).reverse

theorem getLast?_stripLetter (letter : Letter) (text : Text) :
    (stripLetter letter text).getLast? ≠ some letter := by
  intro ends
  rw [stripLetter, List.getLast?_reverse] at ends
  have fails := List.head?_dropWhile_not (fun other => decide (other = letter))
    (text.dropWhile fun other => decide (other = letter)).reverse
  rw [ends] at fails
  simp at fails

end Text

namespace Lexeme

variable {text : Text}

/-- The text without a byte order mark at its front. -/
def unmarked (text : Text) : Text :=
  if text.head? = some (.of '\uFEFF') then text.tail else text

/-- The text that is cut, without the newline at its end. -/
def settled (text : Text) : Text :=
  Text.stripLetter '\n' (Text.unifyNewlines (unmarked text))

theorem unmarked_sublist (text : Text) : (unmarked text).Sublist text := by
  rw [unmarked]
  split
  · exact List.tail_sublist text
  · exact List.Sublist.refl text

theorem normalized_eq (text : Text) : normalized text = settled text ++ [.of '\n'] := by
  cases text with
  | nil => rfl
  | cons letter rest =>
      by_cases marked : letter = '\uFEFF'
      · subst marked
        rfl
      · have unmarked_ : unmarked (letter :: rest) = letter :: rest :=
          if_neg fun same => marked (Option.some.inj same)
        rw [settled, unmarked_, normalized]
        exact fun others same => marked (List.cons.inj same).1

/-- No return is cut. -/
theorem not_mem_settled (text : Text) : .of '\r' ∉ settled text := by
  intro member
  exact Text.not_mem_unifyNewlines _ ((Text.stripLetter_sublist _ _).mem member)

/-- Of a line without returns only a byte order mark at its front is dropped. -/
theorem settled_line (line : .of '\n' ∉ text) (plain : .of '\r' ∉ text) :
    settled text = unmarked text := by
  have kept := unmarked_sublist text
  rw [settled, Text.unifyNewlines_of_not_mem fun member => plain (kept.mem member),
    Text.stripLetter_of_not_mem fun member => line (kept.mem member)]

/-- What follows a front without newlines at its ends is cut as it stands, up to the newlines at the
end. -/
theorem normalized_append {front : Text} (rest : Text) (filled : front ≠ [])
    (first : front.head? ≠ some (.of '\n')) (last : front.getLast? ≠ some (.of '\n'))
    (unmarked_ : front.head? ≠ some (.of '\uFEFF')) (plain : .of '\r' ∉ front ++ rest) :
    normalized (front ++ rest) =
      front ++ ((rest.reverse.dropWhile (· = .of '\n')).reverse ++ [.of '\n']) := by
  have kept : unmarked (front ++ rest) = front ++ rest := by
    obtain ⟨letter, others, rfl⟩ := List.exists_cons_of_ne_nil filled
    exact if_neg unmarked_
  rw [normalized_eq, settled, kept, Text.unifyNewlines_of_not_mem plain,
    Text.stripLetter_append rest filled first last, List.append_assoc]

/-- A line stays as it is if and only if as many returns and as many byte order marks are cut as it
has. -/
theorem count_settled_iff (line : .of '\n' ∉ text) :
    (.of '\r' ∉ text ∧ text.head? ≠ some (.of '\uFEFF')) ↔
      ∀ letter ∈ [.of '\r', .of '\uFEFF'], (settled text).count letter = text.count letter := by
  constructor
  · rintro ⟨plain, unmarked_⟩ letter _
    rw [settled_line line plain, unmarked, if_neg unmarked_]
  · intro counted
    have plain : .of '\r' ∉ text := by
      rw [← List.count_eq_zero, ← counted '\r' (by simp)]
      exact List.count_eq_zero.mpr (not_mem_settled text)
    refine ⟨plain, ?_⟩
    intro marked
    have marks := counted '\uFEFF' (by simp)
    rw [settled_line line plain, unmarked, if_pos marked] at marks
    obtain ⟨rest, rfl⟩ := List.head?_eq_some_iff.mp marked
    simp at marks

end Lexeme
end Flourish
