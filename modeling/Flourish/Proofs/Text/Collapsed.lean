/-
This file says what is left of a text once its white space is collapsed. Main statement: a run of
white space becomes one space, and words with single spaces between them stay as they are.
-/

import Flourish.Proofs.Text.Fields
import Flourish.Text.Blank

namespace Flourish.Text

variable {letter : Letter} {text gap rest : Text}

/-- What a run of white space becomes. -/
def spaceFor (gap : Text) : Text :=
  if gap.isEmpty then [] else [.of ' ']

theorem isBlank_of_mem_spaceFor (member : letter ∈ spaceFor gap) : isBlank letter := by
  unfold spaceFor at member
  split at member
  · cases member
  · cases List.mem_singleton.mp member
    rfl

theorem collapseBlanks_cons (visible : isBlank letter = false) (rest : Text) :
    collapseBlanks (letter :: rest) = letter :: collapseBlanks rest := by
  simp only [collapseBlanks, visible, Bool.false_eq_true, if_false]

theorem collapseBlanks_append (visible : ∀ letter ∈ text, isBlank letter = false) (rest : Text) :
    collapseBlanks (text ++ rest) = text ++ collapseBlanks rest := by
  induction text with
  | nil => rfl
  | cons letter others inductionHypothesis =>
      rw [List.cons_append, collapseBlanks_cons (visible letter List.mem_cons_self),
        inductionHypothesis fun later among => visible later (.tail _ among),
        List.cons_append]

/-- A run of white space ends at the first visible letter or with the text. -/
theorem collapseBlanks_gap (blank : ∀ letter ∈ gap, isBlank letter)
    (ends : ∀ letter ∈ rest.head?, isBlank letter = false) :
    collapseBlanks (gap ++ rest) = spaceFor gap ++ collapseBlanks rest := by
  induction gap with
  | nil => rfl
  | cons first others inductionHypothesis =>
      have here : isBlank first = true := blank first List.mem_cons_self
      have later := inductionHypothesis fun letter among => blank letter (.tail _ among)
      cases others with
      | nil =>
          cases rest with
          | nil => simp [collapseBlanks, here, spaceFor]
          | cons letter more => simp [collapseBlanks, here, ends letter rfl, spaceFor]
      | cons second more =>
          -- only the last letter of the run becomes the space
          have next : isBlank second = true := blank second (by simp)
          rw [List.cons_append, List.cons_append, collapseBlanks, if_pos here]
          simp only [next, if_true]
          exact later

/-- No other white space than spaces is left. -/
theorem eq_space_of_mem_collapseBlanks (member : letter ∈ collapseBlanks text)
    (blank : isBlank letter) : letter = ' ' := by
  fun_induction collapseBlanks text with
  | case1 => cases member
  | case2 => grind
  | case3 => grind
  | case4 => grind
  | case5 => grind

theorem mem_of_mem_trim (member : letter ∈ trim text) : letter ∈ text := by
  have back := (List.dropWhile_sublist isBlank).mem (List.mem_reverse.mp member)
  exact (List.dropWhile_sublist isBlank).mem (List.mem_reverse.mp back)

/-- A text that begins and ends with a visible letter is not trimmed. -/
theorem trim_of_ends (first : ∀ letter ∈ text.head?, isBlank letter = false)
    (last : ∀ letter ∈ text.getLast?, isBlank letter = false) : trim text = text := by
  have kept {letters : Text} (visible : ∀ letter ∈ letters.head?, isBlank letter = false) :
      letters.dropWhile isBlank = letters := by
    cases letters with
    | nil => rfl
    | cons letter others => rw [List.dropWhile_cons_of_neg (by simp [visible letter rfl])]
  rw [trim, trimStart, kept first, trimEnd, kept (by rwa [List.head?_reverse]),
    List.reverse_reverse]

/-- A text whose only white space is single spaces between words. -/
def SingleSpaced (text : Text) : Prop :=
  ∃ words : List Text, text = join [.of ' '] words ∧
    ∀ word ∈ words, word ≠ [] ∧ ∀ letter ∈ word, isBlank letter = false

/-- Single spaces between words stay as they are. -/
theorem SingleSpaced.collapseBlanks_append (spaced : SingleSpaced text)
    (visible : isBlank letter = false) (rest : Text) :
    collapseBlanks (text ++ letter :: rest) = text ++ letter :: collapseBlanks rest := by
  obtain ⟨words, rfl, plain⟩ := spaced
  induction words with
  | nil => exact collapseBlanks_cons visible rest
  | cons word others inductionHypothesis =>
      have first := (plain word List.mem_cons_self).2
      cases others with
      | nil =>
          rw [join_singleton, Text.collapseBlanks_append first, collapseBlanks_cons visible]
      | cons next more =>
          have later := inductionHypothesis fun word among => plain word (.tail _ among)
          obtain ⟨start, others, rfl⟩ := List.exists_cons_of_ne_nil (plain next (by simp)).1
          have head : (join [.of ' '] ((start :: others) :: more) ++ letter :: rest).head? =
              some start := by
            cases more with
            | nil => simp
            | cons third more => simp [join_cons]
          have starts :
              ∀ first ∈ (join [.of ' '] ((start :: others) :: more) ++ letter :: rest).head?,
              isBlank first = false := by
            rw [head]
            rintro _ ⟨⟩
            exact (plain (start :: others) (by simp)).2 start List.mem_cons_self
          rw [join_cons _ _ (List.cons_ne_nil _ _), List.append_assoc,
            Text.collapseBlanks_append first, List.append_assoc,
            collapseBlanks_gap (List.forall_mem_singleton.mpr rfl) starts, later]
          simp [spaceFor]

end Flourish.Text
