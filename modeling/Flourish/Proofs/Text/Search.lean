/-
This file holds facts on maximal runs and on searches in text.
-/

import Flourish.Text.Basic

namespace Flourish.Text

/-- A maximal run and what follows it make up the text. -/
theorem run_append_drop (test : Letter → Bool) (text : Text) :
    text.takeWhile test ++ text.drop (text.takeWhile test).length = text :=
  List.prefix_iff_eq_append.mp (List.takeWhile_prefix test)

theorem drop_run (test : Letter → Bool) (text : Text) :
    text.drop (text.takeWhile test).length = text.dropWhile test := by
  rw [← List.append_right_inj (text.takeWhile test), run_append_drop,
    List.takeWhile_append_dropWhile]

/-- A maximal run ends before the first letter that fails the test. -/
theorem run_eq {test : Letter → Bool} {first rest : Text} (all : ∀ letter ∈ first, test letter)
    (stop : (rest.head?.map test).getD false = false) :
    (first ++ rest).takeWhile test = first := by
  rw [List.takeWhile_append_of_pos all]
  cases rest with
  | nil => simp
  | cons letter others => simp_all

/-- A maximal run ends at a letter that fails the test or before it. -/
theorem run_stopped {test : Letter → Bool} {stop : Letter} (fails : test stop = false)
    (text rest : Text) : (text ++ stop :: rest).takeWhile test = text.takeWhile test := by
  rw [List.takeWhile_append]
  split
  · next whole =>
      rw [List.takeWhile_cons_of_neg (by simp [fails]), List.append_nil]
      exact ((List.takeWhile_prefix test).eq_of_length whole).symm
  · rfl

/-- What is found stands where it is found. -/
theorem firstIndex_isPrefix {needle text : Text} {index : Nat}
    (found : firstIndex needle text = some index) : needle <+: text.drop index := by
  induction text generalizing index with
  | nil =>
      simp only [firstIndex] at found
      split at found
      · simp_all
      · cases found
  | cons letter rest inductionHypothesis =>
      simp only [firstIndex] at found
      split at found
      · next starts =>
          cases found
          exact List.isPrefixOf_iff_prefix.mp starts
      · obtain ⟨earlier, sought, rfl⟩ := Option.map_eq_some_iff.mp found
        exact inductionHypothesis sought

/-- A needle that starts the text is found at once. -/
theorem firstIndex_of_isPrefix {needle text : Text} (starts : needle <+: text) :
    firstIndex needle text = some 0 := by
  cases text with
  | nil => rw [firstIndex, if_pos (List.isEmpty_iff.mpr (List.prefix_nil.mp starts))]
  | cons letter rest => rw [firstIndex, if_pos (List.isPrefixOf_iff_prefix.mpr starts)]

/-- A search passes a letter at which the needle does not start. -/
theorem firstIndex_cons_of_not_isPrefix {needle rest : Text} {letter : Letter}
    (absent : ¬ needle <+: letter :: rest) :
    firstIndex needle (letter :: rest) = (firstIndex needle rest).map (· + 1) := by
  rw [firstIndex, if_neg (by simpa using absent)]

/-- A needle that is not found stands nowhere. -/
theorem absent_of_firstIndex {needle text : Text} (absent : firstIndex needle text = none)
    (index : Nat) : ¬ needle <+: text.drop index := by
  induction text generalizing index with
  | nil =>
      intro starts
      rw [List.drop_nil] at starts
      cases absent.symm.trans (firstIndex_of_isPrefix starts)
  | cons letter rest inductionHypothesis =>
      intro starts
      cases index with
      | zero => cases absent.symm.trans (firstIndex_of_isPrefix starts)
      | succ later =>
          rw [firstIndex] at absent
          split at absent
          · cases absent
          · exact inductionHypothesis (Option.map_eq_none_iff.mp absent) later starts

/-- The letters of a stretch by their place in it. -/
theorem getElem?_slice (start size index : Nat) (text : Text) :
    (slice start (start + size) text)[index]? =
      if index < size then text[start + index]? else none := by
  simp only [slice, List.getElem?_drop, List.getElem?_take, Nat.add_lt_add_iff_left]

/-- Two stretches are equal if they are so letter by letter. -/
theorem slice_eq_iff {start other size : Nat} {first second : Text} :
    slice start (start + size) first = slice other (other + size) second ↔
      ∀ index, index < size → first[start + index]? = second[other + index]? := by
  simp only [List.ext_getElem?_iff, getElem?_slice]
  exact forall_congr' fun index => by grind

theorem slice_eq_take (start stop : Nat) (text : Text) :
    slice start stop text = (text.drop start).take (stop - start) := by
  rw [slice, List.drop_take]

/-- A stretch is as long as its letters. -/
theorem slice_length (start stop : Nat) (text : Text) :
    slice start (start + (slice start stop text).length) text = slice start stop text := by
  rw [slice_eq_take, slice_eq_take, Nat.add_sub_cancel_left]
  exact (List.prefix_iff_eq_take.mp (List.take_prefix _ _)).symm

theorem length_slice {start stop : Nat} {text : Text} (fits : stop ≤ text.length) :
    (slice start stop text).length = stop - start := by
  rw [slice, List.length_drop, List.length_take, Nat.min_eq_left fits]

/-- A word stands at the front of a stretch if a stretch within it is that word. -/
theorem isPrefix_slice_iff {word text : Text} {start limit : Nat} (nonempty : word ≠ []) :
    word <+: slice start limit text ↔
      start + word.length ≤ limit ∧ slice start (start + word.length) text = word := by
  have positive := List.length_pos_iff.mpr nonempty
  rw [slice_eq_take, slice_eq_take, List.prefix_take_iff, List.prefix_iff_eq_take,
    Nat.add_sub_cancel_left]
  constructor
  · rintro ⟨same, short⟩
    exact ⟨by omega, same.symm⟩
  · rintro ⟨ends, same⟩
    exact ⟨same.symm, by omega⟩

/-- A stretch that is a word stops where the word does. -/
theorem stop_of_slice_eq {word text : Text} {start stop : Nat} (nonempty : word ≠ [])
    (fits : stop ≤ text.length) (same : slice start stop text = word) :
    stop = start + word.length := by
  have size : (slice start stop text).length = stop - start := length_slice fits
  have positive := List.length_pos_iff.mpr nonempty
  rw [same] at size
  omega

/-- The letters of a prefix are those of the text. -/
theorem getElem?_of_isPrefix {first text : Text} {start index : Nat}
    (written : first <+: text.drop start) (within : index < first.length) :
    text[start + index]? = first[index]? := by
  obtain ⟨rest, same⟩ := written
  rw [← List.getElem?_drop, ← same, List.getElem?_append_left within]

theorem braces_iff {text : Text} {position : Nat} :
    [.of '{', .of '{'] <+: text.drop position ↔
      text[position]? = some (.of '{') ∧ text[position + 1]? = some (.of '{') := by
  constructor
  · intro braces
    exact ⟨getElem?_of_isPrefix braces (show 0 < 2 by omega),
      getElem?_of_isPrefix braces (show 1 < 2 by omega)⟩
  · rintro ⟨first, second⟩
    obtain ⟨inText, first⟩ := List.getElem?_eq_some_iff.mp first
    obtain ⟨laterInText, second⟩ := List.getElem?_eq_some_iff.mp second
    rw [List.drop_eq_getElem_cons inText, first, List.drop_eq_getElem_cons laterInText, second]
    exact ⟨_, rfl⟩

end Flourish.Text
