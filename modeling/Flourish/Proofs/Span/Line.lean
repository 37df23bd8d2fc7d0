/-
This file scans documents of one line. Main statement: a line that opens no fence and holds no
delimiter is one literal span, and with the standard marks so is every tag without a backtick.
-/

import Flourish.Span.Scan

namespace Flourish

namespace Text

theorem lines_of_single {line : Text} (nonempty : line ≠ []) (single : .of '\n' ∉ line) :
    lines line = [line] := by
  induction line with
  | nil => exact absurd rfl nonempty
  | cons letter rest inductionHypothesis =>
      have other : letter ≠ '\n' := fun same => single (same ▸ List.mem_cons_self)
      rw [lines, if_neg other]
      cases rest with
      | nil => rfl
      | cons next others =>
          rw [inductionHypothesis (List.cons_ne_nil _ _)
            fun member => single (List.mem_cons_of_mem _ member)]

/-- What does not begin with white space begins as it does without it. -/
theorem trim_prefix {letter : Letter} (visible : isBlank letter = false) (rest : Text) :
    trim (letter :: rest) <+: letter :: rest := by
  have start : trimStart (letter :: rest) = letter :: rest :=
    List.dropWhile_cons_of_neg (by simp [visible])
  rw [trim, start, trimEnd]
  have whole := List.reverse_prefix.mpr
    (List.dropWhile_suffix (p := isBlank) (l := (letter :: rest).reverse))
  rwa [List.reverse_reverse] at whole

end Text

namespace Span

/-- A needle that stands nowhere in a text does not occur. -/
theorem occurrences_of_absent {needle text : Text} (absent : ¬ needle <:+: text) (position : Nat) :
    occurrences needle position text = [] := by
  induction text generalizing position with
  | nil => rw [occurrences]
  | cons letter rest inductionHypothesis =>
      have elsewhere : ¬ needle <:+: rest := fun within =>
        absent (within.trans (List.suffix_cons letter rest).isInfix)
      have notHere : (!needle.isEmpty && needle.isPrefixOf (letter :: rest)) ≠ true := by
        intro starts
        have here := (Bool.and_eq_true_iff.mp starts).2
        exact absent (List.isPrefixOf_iff_prefix.mp here).isInfix
      rw [occurrences, if_neg notHere, inductionHypothesis elsewhere]

variable {marks : CodeMarks} {line : Text}

/-- A line that opens no fence and holds no delimiter is one literal span. -/
theorem scan_line (nonempty : line ≠ []) (single : .of '\n' ∉ line)
    (plain : marks.fenceOf? line = none) (absent : ¬ marks.delimiter <:+: line) :
    scan marks line = [⟨.literal, 0, line.length⟩] := by
  have size : line.length ≠ 0 := fun empty => nonempty (List.length_eq_zero_iff.mp empty)
  rw [scan, Text.lines_of_single nonempty single, blockPieces, plain]
  simp only [blockPieces, linePieces, occurrences_of_absent absent, pairedPieces, List.append_nil,
    Nat.sub_zero, ofPieces, if_neg size, Nat.zero_add, Option.toList]

/-- With the standard marks a line that begins with a brace and has no backtick is one literal
span. -/
theorem scan_braces {rest : Text} (single : .of '\n' ∉ rest) (bare : .of '\x60' ∉ rest) :
    scan CodeMarks.standard (.of '{' :: rest) = [⟨.literal, 0, (.of '{' :: rest).length⟩] := by
  have plain : CodeMarks.standard.fenceOf? (.of '{' :: rest) = none := by
    rw [CodeMarks.fenceOf?, List.find?_eq_none]
    intro marker member starts
    have here := (List.isPrefixOf_iff_prefix.mp starts).trans (Text.trim_prefix (by decide) rest)
    simp only [CodeMarks.standard, List.mem_cons, List.not_mem_nil, or_false] at member
    rcases member with rfl | rfl
    · exact absurd (List.cons_prefix_cons.mp here).1 (by decide)
    · exact absurd (List.cons_prefix_cons.mp here).1 (by decide)
  refine scan_line (List.cons_ne_nil _ _) ?_ plain ?_
  · simpa using single
  · intro within
    have member := within.subset (List.mem_singleton.mpr rfl : Letter.of '\x60' ∈ [Letter.of '\x60'])
    rcases List.mem_cons.mp member with same | later
    · exact absurd same (by decide)
    · exact bare later

end Span
end Flourish
