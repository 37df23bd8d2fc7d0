/-
This file scans documents that are put together from paragraphs. Main statement: a newline between
two paragraphs joins the last span of the first to the first span of the second, and leaves all
other spans as they are.
-/

import Flourish.Proofs.Span.Cover
import Flourish.Proofs.Tag.Ahead

namespace Flourish

namespace Text

theorem lines_nextLine (text more : Text) :
    lines (text ++ nextLine more) = lines (text ++ [.of '\n']) ++ lines more := by
  induction text with
  | nil => rfl
  | cons letter rest inductionHypothesis =>
      rw [List.cons_append, List.cons_append, lines, lines, inductionHypothesis]
      split
      · rfl
      · cases whole : lines (rest ++ [.of '\n']) with
        | nil =>
            have flat := flatten_lines (rest ++ [.of '\n'])
            rw [whole] at flat
            exact absurd flat.symm (List.append_ne_nil_of_right_ne_nil _ (List.cons_ne_nil _ _))
        | cons line others => rfl

/-- A newline ends the last line of a text, or it is a line of its own. -/
theorem lines_newline (text : Text) :
    (∃ earlier line, lines text = earlier ++ [line] ∧
      lines (text ++ [.of '\n']) = earlier ++ [line ++ [.of '\n']]) ∨
    lines (text ++ [.of '\n']) = lines text ++ [[.of '\n']] := by
  induction text with
  | nil => exact Or.inr rfl
  | cons letter rest inductionHypothesis =>
      rw [List.cons_append, lines, lines]
      by_cases newline : letter = '\n'
      · rw [if_pos newline, if_pos newline]
        rcases inductionHypothesis with ⟨earlier, line, before, after⟩ | after
        · exact Or.inl ⟨[letter] :: earlier, line, by rw [before]; rfl, by rw [after]; rfl⟩
        · exact Or.inr (by rw [after]; rfl)
      · rw [if_neg newline, if_neg newline]
        rcases inductionHypothesis with ⟨earlier, line, before, after⟩ | after
        · rw [before, after]
          cases earlier with
          | nil => exact Or.inl ⟨[], letter :: line, rfl, rfl⟩
          | cons first others => exact Or.inl ⟨(letter :: first) :: others, line, rfl, rfl⟩
        · rw [after]
          cases lines rest with
          | nil => exact Or.inl ⟨[], [letter], rfl, rfl⟩
          | cons first others => exact Or.inr rfl

theorem trim_newline (line : Text) : trim (line ++ [.of '\n']) = trim line := by
  have blank : isBlank '\n' = true := by decide
  have alone : [.of '\n'].dropWhile isBlank = [] := by decide
  rw [trim, trim, trimStart, trimStart, List.dropWhile_append]
  split
  · next empty => rw [alone, List.isEmpty_iff.mp empty]
  · rw [trimEnd, trimEnd, List.reverse_append, List.reverse_singleton, List.singleton_append,
      List.dropWhile_cons_of_pos blank]

end Text

namespace Span

/-- The fence that is open behind some lines. -/
def openFence (marks : CodeMarks) : Option Text → List Text → Option Text
  | fence, [] => fence
  | some marker, line :: rest =>
      openFence marks (if marker.isPrefixOf (Text.trim line) then none else some marker) rest
  | none, line :: rest => openFence marks (marks.fenceOf? line) rest

theorem openFence_append (marks : CodeMarks) (fence : Option Text) (before after : List Text) :
    openFence marks fence (before ++ after) =
      openFence marks (openFence marks fence before) after := by
  fun_induction openFence marks fence before with
  | case1 => rfl
  | case2 marker line rest inductionHypothesis =>
      rw [List.cons_append, openFence]
      exact inductionHypothesis
  | case3 line rest inductionHypothesis =>
      rw [List.cons_append, openFence]
      exact inductionHypothesis

theorem blockPieces_append (marks : CodeMarks) (fence : Option Text) (before after : List Text) :
    blockPieces marks fence (before ++ after) =
      blockPieces marks fence before ++
        blockPieces marks (openFence marks fence before) after := by
  fun_induction openFence marks fence before with
  | case1 fence => cases fence <;> rfl
  | case2 marker line rest inductionHypothesis =>
      rw [List.cons_append, blockPieces, blockPieces, inductionHypothesis, List.cons_append]
  | case3 line rest inductionHypothesis =>
      rw [List.cons_append, blockPieces, blockPieces]
      cases opened : marks.fenceOf? line with
      | some marker =>
          rw [opened] at inductionHypothesis
          simp only [inductionHypothesis, List.cons_append]
      | none =>
          rw [opened] at inductionHypothesis
          simp only [inductionHypothesis, List.append_assoc]

/-- A newline adds no place where a text occurs that has none. -/
theorem occurrences_newline {needle : Text} (inLine : .of '\n' ∉ needle) (position : Nat)
    (text : Text) :
    occurrences needle position (text ++ [.of '\n']) = occurrences needle position text := by
  have starts (text : Text) : needle.isPrefixOf (text ++ [.of '\n']) = needle.isPrefixOf text := by
    rw [Bool.eq_iff_iff, List.isPrefixOf_iff_prefix, List.isPrefixOf_iff_prefix]
    exact Text.isPrefix_nextLine inLine text []
  fun_induction occurrences needle position text with
  | case1 position =>
      have absent : ¬ (!needle.isEmpty && needle.isPrefixOf [.of '\n']) = true := by
        rw [show needle.isPrefixOf [.of '\n'] = needle.isPrefixOf [] from starts []]
        cases needle <;> simp
      rw [List.nil_append, occurrences, if_neg absent, occurrences]
  | case2 position letter rest found inductionHypothesis =>
      have fits : needle.length - 1 ≤ rest.length := by
        have := (List.isPrefixOf_iff_prefix.mp (Bool.and_eq_true_iff.mp found).2).length_le
        rw [List.length_cons] at this
        omega
      rw [List.cons_append, occurrences, ← List.cons_append, starts, if_pos found,
        List.drop_append_of_le_length fits, inductionHypothesis]
  | case3 position letter rest absent inductionHypothesis =>
      rw [List.cons_append, occurrences, ← List.cons_append, starts, if_neg absent,
        inductionHypothesis]

/-- The last piece between delimiters is literal, and grows with the line. -/
theorem pairedPieces_last {size cursor length : Nat} {places : List Nat}
    (spaced : Spaced size cursor length places) :
    ∃ pieces last, pairedPieces size cursor length places = pieces ++ [⟨.literal, last⟩] ∧
      pairedPieces size cursor (length + 1) places = pieces ++ [⟨.literal, last + 1⟩] := by
  fun_induction pairedPieces size cursor length places with
  | case1 cursor opening closing rest inductionHypothesis =>
      obtain ⟨pieces, last, before, after⟩ := inductionHypothesis spaced.2.2
      refine ⟨⟨.literal, opening - cursor⟩ :: ⟨.code, closing + size - opening⟩ :: pieces, last,
        ?_, ?_⟩
      · rw [before]
        rfl
      · rw [pairedPieces, after]
        rfl
  | case2 places cursor few =>
      have fits := spaced.le
      refine ⟨[], length - cursor, rfl, ?_⟩
      rw [pairedPieces]
      · rw [Nat.sub_add_comm fits]
        rfl
      · exact few

/-- A newline makes the last piece of a line longer, which is literal. -/
theorem linePieces_newline (delimiter : Text) (inLine : .of '\n' ∉ delimiter) (line : Text) :
    ∃ pieces last, linePieces delimiter line = pieces ++ [⟨.literal, last⟩] ∧
      linePieces delimiter (line ++ [.of '\n']) = pieces ++ [⟨.literal, last + 1⟩] := by
  have spaced := occurrences_spaced delimiter 0 line
  rw [Nat.zero_add] at spaced
  have length : (line ++ [Letter.of '\n']).length = line.length + 1 := List.length_append
  rw [linePieces, linePieces, occurrences_newline inLine, length]
  exact pairedPieces_last spaced

/-- The span in a document that has as many letters before it. -/
def moved (letters : Nat) (span : Span) : Span :=
  { span with
    start := span.start + letters
    stop := span.stop + letters }

/-- A span has the same letters if more follow in the document. -/
theorem textIn_append {span : Span} {first : Text} (within : span.stop ≤ first.length)
    (more : Text) : span.textIn (first ++ more) = span.textIn first := by
  rw [textIn, textIn, Text.slice, Text.slice, List.take_append_of_le_length within]

/-- A span that has moved has the same letters. -/
theorem textIn_moved (span : Span) (before text : Text) :
    (span.moved before.length).textIn (before ++ text) = span.textIn text := by
  have behind : (before ++ text).drop (span.start + before.length) = text.drop span.start := by
    rw [Nat.add_comm, List.drop_length_add_append]
  rw [textIn, textIn, Text.slice_eq_take, Text.slice_eq_take, moved, behind,
    Nat.add_sub_add_right]

/-- A span that reaches over the end of a paragraph has the letters up to there, the newline, and
letters of the next paragraph. -/
theorem textIn_nextLine (kind : SpanKind) {start : Nat} {first : Text}
    (bound : start ≤ first.length) (second : Text) (stop : Nat) :
    textIn ⟨kind, start, stop + (first.length + 1)⟩ (first ++ nextLine second) =
      textIn ⟨kind, start, first.length⟩ first ++
        nextLine (textIn ⟨kind, 0, stop⟩ second) := by
  have size : stop + (first.length + 1) - start = (first.drop start).length + (stop + 1) := by
    rw [List.length_drop]
    omega
  have all : (first.drop start).take (first.length - start) = first.drop start := by
    rw [← List.length_drop, List.take_length]
  simp only [textIn, Text.slice_eq_take, List.drop_append_of_le_length bound, size, all,
    List.take_length_add_append, nextLine, List.take_succ_cons, List.drop_zero, Nat.sub_zero]

/-- A span of a kind, unless it is empty. -/
def nonempty (kind : SpanKind) (start stop : Nat) : List Span :=
  if start < stop then [⟨kind, start, stop⟩] else []

theorem nonempty_of_lt (kind : SpanKind) {start stop : Nat} (some_ : start < stop) :
    nonempty kind start stop = [⟨kind, start, stop⟩] :=
  if_pos some_

theorem nonempty_self (kind : SpanKind) (start : Nat) : nonempty kind start start = [] :=
  if_neg (Nat.lt_irrefl start)

/-- Pieces that stand further on have spans further on. -/
theorem ofPieces_moved (current : Option Span) (position letters : Nat) (pieces : List Piece) :
    ofPieces (current.map (moved letters)) (position + letters) pieces =
      (ofPieces current position pieces).map (moved letters) := by
  induction pieces generalizing current position with
  | nil => cases current <;> rfl
  | cons piece rest inductionHypothesis =>
      have later (kind : SpanKind) (start : Nat) := inductionHypothesis
        (some ⟨kind, start, position + piece.size⟩) (position + piece.size)
      simp only [Option.map_some, moved, Nat.add_right_comm position piece.size letters] at later
      rw [ofPieces, ofPieces]
      split
      · exact inductionHypothesis current position
      · cases current with
        | none => exact later piece.kind position
        | some span =>
            simp only [Option.map_some, moved]
            split
            · exact later span.kind span.start
            · rw [later piece.kind position, List.map_cons]
              rfl

/-- A span in hand takes up the first span of what follows, if that is of its kind. The others are
the same, further on. -/
theorem ofPieces_some (kind : SpanKind) (position : Nat) (pieces : List Piece) :
    ∃ stop after, position ≤ stop ∧
      ofPieces none position pieces = nonempty kind position stop ++ after ∧
      ∀ start letters,
        ofPieces (some ⟨kind, start, position + letters⟩) (position + letters) pieces =
          ⟨kind, start, stop + letters⟩ :: after.map (moved letters) := by
  induction pieces generalizing position with
  | nil => exact ⟨position, [], Nat.le_refl _, by rw [nonempty_self]; rfl, fun _ _ => rfl⟩
  | cons piece rest inductionHypothesis =>
      simp only [ofPieces]
      by_cases empty : piece.size = 0
      · simp only [empty, if_true]
        exact inductionHypothesis position
      · simp only [empty, if_false]
        by_cases same : kind = piece.kind
        · obtain ⟨stop, after, behind, _, taken⟩ := inductionHypothesis (position + piece.size)
          refine ⟨stop, after, by omega, ?_, fun start letters => ?_⟩
          · have here := taken position 0
            simp only [Nat.add_zero, show moved 0 = id from rfl, List.map_id] at here
            rw [nonempty_of_lt kind (by omega), ← same, here]
            rfl
          · rw [if_pos same, Nat.add_right_comm, taken]
        · have others := ofPieces_moved (some ⟨piece.kind, position, position + piece.size⟩)
            (position + piece.size)
          refine ⟨position, ofPieces (some ⟨piece.kind, position, position + piece.size⟩)
            (position + piece.size) rest, Nat.le_refl _, ?_, fun start letters => ?_⟩
          · rw [nonempty_self]
            rfl
          · rw [if_neg same, ← others letters rest, Option.map_some, moved,
              Nat.add_right_comm position piece.size letters]

/-- An empty piece behind others has no span. -/
theorem ofPieces_empty (current : Option Span) (position : Nat) (pieces : List Piece)
    (kind : SpanKind) :
    ofPieces current position (pieces ++ [⟨kind, 0⟩]) = ofPieces current position pieces := by
  induction pieces generalizing current position with
  | nil => rfl
  | cons piece rest inductionHypothesis =>
      simp only [List.cons_append, ofPieces, inductionHypothesis]

/-- If the last piece grows by one letter and more pieces follow, then the last span grows and takes
up what follows. -/
theorem ofPieces_grown (current : Option Span) (position : Nat) (pieces : List Piece)
    (kind : SpanKind) (last : Nat) (more : List Piece)
    (ends : ∀ span, current = some span → span.start < position ∧ span.stop = position) :
    ∃ before start, start ≤ position + sizeOf pieces + last ∧
      ofPieces current position (pieces ++ [⟨kind, last⟩]) =
        before ++ nonempty kind start (position + sizeOf pieces + last) ∧
      ofPieces current position (pieces ++ ⟨kind, last + 1⟩ :: more) =
        before ++ ofPieces (some ⟨kind, start, position + sizeOf pieces + last + 1⟩)
          (position + sizeOf pieces + last + 1) more := by
  induction pieces generalizing current position with
  | nil =>
      simp only [List.nil_append, ofPieces, sizeOf_nil, Nat.add_zero, Nat.add_assoc]
      rw [if_neg (Nat.succ_ne_zero last)]
      cases current with
      | none =>
          refine ⟨[], position, Nat.le_add_right _ _, ?_, rfl⟩
          by_cases empty : last = 0
          · rw [if_pos empty, empty, Nat.add_zero, nonempty_self]
            rfl
          · rw [if_neg empty, nonempty_of_lt kind (by omega)]
            rfl
      | some span =>
          obtain ⟨begun, rfl⟩ := ends span rfl
          by_cases same : span.kind = kind
          · refine ⟨[], span.start, by omega, ?_, by simp only [← same]; rfl⟩
            rw [List.nil_append, nonempty_of_lt kind (by omega)]
            by_cases empty : last = 0
            · rw [if_pos empty, empty, ← same]
              rfl
            · simp only [if_neg empty, ← same]
              rfl
          · refine ⟨[span], span.stop, Nat.le_add_right _ _, ?_, by simp only [if_neg same]; rfl⟩
            by_cases empty : last = 0
            · rw [if_pos empty, empty, Nat.add_zero, nonempty_self]
              rfl
            · simp only [if_neg empty, if_neg same]
              rw [nonempty_of_lt kind (by omega)]
              rfl
  | cons piece rest inductionHypothesis =>
      simp only [List.cons_append, ofPieces, sizeOf_cons, ← Nat.add_assoc]
      by_cases empty : piece.size = 0
      · simp only [empty, if_true, Nat.add_zero]
        exact inductionHypothesis _ _ ends
      · simp only [empty, if_false]
        have begun (kind : SpanKind) {start : Nat} (earlier : start ≤ position) :=
          inductionHypothesis (some ⟨kind, start, position + piece.size⟩)
            (position + piece.size) fun span same => by
              cases same
              exact ⟨by simp only; omega, rfl⟩
        cases current with
        | none => exact begun piece.kind (Nat.le_refl _)
        | some span =>
            obtain ⟨earlier, _⟩ := ends span rfl
            by_cases same : span.kind = piece.kind
            · simp only [if_pos same]
              exact begun span.kind (Nat.le_of_lt earlier)
            · simp only [if_neg same]
              obtain ⟨before, start, bound, first, second⟩ := begun piece.kind (Nat.le_refl _)
              exact ⟨span :: before, start, bound, by rw [first]; rfl, by rw [second]; rfl⟩

section Standard

open CodeMarks (standard)

/-- A line of its own that only ends is literal. -/
theorem blockPieces_blank : blockPieces standard none [[.of '\n']] = [⟨.literal, 1⟩] := by
  with_unfolding_all rfl

theorem fenceOf_newline (marks : CodeMarks) (line : Text) :
    marks.fenceOf? (line ++ [.of '\n']) = marks.fenceOf? line := by
  rw [CodeMarks.fenceOf?, CodeMarks.fenceOf?, Text.trim_newline]

/-- A newline opens and closes no fence. -/
theorem openFence_newline {text : Text}
    (closed : openFence standard none (Text.lines text) = none) :
    openFence standard none (Text.lines (text ++ [.of '\n'])) = none := by
  rcases Text.lines_newline text with ⟨earlier, line, before, after⟩ | after
  · rw [before, openFence_append] at closed
    rw [after, openFence_append]
    cases fence : openFence standard none earlier with
    | none =>
        rw [fence] at closed
        simp only [openFence, fenceOf_newline] at closed ⊢
        exact closed
    | some marker =>
        rw [fence] at closed
        simp only [openFence, Text.trim_newline] at closed ⊢
        exact closed
  · rw [after, openFence_append, closed]
    with_unfolding_all rfl

/-- A newline behind a text makes its last piece longer, which may be empty. -/
theorem blockPieces_newline {text : Text}
    (closed : openFence standard none (Text.lines text) = none) :
    ∃ pieces kind last,
      blockPieces standard none (Text.lines (text ++ [.of '\n'])) = pieces ++ [⟨kind, last + 1⟩] ∧
      (blockPieces standard none (Text.lines text) = pieces ++ [⟨kind, last⟩] ∨
        last = 0 ∧ blockPieces standard none (Text.lines text) = pieces) := by
  rcases Text.lines_newline text with ⟨earlier, line, before, after⟩ | after
  · rw [before, openFence_append] at closed
    rw [before, after, blockPieces_append, blockPieces_append]
    cases fence : openFence standard none earlier with
    | some marker =>
        have length : (line ++ [Letter.of '\n']).length = line.length + 1 := List.length_append
        refine ⟨blockPieces standard none earlier, .code, line.length, ?_, Or.inl ?_⟩
        · rw [blockPieces, blockPieces, length]
        · rw [blockPieces, blockPieces]
    | none =>
        rw [fence, openFence, openFence] at closed
        obtain ⟨pieces, last, first, second⟩ :=
          linePieces_newline standard.delimiter (by decide) line
        refine ⟨blockPieces standard none earlier ++ pieces, .literal, last, ?_, Or.inl ?_⟩
        · simp only [blockPieces, fenceOf_newline, closed, second, List.append_nil,
            List.append_assoc]
        · simp only [blockPieces, closed, first, List.append_nil, List.append_assoc]
  · refine ⟨blockPieces standard none (Text.lines text), .literal, 0, ?_, Or.inr ⟨rfl, rfl⟩⟩
    rw [after, blockPieces_append, closed, blockPieces_blank]

/-- The spans of two paragraphs with a newline between them. The last span of the first and the
first span of the second, which may be empty, become one span with the newline. -/
theorem scan_nextLine {first : Text} (second : Text)
    (closed : openFence standard none (Text.lines first) = none) :
    ∃ before kind start stop after, start ≤ first.length ∧
      scan standard first = before ++ nonempty kind start first.length ∧
      scan standard second = nonempty kind 0 stop ++ after ∧
      scan standard (first ++ nextLine second) =
        before ++ ⟨kind, start, stop + (first.length + 1)⟩ ::
          after.map (moved (first.length + 1)) := by
  obtain ⟨pieces, kind, last, longer, shorter⟩ := blockPieces_newline closed
  let more := blockPieces standard none (Text.lines second)
  obtain ⟨before, start, bound, ended, grown⟩ := ofPieces_grown none 0 pieces kind last more
    fun span same => nomatch same
  obtain ⟨stop, after, _, begun, taken⟩ := ofPieces_some kind 0 more
  have size := sizeOf_blockPieces standard none (Text.lines (first ++ [.of '\n']))
  rw [longer, Text.flatten_lines, sizeOf_append, sizeOf_cons, sizeOf_nil, List.length_append,
    List.length_singleton] at size
  have whole : sizeOf pieces + last = first.length := by
    simp only at size
    omega
  rw [Nat.zero_add, whole] at bound ended grown
  have alone : scan standard first = ofPieces none 0 (pieces ++ [⟨kind, last⟩]) := by
    rw [scan]
    rcases shorter with same | ⟨empty, same⟩
    · rw [same]
    · rw [same, empty, ofPieces_empty]
  refine ⟨before, kind, start, stop, after, bound, alone.trans ended, begun, ?_⟩
  rw [scan, Text.lines_nextLine, blockPieces_append, openFence_newline closed, longer,
    List.append_assoc]
  apply grown.trans
  have joined := taken start (first.length + 1)
  rw [Nat.zero_add] at joined
  rw [joined]

end Standard

end Span
end Flourish
