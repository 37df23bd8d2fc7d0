/-
This file shows what a diagnostic points at. Main statement: the position of a letter names its line
and its column, the excerpt is a part of that line, and the mark on the last line of the diagnostic
stands under the letter.
-/

import Mathlib.Data.List.Infix
import Flourish.Diagnostic
import Flourish.Proofs.Expansion.Offset
import Flourish.Proofs.Expansion.Yield
import Flourish.Proofs.Text.Fields
import Flourish.Proofs.Text.Search

namespace Flourish

namespace Text

/-- There is one field more than there are separators. -/
theorem length_fields (separator : Letter) (text : Text) :
    (fields separator text).length = text.count separator + 1 := by
  induction text with
  | nil => rfl
  | cons letter rest inductionHypothesis =>
      rw [fields, List.count_cons]
      split
      · next same => simp [same, inductionHypothesis]
      · next other =>
          cases found : fields separator rest with
          | nil => exact absurd found (fields_ne_nil separator rest)
          | cons field others =>
              rw [found] at inductionHypothesis
              simpa [other] using inductionHypothesis

/-- The first field ends before the first separator. -/
theorem head?_fields (separator : Letter) (text : Text) :
    (fields separator text).head? = some (text.takeWhile (· ≠ separator)) := by
  induction text with
  | nil => rfl
  | cons letter rest inductionHypothesis =>
      rw [fields]
      split
      · next same => simp [same]
      · next other =>
          cases found : fields separator rest with
          | nil => exact absurd found (fields_ne_nil separator rest)
          | cons field others =>
              rw [found, List.head?_cons, Option.some.injEq] at inductionHypothesis
              simp [other, inductionHypothesis]

/-- The last field begins behind the last separator. -/
theorem getLast?_fields (separator : Letter) (text : Text) :
    (fields separator text).getLast? =
      some (text.reverse.takeWhile (· ≠ separator)).reverse := by
  by_cases member : separator ∈ text.reverse
  · obtain ⟨last, first, split, absent⟩ := List.eq_append_cons_of_mem member
    have whole : text = first.reverse ++ separator :: last.reverse := by
      rw [← List.reverse_reverse text, split]
      simp
    have run : text.reverse.takeWhile (· ≠ separator) = last := by
      rw [split]
      apply run_eq
      · intro letter within
        simpa using fun same : letter = separator => absent (same ▸ within)
      · simp
    have alone : separator ∉ last.reverse := by simpa using absent
    rw [run, whole, fields_append, fields_of_not_mem alone, List.getLast?_concat]
  · have run : (text.reverse ++ []).takeWhile (· ≠ separator) = text.reverse := by
      apply run_eq
      · intro letter within
        simpa using fun same : letter = separator => member (same ▸ within)
      · rfl
    rw [List.append_nil] at run
    rw [run, List.reverse_reverse, fields_of_not_mem (by simpa using member)]
    rfl

/-- A stretch of two words that stand behind each other, from within the first to within the
second. -/
theorem slice_words {earlier first second later : Text} {skipped kept : Nat}
    (inFirst : skipped ≤ first.length) (inSecond : kept ≤ second.length) :
    slice (earlier.length + skipped) (earlier.length + first.length + kept)
        (earlier ++ (first ++ second ++ later)) = first.drop skipped ++ second.take kept := by
  have front : (earlier ++ (first ++ second ++ later)).take (earlier.length + first.length + kept) =
      earlier ++ (first ++ second.take kept) := by
    rw [List.append_assoc, Nat.add_assoc, List.take_length_add_append, List.take_length_add_append,
      List.take_append_of_le_length inSecond]
  rw [slice, front, List.drop_length_add_append, List.drop_append_of_le_length inFirst]

end Text

variable {source : Text} {place : Nat}

/-- The line on which a place is. -/
def lineAt (source : Text) (place : Nat) : Text :=
  beforeOnLine source place ++ Lexeme.untilNewline (source.drop place)

/-- The lines before a place are as many as the newlines before it. -/
theorem getElem?_fields_lineAt (source : Text) (place : Nat) :
    (Text.fields '\n' source)[(source.take place).count (.of '\n')]? =
      some (lineAt source place) := by
  obtain ⟨before, last, first⟩ :=
    (List.eq_nil_or_concat' (Text.fields '\n' (source.take place))).resolve_left
      (Text.fields_ne_nil _ _)
  obtain ⟨line, others, later⟩ :=
    List.exists_cons_of_ne_nil (Text.fields_ne_nil '\n' (source.drop place))
  have size : before.length = (source.take place).count (.of '\n') := by
    have total := Text.length_fields '\n' (source.take place)
    rw [first, List.length_append, List.length_singleton] at total
    omega
  have ends : last = beforeOnLine source place := by
    have found := Text.getLast?_fields '\n' (source.take place)
    rwa [first, List.getLast?_concat, Option.some.injEq] at found
  have begins : line = Lexeme.untilNewline (source.drop place) := by
    have found := Text.head?_fields '\n' (source.drop place)
    rwa [later, List.head?_cons, Option.some.injEq] at found
  rw [Text.fields_eq_splitOn] at first later
  have whole := splitOn_append first later
  rw [List.take_append_drop, ← Text.fields_eq_splitOn] at whole
  rw [whole, ← size, List.getElem?_append_right (Nat.le_refl _), Nat.sub_self, lineAt, ends, begins]
  rfl

/-- A text is the lines before that of a place, that line, and what follows. -/
theorem exists_around_lineAt (fits : place ≤ source.length) :
    ∃ earlier later, source = earlier ++ (lineAt source place ++ later) ∧
      earlier.length + (beforeOnLine source place).length = place := by
  have ends : beforeOnLine source place <:+ source.take place :=
    List.reverse_prefix.mp (by
      rw [beforeOnLine, List.reverse_reverse]
      exact List.takeWhile_prefix _)
  have begins : Lexeme.untilNewline (source.drop place) <+: source.drop place :=
    List.takeWhile_prefix _
  obtain ⟨earlier, before⟩ := ends
  obtain ⟨later, behind⟩ := begins
  refine ⟨earlier, later, ?_, ?_⟩
  · rw [lineAt, List.append_assoc, behind, ← List.append_assoc, before, List.take_append_drop]
  · rw [← List.length_append, before, List.length_take_of_le fits]

/-- The letter at a place stands on its line behind the letters before it. -/
theorem getElem?_lineAt {letter : Letter} (here : source[place]? = some letter)
    (other : letter ≠ '\n') :
    (lineAt source place)[(beforeOnLine source place).length]? = some letter := by
  obtain ⟨within, same⟩ := List.getElem?_eq_some_iff.mp here
  rw [lineAt, List.getElem?_append_right (Nat.le_refl _), Nat.sub_self,
    List.drop_eq_getElem_cons within, same, Lexeme.untilNewline,
    List.takeWhile_cons_of_pos (by simpa using other)]
  rfl

theorem newline_not_mem_lineAt : .of '\n' ∉ lineAt source place :=
  Text.not_mem_of_mem_fields (List.mem_of_getElem? (getElem?_fields_lineAt source place))

/-- The letters before a later place on the same line go on from those before an earlier one. -/
theorem length_beforeOnLine_add {more : Nat} (fits : place + more ≤ source.length)
    (same : (source.take (place + more)).count (.of '\n') = (source.take place).count (.of '\n')) :
    (beforeOnLine source (place + more)).length = (beforeOnLine source place).length + more := by
  rw [List.take_add, List.count_append] at same
  have absent : .of '\n' ∉ ((source.drop place).take more).reverse := by
    rw [List.mem_reverse, ← List.count_eq_zero]
    omega
  have between : ∀ letter ∈ ((source.drop place).take more).reverse, decide (letter ≠ '\n') := by
    intro letter member
    simpa using fun newline : letter = '\n' => absent (newline ▸ member)
  simp only [beforeOnLine, List.take_add, List.reverse_append, List.takeWhile_append_of_pos between,
    List.length_append, List.length_reverse, List.length_take, List.length_drop]
  omega

namespace Position

theorem ofOffset_eq (fits : place ≤ source.length) :
    ofOffset source place =
      ⟨(source.take place).count (.of '\n') + 1, (beforeOnLine source place).length + 1⟩ := by
  simp only [ofOffset, Int.toNat_natCast, Nat.min_eq_left fits]

/-- Two places of a text have different positions. -/
theorem ofOffset_injective {other : Nat} (fits : place ≤ source.length)
    (otherFits : other ≤ source.length) (same : ofOffset source place = ofOffset source other) :
    place = other := by
  rw [ofOffset_eq fits, ofOffset_eq otherFits, Position.mk.injEq] at same
  rcases Nat.le_total place other with before | behind
  · obtain ⟨more, rfl⟩ := Nat.exists_eq_add_of_le before
    have longer := length_beforeOnLine_add otherFits (by omega)
    omega
  · obtain ⟨more, rfl⟩ := Nat.exists_eq_add_of_le behind
    have longer := length_beforeOnLine_add fits (by omega)
    omega

end Position

namespace Excerpt

variable {radius : Nat}

/-- An excerpt is the end of the letters before its place and the front of those behind it. -/
theorem around_eq (fits : place ≤ source.length) :
    around source place radius =
      ⟨(beforeOnLine source place).drop ((beforeOnLine source place).length - radius) ++
          (Lexeme.untilNewline (source.drop place)).take radius,
        (min (beforeOnLine source place).length radius : Nat)⟩ := by
  obtain ⟨earlier, later, whole, start⟩ := exists_around_lineAt fits
  have size := congrArg List.length whole
  have here : placeOf source.length place = place := by
    rw [placeOf, if_neg (by omega), Int.toNat_natCast, Nat.min_eq_left fits]
  simp only [around, here]
  rw [lineAt] at whole size
  generalize beforeOnLine source place = before at *
  generalize Lexeme.untilNewline (source.drop place) = behind at *
  simp only [List.length_append] at size
  have first : (max ((place - before.length : Nat) : Int) (place - radius)).toNat =
      earlier.length + (before.length - radius) := by omega
  have stop : placeOf source.length (min ((place + behind.length : Nat) : Int) (place + radius)) =
      earlier.length + before.length + min radius behind.length := by
    rw [placeOf, if_neg (by omega)]
    omega
  have caret : (place : Int) - max ((place - before.length : Nat) : Int) (place - radius) =
      (min before.length radius : Nat) := by omega
  rw [first, stop, caret, whole,
    Text.slice_words (Nat.sub_le _ _) (Nat.min_le_right _ _), ← List.take_eq_take_min]

/-- An excerpt is a part of the line of its place. -/
theorem around_isInfix (fits : place ≤ source.length) :
    (around source place radius).text <:+: lineAt source place := by
  rw [around_eq fits, lineAt]
  refine ⟨(beforeOnLine source place).take ((beforeOnLine source place).length - radius),
    (Lexeme.untilNewline (source.drop place)).drop radius, ?_⟩
  rw [← List.append_assoc, List.take_append_drop, List.append_assoc, List.take_append_drop]

theorem newline_not_mem_around (radius : Nat) (fits : place ≤ source.length) :
    .of '\n' ∉ (around source place radius).text :=
  fun member => newline_not_mem_lineAt ((around_isInfix fits).mem member)

theorem length_around_le (fits : place ≤ source.length) :
    (around source place radius).text.length ≤ 2 * radius := by
  simp only [around_eq fits, List.length_append, List.length_drop, List.length_take]
  omega

/-- The caret of an excerpt shows its place, and what follows the place on its line follows. -/
theorem isPrefix_drop_around {letters : Text} (fits : place ≤ source.length)
    (here : letters <+: source.drop place) (plain : .of '\n' ∉ letters)
    (short : letters.length ≤ radius) :
    letters <+: (around source place radius).text.drop
      (around source place radius).caret.toNat := by
  have onLine : letters <+: Lexeme.untilNewline (source.drop place) := by
    obtain ⟨rest, same⟩ := here
    rw [← same, Lexeme.untilNewline, List.takeWhile_append_of_pos]
    · exact List.prefix_append _ _
    · intro letter member
      simpa using fun newline : letter = '\n' => plain (newline ▸ member)
  simp only [around_eq fits, Int.toNat_natCast]
  rw [List.drop_left' (by rw [List.length_drop]; omega), List.prefix_take_iff]
  exact ⟨onLine, short⟩

end Excerpt

namespace Failure

/-- The mark on the last line of a diagnostic stands under the first of these letters, which are on
the line before it. -/
def Marks (diagnostic letters : Text) : Prop :=
  ∃ earlier shown column,
    Text.fields '\n' diagnostic = earlier ++ [shown, List.replicate column (.of ' ') ++ [.of '^']] ∧
      letters <+: shown.drop column

variable {failure : Failure}

/-- The mark of the last two lines stands under the letters at its column. -/
theorem marks_of_lines {first shown letters : Text} {column : Nat}
    (shownPlain : .of '\n' ∉ shown) (here : letters <+: shown.drop column) :
    Marks
      (first ++ .of '\n' :: (shown ++ .of '\n' :: (List.replicate column (.of ' ') ++ [.of '^'])))
      letters := by
  have markedPlain : Letter.of '\n' ∉ List.replicate column (Letter.of ' ') ++ [.of '^'] := by simp
  refine ⟨Text.fields '\n' first, shown, column, ?_, here⟩
  rw [Text.fields_append, Text.fields_append, Text.fields_of_not_mem shownPlain,
    Text.fields_of_not_mem markedPlain]
  rfl

/-- A diagnostic marks one letter. -/
theorem Marks.eq_of_marks {diagnostic : Text} {first second : Letter}
    (marks : Marks diagnostic [first]) (also : Marks diagnostic [second]) : first = second := by
  obtain ⟨earlier, shown, column, lines, here⟩ := marks
  obtain ⟨others, row, place, rows, there⟩ := also
  rw [lines] at rows
  obtain ⟨_, same⟩ := List.append_inj' rows rfl
  obtain ⟨sameRow, sameMark⟩ := List.cons.inj same
  have columns : column = place := by
    have sizes := congrArg List.length (List.cons.inj sameMark).1
    simpa using sizes
  subst sameRow columns
  obtain ⟨_, behind⟩ := here
  obtain ⟨_, ahead⟩ := there
  rw [← behind] at ahead
  exact (List.cons.inj ahead).1.symm

theorem newline_not_mem_contextLabel : .of '\n' ∉ contextLabel := by
  decide

/-- The letters of a diagnostic before its last two lines. -/
def diagnosticFront (failure : Failure) (position : Position) : Text :=
  wording [failure.message, "\nLine ", Text.ofNat position.line, ", column ",
    Text.ofNat position.column]

/-- The lines of a diagnostic, in any format. -/
theorem diagnosticBy_lines {format : List Lexeme → Text} {offset : Int}
    (placed : failure.offset = some offset) (shade : Bool) :
    let excerpt := Excerpt.around source offset Excerpt.standardRadius
    let shown := if shade then Highlight.coloredBy format excerpt.text else excerpt.text
    failure.diagnosticBy format source shade =
      failure.diagnosticFront (Position.ofOffset source offset) ++ .of '\n' ::
        (contextLabel ++ (shown ++ ("..." : Text)) ++ .of '\n' ::
          (List.replicate (contextLabel.length + excerpt.caret).toNat (.of ' ') ++ [.of '^'])) := by
  simp only [diagnosticBy, placed, wording, diagnosticFront]
  simp

/-- The mark stands under the place of a failure. -/
theorem diagnostic_marks {letters : Text} (placed : failure.offset = some (place : Int))
    (fits : place ≤ source.length) (here : letters <+: source.drop place)
    (plain : .of '\n' ∉ letters) (short : letters.length ≤ Excerpt.standardRadius) :
    Marks (failure.diagnostic source false) letters := by
  have under := Excerpt.isPrefix_drop_around fits here plain short
  have absent := Excerpt.newline_not_mem_around Excerpt.standardRadius fits
  have caret : 0 ≤ (Excerpt.around source place Excerpt.standardRadius).caret := by
    rw [Excerpt.around_eq fits]
    exact Int.natCast_nonneg _
  rw [diagnostic, diagnosticBy_lines placed]
  simp only [Bool.false_eq_true, if_false]
  generalize Excerpt.around source place Excerpt.standardRadius = excerpt at *
  have column : ((contextLabel.length : Int) + excerpt.caret).toNat =
      contextLabel.length + excerpt.caret.toNat := by omega
  rw [column]
  apply marks_of_lines
  · simp only [List.mem_append, not_or]
    exact ⟨newline_not_mem_contextLabel, absent, by decide⟩
  · rw [List.drop_length_add_append]
    exact under.trans ((List.prefix_append _ _).drop _)

end Failure

namespace Processor

open Machine

/-- A document that is refused is refused at two braces. -/
theorem exists_braces_of_process {processor : Processor} {failure : Failure}
    (plain : processor.Plain)
    (failed : (processor.process source).result = .error (.failure failure)) :
    ∃ offset : Nat, failure.offset = some (offset : Int) ∧
      [.of '{', .of '{'] <+: source.drop offset := by
  obtain ⟨span, _, _, run, failed⟩ := span_of_process_error failed
  obtain ⟨last, ending, reached, stopped⟩ := stopped_of_finish_error failed
  obtain ⟨outer, earlier, alone, dispatching⟩ := dispatching_of_reaches rfl reached
  have root := root_of_alone earlier alone
  have mapped := mapped_of_reaches earlier outer.top List.mem_cons_self
  have blamed : ∃ offset : Nat, failure.offset = some (offset : Int) ∧
      Blamed source span outer offset := by
    rcases within_of_dispatching earlier alone dispatching with rfl | ⟨_, _, _, within⟩
    · exact blamed_of_root plain root mapped stopped
    · exact blamed_of_nested plain root mapped within stopped
  obtain ⟨offset, placed, blamed⟩ := blamed
  exact ⟨offset, placed, blamed.braces⟩

end Processor

/-- The position of a letter is its line and its column and that of no other place, the excerpt is a
part of its line with the caret at it, and the mark of a diagnostic stands under it. A document that
is refused is marked at two braces. -/
theorem Failure.diagnostic_points (source : Text) :
    (∀ (place : Nat) (letter : Letter), source[place]? = some letter → letter ≠ '\n' →
      ∃ earlier column row,
        Position.ofOffset source place = ⟨earlier + 1, column + 1⟩ ∧
        earlier = (source.take place).count (.of '\n') ∧
        (Text.fields '\n' source)[earlier]? = some row ∧ row[column]? = some letter ∧
        (∀ other ≤ source.length,
          Position.ofOffset source other = ⟨earlier + 1, column + 1⟩ → other = place) ∧
        let excerpt := Excerpt.around source place Excerpt.standardRadius
        excerpt.text <:+: row ∧ excerpt.text.length ≤ 80 ∧
        excerpt.caret = (min column 40 : Nat) ∧ excerpt.text[min column 40]? = some letter ∧
        ∀ failure : Failure, failure.offset = some (place : Int) →
          Marks (failure.diagnostic source false) [letter]) ∧
    ∀ (processor : Processor) (failure : Failure), processor.Plain →
      (processor.process source).result = .error (.failure failure) →
        ∃ place : Nat, failure.offset = some (place : Int) ∧
          [.of '{', .of '{'] <+: source.drop place ∧
          Marks (failure.diagnostic source false) [.of '{', .of '{'] := by
  constructor
  · intro place letter here other
    obtain ⟨within, same⟩ := List.getElem?_eq_some_iff.mp here
    have fits := Nat.le_of_lt within
    have front : [letter] <+: source.drop place := by
      rw [List.drop_eq_getElem_cons within, same]
      exact ⟨_, rfl⟩
    have newline : .of '\n' ∉ [letter] := by simpa using fun equal => other equal.symm
    have short : [letter].length ≤ Excerpt.standardRadius := by
      rw [List.length_singleton]
      decide
    have caret : (Excerpt.around source place Excerpt.standardRadius).caret =
        (min (beforeOnLine source place).length 40 : Nat) := by
      rw [Excerpt.around_eq fits]
      rfl
    have under := Excerpt.isPrefix_drop_around fits front newline short
    rw [caret, Int.toNat_natCast] at under
    refine ⟨(source.take place).count (.of '\n'), (beforeOnLine source place).length,
      lineAt source place, Position.ofOffset_eq fits, rfl, getElem?_fields_lineAt source place,
      getElem?_lineAt here other, ?_, Excerpt.around_isInfix fits, Excerpt.length_around_le fits,
      caret, ?_, ?_⟩
    · intro another anotherFits equal
      rw [← Position.ofOffset_eq fits] at equal
      exact Position.ofOffset_injective anotherFits fits equal
    · exact Text.getElem?_of_isPrefix under Nat.zero_lt_one
    · intro failure placed
      exact diagnostic_marks placed fits front newline short
  · intro processor failure plain failed
    obtain ⟨place, placed, braces⟩ := Processor.exists_braces_of_process plain failed
    have fits := braces.length_le
    simp only [List.length_cons, List.length_nil, List.length_drop] at fits
    exact ⟨place, placed, braces,
      diagnostic_marks placed (by omega) braces (by decide) (by decide)⟩

theorem Failure.diagnostic_points_strayCloser :
    let failure := (Cause.mismatchedCloser none "a").placed 11
    (∃ earlier column, Position.ofOffset Processor.strayCloser (11 : Nat) =
        ⟨earlier + 1, column + 1⟩ ∧ earlier = 0 ∧
      ∀ other ≤ Processor.strayCloser.length,
        Position.ofOffset Processor.strayCloser other = ⟨earlier + 1, column + 1⟩ → other = 11) ∧
    ∃ place : Nat, failure.offset = some (place : Int) ∧
      [.of '{', .of '{'] <+: Processor.strayCloser.drop place ∧
      Marks (failure.diagnostic Processor.strayCloser false) [.of '{', .of '{'] := by
  obtain ⟨letters, documents⟩ := diagnostic_points Processor.strayCloser
  obtain ⟨earlier, column, row, position, count, _, _, alone, _⟩ :=
    letters 11 '{' (by decide) (by decide)
  exact ⟨⟨earlier, column, position, count, alone⟩,
    documents Processor.framing _ Processor.framing_plain Processor.process_strayCloser⟩

/-- A backend that says itself where a drawing stands can point anywhere. -/
theorem Failure.diagnostic_pointing :
    let source := [.of 'x', .of 'y', .of ' '] ++ Processor.blackHead.written
    let failure := (Cause.stated "no").placed 1
    ((Processor.pointing 1).process source).result = .error (.failure failure) ∧
      Marks (failure.diagnostic source false) [.of 'y'] ∧
      ¬ Marks (failure.diagnostic source false) [.of '{'] := by
  intro source failure
  have stopped : (Processor.pointing 1).yield source = ⟨.error (.failure failure), [], 0⟩ :=
    Processor.yield_blackHead (by decide) (by with_unfolding_all rfl) (by decide)
  have marked : Marks (failure.diagnostic source false) [.of 'y'] :=
    diagnostic_marks rfl (by decide) (by decide) (by decide) (by decide)
  refine ⟨?_, marked, fun also => absurd (marked.eq_of_marks also) (by decide)⟩
  rw [Processor.process_yield, stopped]
  rfl

end Flourish
