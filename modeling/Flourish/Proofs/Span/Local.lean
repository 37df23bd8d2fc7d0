/-
This file says how the scan of a document depends on its lines. Main statement: whole lines at the
front of a document have the kinds that they have alone, and what comes behind them has the kinds
that it has alone or those that an open fence gives it.
-/

import Flourish.Proofs.Span.Classify

namespace Flourish

namespace Text

/-- A text without an unfinished last line. -/
def EndsLine (text : Text) : Prop :=
  text = [] ∨ text.getLast? = some (.of '\n')

/-- Two texts have the lines of both if the first has no unfinished line. -/
theorem lines_append {first : Text} (whole : EndsLine first) (second : Text) :
    lines (first ++ second) = lines first ++ lines second := by
  rcases whole with rfl | newline
  · rfl
  · obtain ⟨text, rfl⟩ := List.getLast?_eq_some_iff.mp newline
    rw [List.append_assoc]
    exact lines_nextLine text second

/-- The lines behind the first line of a text are those of the text that they make up. -/
theorem lines_tail {text line : Text} {others : List Text} (shown : lines text = line :: others) :
    lines others.flatten = others := by
  induction text generalizing line others with
  | nil => cases shown
  | cons letter rest inductionHypothesis =>
      rw [lines] at shown
      split at shown
      · cases shown
        rw [flatten_lines]
      · split at shown
        · cases shown
          rfl
        · next _ _ later =>
            cases shown
            exact inductionHypothesis later

theorem lines_flatten {text : Text} {before after : List Text}
    (shown : lines text = before ++ after) : lines after.flatten = after := by
  induction before generalizing text with
  | nil =>
      rw [List.nil_append] at shown
      rw [← shown, flatten_lines]
  | cons line others inductionHypothesis => exact inductionHypothesis (lines_tail shown)

end Text

namespace Span

/-- The kind of the span in which a position lies. -/
def kindAt? (spans : List Span) (position : Nat) : Option SpanKind :=
  (spans.find? fun span => span.start ≤ position && position < span.stop).map Span.kind

/-- One span, and no other, holds a position that spans without gap or overlap reach. -/
theorem Tiles.kindAt {start stop position : Nat} {spans : List Span}
    (tiles : Tiles start stop spans) (behind : start ≤ position) (ahead : position < stop) :
    ∃ span ∈ spans, span.start ≤ position ∧ position < span.stop ∧
      kindAt? spans position = some span.kind ∧
      ∀ other ∈ spans, other.start ≤ position → position < other.stop → other = span := by
  induction spans generalizing start with
  | nil =>
      have : start = stop := tiles
      omega
  | cons first rest inductionHypothesis =>
      obtain ⟨rfl, nonempty, others⟩ := tiles
      by_cases here : position < first.stop
      · refine ⟨first, List.mem_cons_self, behind, here, by simp [kindAt?, behind, here], ?_⟩
        intro other member begins ends
        rcases List.mem_cons.mp member with rfl | later
        · rfl
        · have := others.le_start later
          omega
      · obtain ⟨span, member, begins, ends, kind, alone⟩ := inductionHypothesis others (by omega)
        refine ⟨span, List.mem_cons_of_mem _ member, begins, ends, ?_, ?_⟩
        · rw [← kind]
          simp [kindAt?, here]
        · intro other member begins ends
          rcases List.mem_cons.mp member with rfl | later
          · exact absurd ends here
          · exact alone other later begins ends

/-- A position of a document is code or literal text. -/
theorem kindAt_scan (marks : CodeMarks) {document : Text} {position : Nat}
    (inside : position < document.length) :
    InCode (scan marks document) position ∧
        kindAt? (scan marks document) position = some .code ∨
      ¬ InCode (scan marks document) position ∧
        kindAt? (scan marks document) position = some .literal := by
  obtain ⟨span, member, begins, ends, kind, alone⟩ :=
    (scan_tiles marks document).kindAt (Nat.zero_le position) inside
  rcases scan_kind member with literal | code
  · refine Or.inr ⟨?_, by rw [kind, literal]⟩
    rintro ⟨other, otherMember, code, otherBegins, otherEnds⟩
    rw [alone other otherMember otherBegins otherEnds, literal] at code
    cases code
  · exact Or.inl ⟨⟨span, member, code, begins, ends⟩, by rw [kind, code]⟩

theorem kindAt_code {marks : CodeMarks} {document : Text} {position : Nat}
    (inside : position < document.length) (code : InCode (scan marks document) position) :
    kindAt? (scan marks document) position = some .code := by
  rcases kindAt_scan marks inside with ⟨_, kind⟩ | ⟨literal, _⟩
  · exact kind
  · exact absurd code literal

/-- Positions of two documents are of one kind if they are code alike. -/
theorem kindAt_congr {marks : CodeMarks} {document other : Text} {position place : Nat}
    (inside : position < document.length) (otherInside : place < other.length)
    (same : InCode (scan marks document) position ↔ InCode (scan marks other) place) :
    kindAt? (scan marks document) position = kindAt? (scan marks other) place := by
  rcases kindAt_scan marks inside with ⟨code, kind⟩ | ⟨literal, kind⟩
  · rw [kind, kindAt_code otherInside (same.mp code)]
  · rcases kindAt_scan marks otherInside with ⟨code, _⟩ | ⟨_, otherKind⟩
    · exact absurd (same.mpr code) literal
    · rw [kind, otherKind]

theorem inCode_scan_pieces (marks : CodeMarks) (document : Text) (position : Nat) :
    InCode (scan marks document) position ↔
      CodeAt (blockPieces marks none (Text.lines document)) position := by
  have fresh : ∀ span, (none : Option Span) = some span → span.start ≤ 0 ∧ span.stop = 0 :=
    fun span same => nomatch same
  simp [scan, inCode_ofPieces none 0 _ fresh]

section Joined

variable {marks : CodeMarks} {first second : Text}

/-- What follows whole lines does not touch them. -/
theorem inCode_before (whole : Text.EndsLine first) {position : Nat}
    (inside : position < first.length) :
    InCode (scan marks (first ++ second)) position ↔ InCode (scan marks first) position := by
  rw [inCode_scan_pieces, inCode_scan_pieces, Text.lines_append whole, blockPieces_append,
    codeAt_append, sizeOf_blockPieces, Text.flatten_lines]
  constructor
  · rintro (code | ⟨behind, _⟩)
    · exact code
    · omega
  · exact Or.inl

/-- What comes behind whole lines depends on them by the fence that they leave open. -/
theorem inCode_behind (whole : Text.EndsLine first) (position : Nat) :
    InCode (scan marks (first ++ second)) (first.length + position) ↔
      CodeAt (blockPieces marks (openFence marks none (Text.lines first)) (Text.lines second))
        position := by
  have size := sizeOf_blockPieces marks none (Text.lines first)
  rw [Text.flatten_lines] at size
  rw [inCode_scan_pieces, Text.lines_append whole, blockPieces_append, codeAt_append, size,
    Nat.add_sub_cancel_left]
  constructor
  · rintro (code | ⟨_, code⟩)
    · have := code.lt_sizeOf
      omega
    · exact code
  · exact fun code => Or.inr ⟨Nat.le_add_right _ _, code⟩

/-- The kinds behind whole lines are the same behind others that leave the same fence open. -/
theorem kindAt_behind {other : Text} (whole : Text.EndsLine first)
    (otherWhole : Text.EndsLine other)
    (same : openFence marks none (Text.lines first) = openFence marks none (Text.lines other))
    {position : Nat} (inside : position < second.length) :
    kindAt? (scan marks (first ++ second)) (first.length + position) =
      kindAt? (scan marks (other ++ second)) (other.length + position) := by
  apply kindAt_congr
  · rw [List.length_append]
    omega
  · rw [List.length_append]
    omega
  · rw [inCode_behind whole, inCode_behind otherWhole, same]

end Joined

/-- A place among pieces of code is code. -/
theorem codeAt_of_code {pieces : List Piece} (all : ∀ piece ∈ pieces, piece.kind = .code)
    {place : Nat} (inside : place < sizeOf pieces) : CodeAt pieces place := by
  induction pieces generalizing place with
  | nil => cases inside
  | cons piece rest inductionHypothesis =>
      obtain ⟨here, others⟩ := List.forall_mem_cons.mp all
      rw [sizeOf_cons] at inside
      by_cases within : place < piece.size
      · exact Or.inl ⟨within, here⟩
      · exact Or.inr ⟨by omega, inductionHypothesis others (by omega)⟩

/-- Lines that do not begin with the marker of an open fence are code. -/
theorem blockPieces_inside {marks : CodeMarks} {marker : Text} {inner : List Text}
    (plain : ∀ line ∈ inner, ¬ marker <+: Text.trim line) :
    ∀ piece ∈ blockPieces marks (some marker) inner, piece.kind = .code := by
  induction inner with
  | nil => exact fun piece member => nomatch member
  | cons line rest inductionHypothesis =>
      obtain ⟨here, others⟩ := List.forall_mem_cons.mp plain
      rw [blockPieces, if_neg (by rwa [List.isPrefixOf_iff_prefix])]
      exact List.forall_mem_cons.mpr ⟨rfl, inductionHypothesis others⟩

/-- The lines of a fence up to the one that closes it are code, and the lines behind are scanned
outside fences. -/
theorem blockPieces_closing (marks : CodeMarks) {marker closing : Text} {inner : List Text}
    (plain : ∀ line ∈ inner, ¬ marker <+: Text.trim line) (closes : marker <+: Text.trim closing)
    (rest : List Text) :
    ∃ fenced, (∀ piece ∈ fenced, piece.kind = .code) ∧
      sizeOf fenced = (inner.flatten ++ closing).length ∧
      blockPieces marks (some marker) (inner ++ closing :: rest) =
        fenced ++ blockPieces marks none rest := by
  refine ⟨blockPieces marks (some marker) inner ++ [⟨.code, closing.length⟩], ?_, ?_, ?_⟩
  · intro piece member
    rcases List.mem_append.mp member with inside | last
    · exact blockPieces_inside plain piece inside
    · rw [List.mem_singleton.mp last]
  · simp [sizeOf_blockPieces]
  · rw [blockPieces_append, openFence_inside plain, blockPieces,
      if_pos (List.isPrefixOf_iff_prefix.mpr closes), List.append_assoc]
    rfl

section Fenced

variable {marks : CodeMarks} {first second marker : Text}

/-- Behind whole lines that leave a fence open, the letters of its pieces are code. -/
theorem kindAt_fenced (whole : Text.EndsLine first)
    (opened : openFence marks none (Text.lines first) = some marker) {pieces more : List Piece}
    (divided : blockPieces marks (some marker) (Text.lines second) = pieces ++ more)
    (all : ∀ piece ∈ pieces, piece.kind = .code) {position : Nat}
    (inside : position < sizeOf pieces) :
    kindAt? (scan marks (first ++ second)) (first.length + position) = some .code := by
  have size := sizeOf_blockPieces marks (some marker) (Text.lines second)
  rw [divided, Text.flatten_lines, sizeOf_append] at size
  apply kindAt_code
  · rw [List.length_append]
    omega
  · rw [inCode_behind whole, opened, divided, codeAt_append]
    exact Or.inl (codeAt_of_code all inside)

/-- Behind the line that closes an open fence, the kinds are those that the rest has alone. -/
theorem kindAt_closed (whole : Text.EndsLine first)
    (opened : openFence marks none (Text.lines first) = some marker) {pieces : List Piece}
    {before rest : List Text} (shown : Text.lines second = before ++ rest)
    (divided : blockPieces marks (some marker) (Text.lines second) =
      pieces ++ blockPieces marks none rest) {position : Nat}
    (inside : position < rest.flatten.length) :
    kindAt? (scan marks (first ++ second)) (first.length + (sizeOf pieces + position)) =
      kindAt? (scan marks rest.flatten) position := by
  have size := sizeOf_blockPieces marks (some marker) (Text.lines second)
  rw [divided, Text.flatten_lines, sizeOf_append, sizeOf_blockPieces] at size
  apply kindAt_congr _ inside
  · rw [inCode_behind whole, opened, divided, codeAt_append, inCode_scan_pieces,
      Text.lines_flatten shown, Nat.add_sub_cancel_left]
    constructor
    · rintro (early | ⟨_, later⟩)
      · have := early.lt_sizeOf
        omega
      · exact later
    · exact fun later => Or.inr ⟨Nat.le_add_right _ _, later⟩
  · rw [List.length_append]
    omega

end Fenced

/-- The kinds in a document of whole lines and what comes behind them. The lines have the kinds that
they have alone. What comes behind has the kinds that it has alone if no fence is open there. If one
is open, then it is code up to the first line that begins with the marker of the fence, with that
line, and has behind it the kinds that the rest has alone. So an edit leaves the kinds of earlier
lines as they are, and those of later lines too if the open fence is the same. -/
theorem scan_local (marks : CodeMarks) {first : Text} (whole : Text.EndsLine first)
    (second : Text) :
    let spans := scan marks (first ++ second)
    let opened := openFence marks none (Text.lines first)
    (∀ position < (first ++ second).length,
      kindAt? spans position = some .literal ∨ kindAt? spans position = some .code) ∧
    (∀ position < first.length, kindAt? spans position = kindAt? (scan marks first) position) ∧
    (opened = none → ∀ position < second.length,
      kindAt? spans (first.length + position) = kindAt? (scan marks second) position) ∧
    (∀ marker, opened = some marker →
      ((∀ line ∈ Text.lines second, ¬ marker <+: Text.trim line) →
        ∀ position < second.length, kindAt? spans (first.length + position) = some .code) ∧
      ∀ inner closing rest, Text.lines second = inner ++ closing :: rest →
        (∀ line ∈ inner, ¬ marker <+: Text.trim line) → marker <+: Text.trim closing →
        let fenced := (inner.flatten ++ closing).length
        (∀ position < fenced, kindAt? spans (first.length + position) = some .code) ∧
        ∀ position < rest.flatten.length,
          kindAt? spans (first.length + (fenced + position)) =
            kindAt? (scan marks rest.flatten) position) ∧
    (∀ later, ∀ position < first.length,
      kindAt? spans position = kindAt? (scan marks (first ++ later)) position) ∧
    ∀ earlier, Text.EndsLine earlier → openFence marks none (Text.lines earlier) = opened →
      ∀ position < second.length,
        kindAt? spans (first.length + position) =
          kindAt? (scan marks (earlier ++ second)) (earlier.length + position) := by
  intro spans opened
  have before (later : Text) : ∀ position < first.length,
      kindAt? (scan marks (first ++ later)) position = kindAt? (scan marks first) position := by
    intro position inside
    apply kindAt_congr _ inside (inCode_before whole inside)
    rw [List.length_append]
    omega
  refine ⟨?_, before second, ?_, ?_, ?_, ?_⟩
  · intro position inside
    rcases kindAt_scan marks inside with ⟨_, code⟩ | ⟨_, literal⟩
    · exact Or.inr code
    · exact Or.inl literal
  · intro closed position inside
    have alone := kindAt_behind whole (Or.inl rfl) closed inside
    rwa [List.length_nil, Nat.zero_add] at alone
  · intro marker inFence
    constructor
    · intro plain position inside
      apply kindAt_fenced whole inFence (List.append_nil _).symm (blockPieces_inside plain)
      rwa [sizeOf_blockPieces, Text.flatten_lines]
    · intro inner closing rest shown plain closes
      obtain ⟨pieces, all, size, divided⟩ := blockPieces_closing marks plain closes rest
      rw [← shown] at divided
      rw [← size]
      constructor
      · intro position inside
        exact kindAt_fenced whole inFence divided all inside
      · intro position inside
        have split := shown.trans (List.append_cons inner closing rest)
        exact kindAt_closed whole inFence split divided inside
  · intro later position inside
    rw [before later position inside]
    exact before second position inside
  · intro earlier earlierWhole same position inside
    exact kindAt_behind whole earlierWhole same.symm inside

/-- The fence that the second line opens takes up the lines of the other text to the next one with
its marker. The delimiters behind it pair as they do in the rest alone. -/
theorem scan_local_fenced :
    let marks : CodeMarks := ⟨["~~", "--"], "/"⟩
    let first : Text := "/a/\n ~~x\n"
    let second : Text := "--\n/b/\n\t~~\n/c/d"
    Text.EndsLine first ∧ openFence marks none (Text.lines first) = some ("~~" : Text) ∧
      Text.lines second = (["--\n", "/b/\n", "\t~~\n", "/c/d"] : List Text) ∧
      (∀ position < 11, kindAt? (scan marks (first ++ second)) (9 + position) = some .code) ∧
      kindAt? (scan marks (first ++ second)) (9 + (11 + 3)) =
        kindAt? (scan marks ("/c/d" : Text)) 3 := by
  intro marks first second
  have whole : Text.EndsLine first := Or.inr rfl
  have opened : openFence marks none (Text.lines first) = some ("~~" : Text) := by
    with_unfolding_all rfl
  have shown : Text.lines second = (["--\n", "/b/\n", "\t~~\n", "/c/d"] : List Text) := by
    with_unfolding_all rfl
  obtain ⟨_, _, _, fenced, _⟩ := scan_local marks whole second
  obtain ⟨code, behind⟩ := (fenced "~~" opened).2 ["--\n", "/b/\n"] "\t~~\n" ["/c/d"] shown
    (by with_unfolding_all decide) (by with_unfolding_all decide)
  exact ⟨whole, opened, shown, code, behind 3 (by decide)⟩

end Span
end Flourish
