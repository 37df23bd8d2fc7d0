/-
This file says which letters of a document are code. Main statement: the spans of a scan divide the
document without gap or overlap, their kinds alternate, and a letter is in a span of code if its
line belongs to a fence or if it stands between two delimiters that pair in its line.
-/

import Flourish.Proofs.Span.Join
import Mathlib.Data.List.Chain

namespace Flourish.Span

/-- The kinds of two spans of pieces that follow each other differ. The first span is of the kind of
the span in hand. -/
theorem ofPieces_alternate (current : Option Span) (position : Nat) (pieces : List Piece) :
    (ofPieces current position pieces).IsChain (fun first second => first.kind ≠ second.kind) ∧
      ∀ span, current = some span →
        ∃ first rest, ofPieces current position pieces = first :: rest ∧
          first.kind = span.kind := by
  induction pieces generalizing current position with
  | nil =>
      cases current with
      | none => exact ⟨.nil, fun span same => nomatch same⟩
      | some span => exact ⟨.singleton span, fun other same => ⟨span, [], rfl, by cases same; rfl⟩⟩
  | cons piece rest inductionHypothesis =>
      have begun (kind : SpanKind) (start : Nat) := inductionHypothesis
        (some ⟨kind, start, position + piece.size⟩) (position + piece.size)
      rw [ofPieces]
      split
      · exact inductionHypothesis current position
      · cases current with
        | none => exact ⟨(begun piece.kind position).1, fun span same => nomatch same⟩
        | some span =>
            simp only
            split
            · obtain ⟨alternate, grown⟩ := begun span.kind span.start
              refine ⟨alternate, ?_⟩
              intro other same
              cases same
              exact grown ⟨span.kind, span.start, position + piece.size⟩ rfl
            · next other =>
                obtain ⟨alternate, follows⟩ := begun piece.kind position
                obtain ⟨first, others, shown, kind⟩ := follows _ rfl
                constructor
                · rw [shown] at alternate ⊢
                  rw [List.isChain_cons_cons, kind]
                  exact ⟨other, alternate⟩
                · intro earlier same
                  cases same
                  exact ⟨span, _, rfl, rfl⟩

/-- A position is inside a span of code. -/
def InCode (spans : List Span) (position : Nat) : Prop :=
  ∃ span ∈ spans, span.kind = .code ∧ span.start ≤ position ∧ position < span.stop

@[simp] theorem inCode_nil (position : Nat) : ¬ InCode [] position := by
  simp [InCode]

theorem inCode_cons {span : Span} {rest : List Span} {position : Nat} :
    InCode (span :: rest) position ↔
      (span.kind = .code ∧ span.start ≤ position ∧ position < span.stop) ∨
        InCode rest position := by
  simp only [InCode, List.mem_cons, exists_eq_or_imp]

/-- A place among the letters of some pieces is in a piece of code. -/
def CodeAt : List Piece → Nat → Prop
  | [], _ => False
  | piece :: rest, place =>
      (place < piece.size ∧ piece.kind = .code) ∨
        (piece.size ≤ place ∧ CodeAt rest (place - piece.size))

theorem CodeAt.lt_sizeOf {pieces : List Piece} {place : Nat} (code : CodeAt pieces place) :
    place < sizeOf pieces := by
  induction pieces generalizing place with
  | nil => cases code
  | cons piece rest inductionHypothesis =>
      rw [sizeOf_cons]
      rcases code with ⟨inside, _⟩ | ⟨behind, later⟩
      · omega
      · have := inductionHypothesis later
        omega

theorem codeAt_append (before after : List Piece) (place : Nat) :
    CodeAt (before ++ after) place ↔
      CodeAt before place ∨ (sizeOf before ≤ place ∧ CodeAt after (place - sizeOf before)) := by
  induction before generalizing place with
  | nil => simp [CodeAt]
  | cons piece rest inductionHypothesis =>
      rw [List.cons_append, CodeAt, CodeAt, inductionHypothesis, sizeOf_cons, Nat.sub_sub]
      constructor
      · rintro (inside | ⟨behind, earlier | ⟨later, code⟩⟩)
        · exact Or.inl (Or.inl inside)
        · exact Or.inl (Or.inr ⟨behind, earlier⟩)
        · exact Or.inr ⟨by omega, code⟩
      · rintro ((inside | ⟨behind, earlier⟩) | ⟨later, code⟩)
        · exact Or.inl inside
        · exact Or.inr ⟨behind, Or.inl earlier⟩
        · exact Or.inr ⟨by omega, Or.inr ⟨by omega, code⟩⟩

/-- The spans of pieces are code where the span in hand is, or where the pieces are. -/
theorem inCode_ofPieces (current : Option Span) (position : Nat) (pieces : List Piece)
    (ends : ∀ span, current = some span → span.start ≤ position ∧ span.stop = position)
    (place : Nat) :
    InCode (ofPieces current position pieces) place ↔
      InCode current.toList place ∨ (position ≤ place ∧ CodeAt pieces (place - position)) := by
  induction pieces generalizing current position with
  | nil => simp [ofPieces, CodeAt]
  | cons piece rest inductionHypothesis =>
      have begun (kind : SpanKind) (start : Nat) (before : start ≤ position) :=
        inductionHypothesis (some ⟨kind, start, position + piece.size⟩) (position + piece.size)
          fun span same => by
            cases same
            exact ⟨Nat.le_add_right_of_le before, rfl⟩
      simp only [Option.toList_some, inCode_cons, inCode_nil, or_false] at begun
      rw [ofPieces, CodeAt]
      split
      · next empty =>
          rw [inductionHypothesis current position ends, empty, Nat.sub_zero]
          simp
      · rw [← Nat.sub_add_eq]
        generalize CodeAt rest (place - (position + piece.size)) = later at begun
        cases current with
        | none =>
            simp only [begun piece.kind position (Nat.le_refl _), Option.toList_none, inCode_nil]
            grind
        | some span =>
            obtain ⟨ordered, atEnd⟩ := ends span rfl
            simp only [Option.toList_some, inCode_cons, inCode_nil, or_false]
            split
            · rw [begun span.kind span.start (by omega)]
              grind
            · rw [inCode_cons, begun piece.kind position (Nat.le_refl _)]
              grind

/-- Places at which a text occurs, taken from the left and without overlap: each is the first place
behind the occurrence before it, and there is none behind the last. -/
def Leftmost (needle text : Text) (cursor : Nat) : List Nat → Prop
  | [] => ∀ place, cursor ≤ place → ¬ needle <+: text.drop place
  | first :: rest =>
      cursor ≤ first ∧ needle <+: text.drop first ∧
        (∀ place, cursor ≤ place → place < first → ¬ needle <+: text.drop place) ∧
        Leftmost needle text (first + needle.length) rest

theorem Leftmost.earlier {needle text : Text} {cursor : Nat} {places : List Nat}
    (absent : ¬ needle <+: text.drop cursor) (leftmost : Leftmost needle text (cursor + 1) places) :
    Leftmost needle text cursor places := by
  have before (place : Nat) (behind : cursor ≤ place) (other : cursor + 1 ≤ place →
      ¬ needle <+: text.drop place) : ¬ needle <+: text.drop place := by
    rcases Nat.eq_or_lt_of_le behind with rfl | later
    · exact absent
    · exact other later
  cases places with
  | nil =>
      intro place behind
      exact before place behind (leftmost place)
  | cons first rest =>
      obtain ⟨behind, occurs, none_, others⟩ := leftmost
      refine ⟨Nat.le_of_succ_le behind, occurs, ?_, others⟩
      intro place behind within
      exact before place behind fun later => none_ place later within

/-- The places that a search finds are the leftmost ones. -/
theorem occurrences_leftmost {needle : Text} (nonempty : needle ≠ []) (whole : Text)
    (position : Nat) :
    Leftmost needle whole position (occurrences needle position (whole.drop position)) := by
  generalize behind : whole.drop position = text
  fun_induction occurrences needle position text with
  | case1 position =>
      intro place later starts
      have past := List.drop_eq_nil_iff.mp behind
      rw [List.drop_eq_nil_of_le (Nat.le_trans past later)] at starts
      exact nonempty (List.prefix_nil.mp starts)
  | case2 position letter rest found inductionHypothesis =>
      have starts := List.isPrefixOf_iff_prefix.mp (Bool.and_eq_true_iff.mp found).2
      have some_ := List.length_pos_of_ne_nil nonempty
      refine ⟨Nat.le_refl _, by rwa [behind], fun place later within => by omega, ?_⟩
      apply inductionHypothesis
      rw [← List.drop_drop, behind]
      cases needle with
      | nil => exact absurd rfl nonempty
      | cons first others => simp
  | case3 position letter rest absent inductionHypothesis =>
      apply Leftmost.earlier
      · rw [behind]
        intro starts
        apply absent
        simp [nonempty, starts]
      · apply inductionHypothesis
        rw [← List.drop_drop, behind]
        rfl

/-- A place between two delimiters of some length that pair from the left. -/
def Enclosed (size : Nat) (places : List Nat) (place : Nat) : Prop :=
  ∃ pair opening closing, places[2 * pair]? = some opening ∧
    places[2 * pair + 1]? = some closing ∧ opening ≤ place ∧ place < closing + size

theorem enclosed_pair {size opening closing place : Nat} {rest : List Nat} :
    Enclosed size (opening :: closing :: rest) place ↔
      (opening ≤ place ∧ place < closing + size) ∨ Enclosed size rest place := by
  constructor
  · rintro ⟨pair, first, second, isFirst, isSecond, inside⟩
    cases pair with
    | zero =>
        cases isFirst
        cases isSecond
        exact Or.inl inside
    | succ pair => exact Or.inr ⟨pair, first, second, isFirst, isSecond, inside⟩
  · rintro (inside | ⟨pair, first, second, isFirst, isSecond, inside⟩)
    · exact ⟨0, opening, closing, rfl, rfl, inside⟩
    · exact ⟨pair + 1, first, second, isFirst, isSecond, inside⟩

theorem not_enclosed_of_few {size place : Nat} {places : List Nat} (few : places.length < 2) :
    ¬ Enclosed size places place := by
  rintro ⟨pair, _, second, _, isSecond, _⟩
  have inside := (List.getElem?_eq_some_iff.mp isSecond).1
  omega

theorem Spaced.cursor_le {size cursor length place : Nat} {places : List Nat}
    (spaced : Spaced size cursor length places) (member : place ∈ places) : cursor ≤ place := by
  induction places generalizing cursor with
  | nil => cases member
  | cons first rest inductionHypothesis =>
      obtain ⟨behind, others⟩ := spaced
      rcases List.mem_cons.mp member with rfl | later
      · exact behind
      · have := inductionHypothesis others later
        omega

theorem Spaced.not_enclosed {size cursor length place : Nat} {places : List Nat}
    (spaced : Spaced size cursor length places) (before : place < cursor) :
    ¬ Enclosed size places place := by
  rintro ⟨pair, first, _, isFirst, _, behind, _⟩
  have := spaced.cursor_le (List.mem_of_getElem? isFirst)
  omega

/-- The pieces around delimiters that pair are code from the first of each pair to the end of the
second. -/
theorem codeAt_pairedPieces {size cursor length : Nat} {places : List Nat}
    (spaced : Spaced size cursor length places) (place : Nat) :
    CodeAt (pairedPieces size cursor length places) place ↔
      Enclosed size places (cursor + place) := by
  fun_induction pairedPieces size cursor length places generalizing place with
  | case1 cursor opening closing rest inductionHypothesis =>
      obtain ⟨first, second, others⟩ := spaced
      have reached (inside : closing + size ≤ cursor + place) :
          closing + size + (place - (opening - cursor) - (closing + size - opening)) =
            cursor + place := by omega
      rw [enclosed_pair, CodeAt, CodeAt, inductionHypothesis others]
      dsimp only
      constructor
      · rintro (⟨_, literal⟩ | ⟨behind, ⟨inside, _⟩ | ⟨later, enclosed⟩⟩)
        · cases literal
        · exact Or.inl ⟨by omega, by omega⟩
        · rw [reached (by omega)] at enclosed
          exact Or.inr enclosed
      · rintro (⟨opened, closed⟩ | enclosed)
        · exact Or.inr ⟨by omega, Or.inl ⟨by omega, rfl⟩⟩
        · have inside : closing + size ≤ cursor + place := by
            by_contra before
            exact others.not_enclosed (Nat.lt_of_not_le before) enclosed
          refine Or.inr ⟨by omega, Or.inr ⟨by omega, ?_⟩⟩
          rwa [reached inside]
  | case2 places cursor few =>
      have fewer : places.length < 2 := by
        cases places with
        | nil => exact Nat.two_pos
        | cons opening behind =>
            cases behind with
            | nil => exact Nat.one_lt_two
            | cons closing rest => exact absurd rfl (few opening closing rest)
      simp [CodeAt, not_enclosed_of_few fewer]

/-- A letter of a line outside fences is code if it stands between two delimiters that pair. -/
def Delimited (delimiter line : Text) (place : Nat) : Prop :=
  ∃ places, Leftmost delimiter line 0 places ∧ Enclosed delimiter.length places place

/-- There is only one way to take the places of a text from the left. -/
theorem Leftmost.unique {needle text : Text} {cursor : Nat} {places others : List Nat}
    (leftmost : Leftmost needle text cursor places) (other : Leftmost needle text cursor others) :
    places = others := by
  induction places generalizing cursor others with
  | nil =>
      cases others with
      | nil => rfl
      | cons first rest => exact absurd other.2.1 (leftmost first other.1)
  | cons first rest inductionHypothesis =>
      obtain ⟨behind, occurs, earliest, later⟩ := leftmost
      cases others with
      | nil => exact absurd occurs (other first behind)
      | cons second more =>
          obtain ⟨alsoBehind, alsoOccurs, alsoEarliest, alsoLater⟩ := other
          have same : first = second := by
            apply Nat.le_antisymm
            · by_contra before
              exact earliest second alsoBehind (Nat.lt_of_not_le before) alsoOccurs
            · by_contra before
              exact alsoEarliest first behind (Nat.lt_of_not_le before) occurs
          subst same
          rw [inductionHypothesis later alsoLater]

/-- The pieces of a line outside fences are code between delimiters that pair. -/
theorem codeAt_linePieces {delimiter : Text} (nonempty : delimiter ≠ []) (line : Text)
    (place : Nat) : CodeAt (linePieces delimiter line) place ↔ Delimited delimiter line place := by
  have spaced := occurrences_spaced delimiter 0 line
  have leftmost := occurrences_leftmost nonempty line 0
  rw [Nat.zero_add] at spaced
  rw [linePieces, codeAt_pairedPieces spaced, Nat.zero_add]
  constructor
  · intro enclosed
    exact ⟨_, leftmost, enclosed⟩
  · rintro ⟨places, found, enclosed⟩
    rwa [found.unique leftmost] at enclosed

/-- A line belongs to a fence: it opens one, or one is open behind the lines before it. -/
def Fenced (marks : CodeMarks) (before : List Text) (line : Text) : Prop :=
  marks.fenceOf? line ≠ none ∨ openFence marks none before ≠ none

/-- The pieces of one line are code if it belongs to a fence, and else between delimiters. -/
theorem codeAt_line {marks : CodeMarks} (nonempty : marks.delimiter ≠ []) (before : List Text)
    {line : Text} {place : Nat} (inside : place < line.length) :
    CodeAt (blockPieces marks (openFence marks none before) [line]) place ↔
      Fenced marks before line ∨ Delimited marks.delimiter line place := by
  unfold Fenced
  cases openFence marks none before with
  | some marker => simp [blockPieces, CodeAt, inside]
  | none =>
      cases fence : marks.fenceOf? line with
      | some marker => simp [blockPieces, fence, CodeAt, inside]
      | none => simp [blockPieces, fence, codeAt_linePieces nonempty]

/-- A letter of a document is code if it is so in its line. -/
theorem inCode_scan {marks : CodeMarks} (nonempty : marks.delimiter ≠ []) {document : Text}
    {before after : List Text} {line : Text} (shown : Text.lines document = before ++ line :: after)
    {place : Nat} (inside : place < line.length) :
    InCode (scan marks document) (before.flatten.length + place) ↔
      Fenced marks before line ∨ Delimited marks.delimiter line place := by
  have lines : before ++ line :: after = before ++ ([line] ++ after) := rfl
  have single : [line].flatten.length = line.length := by simp
  have notBefore : ¬ CodeAt (blockPieces marks none before) (before.flatten.length + place) := by
    intro code
    have short := code.lt_sizeOf
    rw [sizeOf_blockPieces] at short
    omega
  have fresh : ∀ span, (none : Option Span) = some span → span.start ≤ 0 ∧ span.stop = 0 := by
    intro span same
    cases same
  rw [← codeAt_line nonempty before inside, scan, inCode_ofPieces none 0 _ fresh, shown, lines,
    blockPieces_append, blockPieces_append, codeAt_append, codeAt_append, sizeOf_blockPieces,
    sizeOf_blockPieces, single, Nat.sub_zero, Nat.add_sub_cancel_left]
  simp only [Option.toList_none, inCode_nil, false_or, Nat.zero_le, true_and, notBefore,
    Nat.le_add_right, Nat.not_le_of_lt inside, false_and, or_false]

/-- Every letter of some lines stands in one of them. -/
theorem exists_line {lines : List Text} {position : Nat}
    (inside : position < lines.flatten.length) :
    ∃ before line after place, lines = before ++ line :: after ∧ place < line.length ∧
      position = before.flatten.length + place := by
  induction lines generalizing position with
  | nil => cases inside
  | cons first rest inductionHypothesis =>
      by_cases here : position < first.length
      · exact ⟨[], first, rest, position, rfl, here, (Nat.zero_add position).symm⟩
      · rw [List.flatten_cons, List.length_append] at inside
        have later : position - first.length < rest.flatten.length := by omega
        obtain ⟨before, line, after, place, rfl, within, same⟩ := inductionHypothesis later
        refine ⟨first :: before, line, after, place, rfl, within, ?_⟩
        rw [List.flatten_cons, List.length_append]
        omega

/-- A fence stays open behind lines that do not begin with its marker. -/
theorem openFence_inside {marks : CodeMarks} {marker : Text} {inner : List Text}
    (plain : ∀ line ∈ inner, ¬ marker <+: Text.trim line) :
    openFence marks (some marker) inner = some marker := by
  induction inner with
  | nil => rfl
  | cons line rest inductionHypothesis =>
      obtain ⟨here, others⟩ := List.forall_mem_cons.mp plain
      rw [openFence, if_neg (by rwa [List.isPrefixOf_iff_prefix]), inductionHypothesis others]

/-- A fence is open behind some lines if one of them opened it, outside all fences, and no line since
has closed it. -/
theorem openFence_eq_some_iff {marks : CodeMarks} {lines : List Text} {marker : Text} :
    openFence marks none lines = some marker ↔
      ∃ earlier opener inner, lines = earlier ++ opener :: inner ∧
        openFence marks none earlier = none ∧ marks.fenceOf? opener = some marker ∧
        ∀ line ∈ inner, ¬ marker <+: Text.trim line := by
  constructor
  · intro opened
    induction lines using List.reverseRecOn with
    | nil => cases opened
    | append_singleton lines line inductionHypothesis =>
        rw [openFence_append] at opened
        cases fence : openFence marks none lines with
        | none =>
            rw [fence, openFence, openFence] at opened
            exact ⟨lines, line, [], rfl, fence, opened, by simp⟩
        | some known =>
            rw [fence, openFence, openFence] at opened
            split at opened
            · cases opened
            · next plain =>
                cases opened
                obtain ⟨earlier, opener, inner, shown, closed, opens, others⟩ :=
                  inductionHypothesis fence
                refine ⟨earlier, opener, inner ++ [line], ?_, closed, opens, ?_⟩
                · rw [shown, List.append_assoc, List.cons_append]
                · intro other member
                  rcases List.mem_append.mp member with inside | last
                  · exact others other inside
                  · rw [List.mem_singleton.mp last]
                    rwa [List.isPrefixOf_iff_prefix] at plain
  · rintro ⟨earlier, opener, inner, rfl, closed, opens, plain⟩
    rw [openFence_append, closed, openFence, opens, openFence_inside plain]

/-- The spans of a scan are literal text or code, lie without gap or overlap from the front of the
document to its end, and alternate in kind; put together they are the document. A letter is in a
span of code exactly if its line opens a fence or a fence is open before it, or if it stands between
delimiters that pair in its line. A fence is open from the line that opens it, outside of others, up
to the next line that begins with its marker, or up to the end. -/
theorem scan_partition (marks : CodeMarks) (document : Text) (nonempty : marks.delimiter ≠ []) :
    let spans := scan marks document
    (∀ span ∈ spans, span.kind = .literal ∨ span.kind = .code) ∧
      Tiles 0 document.length spans ∧
      spans.IsChain (fun first second => first.kind ≠ second.kind) ∧
      spans.flatMap (·.textIn document) = document ∧
      (∀ position, position < document.length → ∃ before line after place,
        Text.lines document = before ++ line :: after ∧ place < line.length ∧
          position = before.flatten.length + place ∧
          (InCode spans position ↔
            Fenced marks before line ∨ Delimited marks.delimiter line place)) ∧
      ∀ before marker, openFence marks none before = some marker ↔
        ∃ earlier opener inner, before = earlier ++ opener :: inner ∧
          openFence marks none earlier = none ∧ marks.fenceOf? opener = some marker ∧
          ∀ line ∈ inner, ¬ marker <+: Text.trim line := by
  intro spans
  refine ⟨fun span => scan_kind, scan_tiles marks document,
    (ofPieces_alternate none 0 _).1, flatMap_textIn_scan marks document, ?_,
    fun before marker => openFence_eq_some_iff⟩
  intro position inside
  rw [← Text.flatten_lines document] at inside
  obtain ⟨before, line, after, place, shown, within, rfl⟩ := exists_line inside
  exact ⟨before, line, after, place, shown, within, rfl, inCode_scan nonempty shown within⟩

/-- Delimiters of two letters pair in the first line, and a fence without end takes up the others. -/
theorem scan_partition_unended :
    let marks : CodeMarks := ⟨["~~"], "--"⟩
    let document : Text := "--a--b--\n ~~\n--c--"
    marks.delimiter ≠ [] ∧
      scan marks document = [⟨.code, 0, 5⟩, ⟨.literal, 5, 9⟩, ⟨.code, 9, 18⟩] ∧
      Tiles 0 18 (scan marks document) := by
  intro marks document
  have nonempty : marks.delimiter ≠ [] := by decide
  exact ⟨nonempty, by with_unfolding_all rfl, (scan_partition marks document nonempty).2.1⟩

end Flourish.Span
