/-
This file measures what a scan divides a document into. Main statements: the spans of a scan tile
the document, and put together they are the document.
-/

import Flourish.Proofs.Span.Scan
import Mathlib.Algebra.GroupWithZero.Nat

namespace Flourish

namespace Text

theorem flatten_lines (text : Text) : (lines text).flatten = text := by
  induction text with
  | nil => rfl
  | cons letter rest inductionHypothesis =>
      rw [lines]
      split
      · rw [List.flatten_cons, inductionHypothesis]
        rfl
      · split
        · next none_ =>
            rw [none_] at inductionHypothesis
            rw [← inductionHypothesis]
            rfl
        · next line others some_ =>
            rw [some_] at inductionHypothesis
            rw [List.flatten_cons, List.cons_append, ← List.flatten_cons, inductionHypothesis]

theorem slice_append_slice {start middle stop : Nat} (first : start ≤ middle)
    (second : middle ≤ stop) (text : Text) :
    slice start middle text ++ slice middle stop text = slice start stop text := by
  have split := List.take_add (l := text.drop start) (i := middle - start) (j := stop - middle)
  rw [List.drop_drop, Nat.add_sub_cancel' first,
    show middle - start + (stop - middle) = stop - start by omega] at split
  rw [slice_eq_take, slice_eq_take, slice_eq_take, split]

end Text

namespace Span

/-- The number of letters of some pieces. -/
def sizeOf (pieces : List Piece) : Nat :=
  (pieces.map Piece.size).sum

@[simp] theorem sizeOf_nil : sizeOf [] = 0 :=
  rfl

@[simp] theorem sizeOf_cons (piece : Piece) (rest : List Piece) :
    sizeOf (piece :: rest) = piece.size + sizeOf rest :=
  rfl

@[simp] theorem sizeOf_append (before after : List Piece) :
    sizeOf (before ++ after) = sizeOf before + sizeOf after := by
  rw [sizeOf, List.map_append, List.sum_append, sizeOf, sizeOf]

/-- Places from `cursor` up to `length` at which `size` letters stand without overlap. -/
def Spaced (size cursor length : Nat) : List Nat → Prop
  | [] => cursor ≤ length
  | place :: rest => cursor ≤ place ∧ Spaced size (place + size) length rest

theorem Spaced.le {size cursor length : Nat} {places : List Nat}
    (spaced : Spaced size cursor length places) : cursor ≤ length := by
  induction places generalizing cursor with
  | nil => exact spaced
  | cons place rest inductionHypothesis =>
      have := inductionHypothesis spaced.2
      have := spaced.1
      omega

theorem Spaced.weaken {size cursor later length : Nat} {places : List Nat}
    (spaced : Spaced size later length places) (earlier : cursor ≤ later) :
    Spaced size cursor length places := by
  cases places with
  | nil => exact Nat.le_trans earlier spaced
  | cons place rest => exact ⟨Nat.le_trans earlier spaced.1, spaced.2⟩

/-- The places where a text occurs do not overlap. -/
theorem occurrences_spaced (needle : Text) (position : Nat) (text : Text) :
    Spaced needle.length position (position + text.length) (occurrences needle position text) := by
  fun_induction occurrences needle position text with
  | case1 position => exact Nat.le_refl _
  | case2 position letter rest starts inductionHypothesis =>
      obtain ⟨nonempty, starts⟩ := Bool.and_eq_true_iff.mp starts
      have fits := (List.isPrefixOf_iff_prefix.mp starts).length_le
      have some_ : 0 < needle.length := by
        cases needle with
        | nil => cases nonempty
        | cons first others => exact Nat.succ_pos _
      simp only [List.length_cons] at fits ⊢
      refine ⟨Nat.le_refl _, ?_⟩
      rwa [List.length_drop, show position + needle.length + (rest.length - (needle.length - 1)) =
        position + (rest.length + 1) by omega] at inductionHypothesis
  | case3 position letter rest _ inductionHypothesis =>
      rw [show position + 1 + rest.length = position + (letter :: rest).length by
        simp only [List.length_cons]; omega] at inductionHypothesis
      exact inductionHypothesis.weaken (Nat.le_succ _)

theorem sizeOf_pairedPieces {size cursor length : Nat} {places : List Nat}
    (spaced : Spaced size cursor length places) :
    cursor + sizeOf (pairedPieces size cursor length places) = length := by
  fun_induction pairedPieces size cursor length places with
  | case1 cursor opening closing rest inductionHypothesis =>
      obtain ⟨first, second, others⟩ := spaced
      have later := inductionHypothesis others
      simp only [sizeOf_cons]
      omega
  | case2 places cursor few =>
      have fits := spaced.le
      simp only [sizeOf_cons, sizeOf_nil]
      omega

/-- The pieces of a line are as long as the line. -/
theorem sizeOf_linePieces (delimiter line : Text) :
    sizeOf (linePieces delimiter line) = line.length := by
  have spaced := occurrences_spaced delimiter 0 line
  rw [Nat.zero_add] at spaced
  have sum := sizeOf_pairedPieces spaced
  rwa [Nat.zero_add] at sum

/-- The pieces of lines are as long as the lines. -/
theorem sizeOf_blockPieces (marks : CodeMarks) (fence : Option Text) (lines : List Text) :
    sizeOf (blockPieces marks fence lines) = lines.flatten.length := by
  fun_induction blockPieces marks fence lines with
  | case1 => rfl
  | case2 marker line rest inductionHypothesis =>
      rw [sizeOf_cons, inductionHypothesis, List.flatten_cons, List.length_append]
  | case3 line rest marker fenced inductionHypothesis =>
      rw [sizeOf_cons, inductionHypothesis, List.flatten_cons, List.length_append]
  | case4 line rest plain inductionHypothesis =>
      rw [sizeOf_append, sizeOf_linePieces, inductionHypothesis, List.flatten_cons,
        List.length_append]

/-- Spans that are not empty and follow one another from a position up to another, without gap or
overlap. -/
def Tiles (position stop : Nat) : List Span → Prop
  | [] => position = stop
  | span :: rest => span.start = position ∧ span.start < span.stop ∧ Tiles span.stop stop rest

namespace Tiles

variable {position stop : Nat} {spans : List Span}

theorem position_le (tiles : Tiles position stop spans) : position ≤ stop := by
  induction spans generalizing position with
  | nil => exact Nat.le_of_eq tiles
  | cons span rest inductionHypothesis =>
      obtain ⟨rfl, nonempty, others⟩ := tiles
      exact Nat.le_trans (Nat.le_of_lt nonempty) (inductionHypothesis others)

theorem stop_le {span : Span} (tiles : Tiles position stop spans) (member : span ∈ spans) :
    span.stop ≤ stop := by
  induction spans generalizing position with
  | nil => cases member
  | cons first rest inductionHypothesis =>
      obtain ⟨_, _, others⟩ := tiles
      rcases List.mem_cons.mp member with rfl | later
      · exact others.position_le
      · exact inductionHypothesis others later

theorem nonempty (tiles : Tiles position stop spans) : ∀ span ∈ spans, span.start < span.stop := by
  induction spans generalizing position with
  | nil => exact List.forall_mem_nil _
  | cons first rest inductionHypothesis =>
      obtain ⟨_, nonempty, others⟩ := tiles
      exact List.forall_mem_cons.mpr ⟨nonempty, inductionHypothesis others⟩

theorem le_start {span : Span} (tiles : Tiles position stop spans) (member : span ∈ spans) :
    position ≤ span.start := by
  induction spans generalizing position with
  | nil => cases member
  | cons first rest inductionHypothesis =>
      obtain ⟨rfl, nonempty, others⟩ := tiles
      rcases List.mem_cons.mp member with rfl | later
      · exact Nat.le_refl _
      · have := inductionHypothesis others later
        omega

theorem append {middle : Nat} {others : List Span} (first : Tiles position middle spans)
    (second : Tiles middle stop others) : Tiles position stop (spans ++ others) := by
  induction spans generalizing position with
  | nil =>
      rw [show position = middle from first]
      exact second
  | cons span rest inductionHypothesis =>
      obtain ⟨begins, nonempty, later⟩ := first
      exact ⟨begins, nonempty, inductionHypothesis later⟩

/-- Spans without gap or overlap have the letters from the first to the last. -/
theorem flatMap_textIn (tiles : Tiles position stop spans) (document : Text) :
    spans.flatMap (·.textIn document) = Text.slice position stop document := by
  induction spans generalizing position with
  | nil =>
      rw [← show position = stop from tiles]
      simp [Text.slice_eq_take]
  | cons span rest inductionHypothesis =>
      obtain ⟨rfl, nonempty, others⟩ := tiles
      rw [List.flatMap_cons, inductionHypothesis others, textIn]
      exact Text.slice_append_slice (Nat.le_of_lt nonempty) others.position_le document

end Tiles

/-- The spans of pieces lie without gap or overlap from the span in hand, or from the position, up
to the end of the pieces. -/
theorem ofPieces_tiles (current : Option Span) (position : Nat) (pieces : List Piece)
    (ends : ∀ span, current = some span → span.start < span.stop ∧ span.stop = position) :
    Tiles ((current.map Span.start).getD position) (position + sizeOf pieces)
      (ofPieces current position pieces) := by
  induction pieces generalizing current position with
  | nil =>
      cases current with
      | none => rfl
      | some span => exact ⟨rfl, (ends span rfl).1, (ends span rfl).2⟩
  | cons piece rest inductionHypothesis =>
      have begun (kind : SpanKind) (start : Nat) (before : start < position + piece.size) :=
        inductionHypothesis (some ⟨kind, start, position + piece.size⟩) (position + piece.size)
          fun span same => by
            cases same
            exact ⟨before, rfl⟩
      rw [ofPieces, sizeOf_cons, ← Nat.add_assoc]
      split
      · next empty =>
          rw [empty, Nat.add_zero]
          exact inductionHypothesis current position ends
      · cases current with
        | none => exact begun piece.kind position (by omega)
        | some span =>
            obtain ⟨nonempty, atEnd⟩ := ends span rfl
            simp only
            split
            · exact begun span.kind span.start (by omega)
            · refine ⟨rfl, nonempty, ?_⟩
              rw [atEnd]
              exact begun piece.kind position (by omega)

theorem scan_tiles (marks : CodeMarks) (document : Text) :
    Tiles 0 document.length (scan marks document) := by
  have tiles := ofPieces_tiles none 0 (blockPieces marks none (Text.lines document))
    fun span same => nomatch same
  rwa [sizeOf_blockPieces, Text.flatten_lines, Nat.zero_add] at tiles

/-- The spans of a scan lie within the document. -/
theorem stop_le_of_mem_scan {marks : CodeMarks} {document : Text} {span : Span}
    (member : span ∈ scan marks document) : span.stop ≤ document.length :=
  (scan_tiles marks document).stop_le member

/-- The spans of a scan put together are the document. -/
theorem flatMap_textIn_scan (marks : CodeMarks) (document : Text) :
    (scan marks document).flatMap (·.textIn document) = document := by
  rw [(scan_tiles marks document).flatMap_textIn]
  simp [Text.slice]

end Span
end Flourish
