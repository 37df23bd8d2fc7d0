/-
This file shows how spans cover a document. Main statement: the spans of a scan follow one another
from the front of the document, and each is literal text or code.
-/

import Flourish.Proofs.Text.Search
import Flourish.Span.Scan

namespace Flourish.Span

/-- Spans that follow one another from a position on. -/
def Follow (position : Nat) : List Span → Prop
  | [] => True
  | span :: rest => span.start = position ∧ span.start ≤ span.stop ∧ Follow span.stop rest

/-- The spans of pieces begin where the span in hand does, or else at the position. -/
theorem ofPieces_follow (current : Option Span) (position : Nat) (pieces : List Piece)
    (ends : ∀ span, current = some span → span.start ≤ span.stop ∧ span.stop = position) :
    Follow ((current.map Span.start).getD position) (ofPieces current position pieces) := by
  induction pieces generalizing current position with
  | nil =>
      cases current with
      | none => trivial
      | some span => exact ⟨rfl, (ends span rfl).1, trivial⟩
  | cons piece rest inductionHypothesis =>
      simp only [ofPieces]
      split
      · exact inductionHypothesis current position ends
      · have begun (kind : SpanKind) := inductionHypothesis
          (some ⟨kind, position, position + piece.size⟩) (position + piece.size)
        cases current with
        | none =>
            refine begun piece.kind fun span same => ?_
            cases same
            exact ⟨Nat.le_add_right _ _, rfl⟩
        | some span =>
            obtain ⟨ordered, atEnd⟩ := ends span rfl
            have grown := inductionHypothesis
              (some { span with stop := position + piece.size }) (position + piece.size)
            simp only
            split
            · refine grown fun longer same => ?_
              cases same
              exact ⟨show span.start ≤ position + piece.size by omega, rfl⟩
            · refine ⟨rfl, ordered, ?_⟩
              rw [atEnd]
              refine begun piece.kind fun next same => ?_
              cases same
              exact ⟨Nat.le_add_right _ _, rfl⟩

theorem scan_follow (marks : CodeMarks) (document : Text) : Follow 0 (scan marks document) :=
  ofPieces_follow none 0 _ fun _ same => nomatch same

theorem start_le_stop {position : Nat} {spans : List Span} {span : Span}
    (follow : Follow position spans) (member : span ∈ spans) : span.start ≤ span.stop := by
  induction spans generalizing position with
  | nil => cases member
  | cons first rest inductionHypothesis =>
      rcases List.mem_cons.mp member with rfl | later
      · exact follow.2.1
      · exact inductionHypothesis follow.2.2 later

theorem length_textIn_le (span : Span) (document : Text) :
    (span.textIn document).length ≤ span.stop - span.start := by
  rw [textIn, Text.slice_eq_take]
  exact List.length_take_le _ _

/-- The kind of a span is that of a piece. -/
theorem kind_of_mem_ofPieces (test : SpanKind → Prop) {current : Option Span} {position : Nat}
    {pieces : List Piece} (inHand : ∀ span, current = some span → test span.kind)
    (all : ∀ piece ∈ pieces, test piece.kind) :
    ∀ span ∈ ofPieces current position pieces, test span.kind := by
  induction pieces generalizing current position with
  | nil => exact fun span member => inHand span (Option.mem_toList.mp member)
  | cons piece rest inductionHypothesis =>
      have first := all piece List.mem_cons_self
      have others := fun piece member => all piece (List.mem_cons_of_mem _ member)
      simp only [ofPieces]
      split
      · exact inductionHypothesis inHand others
      · cases current with
        | none => exact inductionHypothesis (fun span same => by cases same; exact first) others
        | some span =>
            simp only
            split
            · exact inductionHypothesis
                (fun longer same => by cases same; exact inHand span rfl) others
            · intro other member
              rcases List.mem_cons.mp member with rfl | later
              · exact inHand other rfl
              · exact inductionHypothesis (fun span same => by cases same; exact first) others
                  other later

theorem pairedPieces_kind (size cursor length : Nat) (places : List Nat) :
    ∀ piece ∈ pairedPieces size cursor length places,
      piece.kind = .literal ∨ piece.kind = .code := by
  fun_induction pairedPieces size cursor length places with
  | case1 cursor opening closing rest inductionHypothesis =>
      intro piece member
      rcases List.mem_cons.mp member with rfl | member
      · exact Or.inl rfl
      · rcases List.mem_cons.mp member with rfl | member
        · exact Or.inr rfl
        · exact inductionHypothesis piece member
  | case2 => simp

theorem blockPieces_kind (marks : CodeMarks) (fence : Option Text) (lines : List Text) :
    ∀ piece ∈ blockPieces marks fence lines, piece.kind = .literal ∨ piece.kind = .code := by
  fun_induction blockPieces marks fence lines with
  | case1 => simp
  | case2 marker line rest inductionHypothesis =>
      rintro piece (_ | ⟨_, member⟩)
      · exact Or.inr rfl
      · exact inductionHypothesis piece member
  | case3 line rest marker fenced inductionHypothesis =>
      rintro piece (_ | ⟨_, member⟩)
      · exact Or.inr rfl
      · exact inductionHypothesis piece member
  | case4 line rest plain inductionHypothesis =>
      intro piece member
      rcases List.mem_append.mp member with inLine | later
      · exact pairedPieces_kind _ _ _ _ piece inLine
      · exact inductionHypothesis piece later

/-- A span of a scan is literal text or code. -/
theorem scan_kind {marks : CodeMarks} {document : Text} {span : Span}
    (member : span ∈ scan marks document) : span.kind = .literal ∨ span.kind = .code :=
  kind_of_mem_ofPieces (fun kind => kind = .literal ∨ kind = .code)
    (by intro span same; cases same) (blockPieces_kind marks none _) span member

end Flourish.Span
