/-
This file divides a document into literal text and code: fenced blocks and inline code.
-/

import Flourish.Span.Basic
import Flourish.Text.Blank

namespace Flourish

/-- What marks code: the openings of fence lines, and the delimiter of code inside a line. -/
structure CodeMarks where
  fences : List Text
  delimiter : Text
  deriving DecidableEq, Repr

namespace CodeMarks

def standard : CodeMarks where
  fences := ["\x60\x60\x60", "~~~"]
  delimiter := "\x60"

/-- The first fence marker that a line starts with after white space. -/
def fenceOf? (marks : CodeMarks) (line : Text) : Option Text :=
  marks.fences.find? fun marker => marker.isPrefixOf (Text.trim line)

end CodeMarks

namespace Span

/-- The places where `needle` occurs, taken from the left and without overlap. -/
def occurrences (needle : Text) (position : Nat) : Text → List Nat
  | [] => []
  | letter :: rest =>
      if !needle.isEmpty && needle.isPrefixOf (letter :: rest) then
        position :: occurrences needle (position + needle.length) (rest.drop (needle.length - 1))
      else occurrences needle (position + 1) rest
termination_by text => text.length
decreasing_by all_goals (simp only [List.length_drop, List.length_cons]; omega)

/-- Delimiters pair from the left, and each pair encloses code. A last one alone is literal. -/
def pairedPieces (size cursor length : Nat) : List Nat → List Piece
  | opening :: closing :: rest =>
      ⟨.literal, opening - cursor⟩ :: ⟨.code, closing + size - opening⟩ ::
        pairedPieces size (closing + size) length rest
  | _ => [⟨.literal, length - cursor⟩]

/-- The pieces of a line outside fences. -/
def linePieces (delimiter line : Text) : List Piece :=
  pairedPieces delimiter.length 0 line.length (occurrences delimiter 0 line)

/-- The pieces of lines, after a fence opened by `fence` if there is one. A fence closes at the
next line with its own marker; both its lines are code. -/
def blockPieces (marks : CodeMarks) : Option Text → List Text → List Piece
  | _, [] => []
  | some marker, line :: rest =>
      ⟨.code, line.length⟩ ::
        blockPieces marks (if marker.isPrefixOf (Text.trim line) then none else some marker) rest
  | none, line :: rest =>
      match marks.fenceOf? line with
      | some marker => ⟨.code, line.length⟩ :: blockPieces marks (some marker) rest
      | none => linePieces marks.delimiter line ++ blockPieces marks none rest

/-- The literal and code spans of a document. They cover it without gap or overlap. -/
def scan (marks : CodeMarks) (document : Text) : List Span :=
  ofPieces none 0 (blockPieces marks none (Text.lines document))

end Span
end Flourish
