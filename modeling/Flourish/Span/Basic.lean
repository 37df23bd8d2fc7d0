/-
This file holds spans, the stretches that a document is divided into.
-/

import Flourish.Text.Basic

namespace Flourish

/-- Tags are read in literal text only. Code is never touched. -/
inductive SpanKind where
  | literal
  | code
  | tag
  deriving DecidableEq, Repr

namespace SpanKind

def name : SpanKind → Text
  | .literal => "literal"
  | .code => "code"
  | .tag => "tag"

end SpanKind

/-- The letters of a document from `start` up to `stop`. -/
structure Span where
  kind : SpanKind
  start : Nat
  stop : Nat
  deriving DecidableEq, Repr

/-- A number of letters of one kind, wherever they stand. -/
structure Piece where
  kind : SpanKind
  size : Nat
  deriving DecidableEq, Repr

namespace Span

def length (span : Span) : Nat :=
  span.stop - span.start

def textIn (span : Span) (document : Text) : Text :=
  Text.slice span.start span.stop document

/-- The spans of pieces that follow one another from `position` on. Pieces of one kind that touch
become one span, and empty pieces vanish. -/
def ofPieces (current : Option Span) (position : Nat) : List Piece → List Span
  | [] => current.toList
  | piece :: rest =>
      if piece.size = 0 then ofPieces current position rest
      else
        let stop := position + piece.size
        match current with
        | none => ofPieces (some ⟨piece.kind, position, stop⟩) stop rest
        | some span =>
            if span.kind = piece.kind then ofPieces (some { span with stop := stop }) stop rest
            else span :: ofPieces (some ⟨piece.kind, position, stop⟩) stop rest

end Span
end Flourish
