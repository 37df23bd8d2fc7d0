/-
This file expands whole documents: code is copied, literal text is expanded span by span.
-/

import Flourish.Expansion.Machine
import Flourish.Span.Refine
import Flourish.Span.Scan

namespace Flourish

/-- What a processor answers: a value or why there is none, and what happened, oldest first. -/
structure Report (Value : Type) where
  result : Except Stop Value
  events : List Event

/-- An expanded document and the files that belong to it, in the order of their first use. -/
structure Output where
  text : Text
  assets : List FileAsset
  deriving DecidableEq, Repr

namespace Processor

/-- The expanded form of one span. Text that opens no tag is copied. -/
def expandSpan (processor : Processor) (span : Span) (text : Text) (run : Run) :
    Machine.Outcome :=
  if span.kind = .code || (Text.firstIndex [.of '{', .of '{'] text).isNone then ⟨.ok text, run⟩
  else Machine.finish processor (Machine.ofDocument text span.start run)

/-- The expanded spans, newest first, of which some are done already. The text is what is left of
the document. -/
def expandSpans (processor : Processor) (done : List Text) :
    List Span → Text → Run → Except Stop (List Text) × Run
  | [], _, run => (.ok done, run)
  | span :: rest, text, run =>
      let outcome := processor.expandSpan span (text.take span.length) run
      match outcome.result with
      | .error stop => (.error stop, outcome.run)
      | .ok expanded =>
          expandSpans processor (expanded :: done) rest (text.drop span.length) outcome.run

/-- This function expands every tag of a document. -/
def process (processor : Processor) (document : Text) : Report Output :=
  let spans := Span.scan processor.settings.codeMarks document
  let start := Run.start.log (.scanned document.length spans.length)
  let (result, run) := processor.expandSpans [] spans document start
  match result with
  | .error stop => ⟨.error stop, run.events.reverse⟩
  | .ok pieces =>
      let final := run.log (.expanded run.expansions run.assets.length)
      ⟨.ok ⟨pieces.reverse.flatten, final.assets⟩, final.events.reverse⟩

/-- The literal, code and tag spans of a document, for tools. -/
def spans (processor : Processor) (document : Text) : Except Failure (List Span) :=
  Span.refine document (Span.scan processor.settings.codeMarks document)

/-- The processor with more colors. Nothing changes if one of them is bad. -/
def extendPalette (processor : Processor) (overrides : List (Text × Text)) :
    Report Processor :=
  match processor.palette.extend overrides with
  | .error failure => ⟨.error (.failure failure), []⟩
  | .ok palette =>
      ⟨.ok { processor with palette := palette }, [.paletteExtended overrides.length]⟩

end Processor
end Flourish
