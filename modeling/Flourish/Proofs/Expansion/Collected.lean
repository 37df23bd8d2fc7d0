/-
This file says which files come with an expanded document. Main statement: they are files that the
backend has drawn.
-/

import Flourish.Processor.Run
import Flourish.Proofs.Expansion.Run

namespace Flourish.Processor

variable {processor : Processor}

theorem expandSpan_becomes (processor : Processor) (span : Span) (text : Text) (run : Run) :
    run.Becomes processor.renderer (processor.expandSpan span text run).run := by
  unfold expandSpan
  split
  · exact .same
  · exact Machine.finish_becomes processor (Machine.ofDocument text span.start run)

theorem expandSpans_becomes (processor : Processor) (done : List Text) (spans : List Span)
    (text : Text) (run : Run) :
    run.Becomes processor.renderer (processor.expandSpans done spans text run).2 := by
  induction spans generalizing done text run with
  | nil => exact .same
  | cons span rest inductionHypothesis =>
      have expanded := processor.expandSpan_becomes span (text.take span.length) run
      simp only [expandSpans]
      split
      · exact expanded
      · exact expanded.trans (inductionHypothesis ..)

/-- The files of an output have been drawn by the backend. -/
theorem exists_drawn_of_process {document : Text} {output : Output} {asset : FileAsset}
    (expanded : (processor.process document).result = .ok output) (member : asset ∈ output.assets) :
    ∃ primitive, processor.renderer primitive = .ok (.file asset) := by
  have becomes := processor.expandSpans_becomes []
    (Span.scan processor.settings.codeMarks document) document
    (Run.start.log (.scanned document.length
      (Span.scan processor.settings.codeMarks document).length))
  simp only [process] at expanded
  split at expanded
  · cases expanded
  · cases expanded
    exact (becomes.drawn member).resolve_left nofun

end Flourish.Processor
