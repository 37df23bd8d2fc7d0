/-
This file runs two processors side by side. Main statement: a processor that follows another one
step by step, until that one is stopped in a certain way, follows it over whole documents.
-/

import Flourish.Processor.Run
import Flourish.Proofs.Expansion.Recursion

namespace Flourish

/-- What is computed stops, and the stop is of this kind. -/
def StoppedBy {Value : Type} (kind : Stop → Prop) (result : Except Stop Value) : Prop :=
  ∃ stop, result = .error stop ∧ kind stop

/-- A step that stops in this way. -/
def Step.StoppedBy (kind : Stop → Prop) (step : Step) : Prop :=
  ∃ stop run, step = .stopped stop run ∧ kind stop

/-- The second processor makes every step that the first one makes, unless the first one is stopped
in this way. It reads the same text as code. -/
structure Processor.Follows (kind : Stop → Prop) (first second : Processor) : Prop where
  marks : second.settings.codeMarks = first.settings.codeMarks
  step : ∀ machine, (Machine.step first machine).StoppedBy kind ∨
    Machine.step second machine = Machine.step first machine

namespace Processor.Follows

variable {kind : Stop → Prop} {first second : Processor}

/-- The two processors go through the same states until one is stopped. -/
theorem finish (follows : Follows kind first second) (machine : Machine) :
    StoppedBy kind (Machine.finish first machine).result ∨
      Machine.finish second machine = Machine.finish first machine := by
  -- Both runs are at one state until the first is stopped, so the induction is on its run alone.
  have same := follows.step machine
  fun_induction Machine.finish first machine with
  | case1 machine text run stepped =>
      rw [stepped] at same
      rcases same with ⟨_, _, stopped, _⟩ | same
      · cases stopped
      · exact Or.inr (Machine.finish_done same)
  | case2 machine stop run stepped =>
      rw [stepped] at same
      rcases same with ⟨_, _, stopped, ofKind⟩ | same
      · cases stopped
        exact Or.inl ⟨stop, rfl, ofKind⟩
      · exact Or.inr (Machine.finish_stopped same)
  | case3 machine next stepped _ inductionHypothesis =>
      rw [stepped] at same
      rcases same with ⟨_, _, stopped, _⟩ | same
      · cases stopped
      · rw [Machine.finish_next same]
        exact inductionHypothesis (follows.step next)

theorem expandSpan (follows : Follows kind first second) (span : Span) (text : Text) (run : Run) :
    StoppedBy kind (first.expandSpan span text run).result ∨
      second.expandSpan span text run = first.expandSpan span text run := by
  unfold Processor.expandSpan
  split
  · exact Or.inr rfl
  · exact follows.finish _

theorem expandSpans (follows : Follows kind first second) (done : List Text) (spans : List Span)
    (text : Text) (run : Run) :
    StoppedBy kind (first.expandSpans done spans text run).1 ∨
      second.expandSpans done spans text run = first.expandSpans done spans text run := by
  induction spans generalizing done text run with
  | nil => exact Or.inr rfl
  | cons span rest inductionHypothesis =>
      rcases follows.expandSpan span (text.take span.length) run with ⟨stop, failed, ofKind⟩ | same
      · left
        simp only [Processor.expandSpans, failed]
        exact ⟨stop, rfl, ofKind⟩
      · simp only [Processor.expandSpans, same]
        split
        · exact Or.inr rfl
        · exact inductionHypothesis _ _ _

/-- The two processors give the same report on a document unless the first one is stopped. -/
theorem process (follows : Follows kind first second) (document : Text) :
    StoppedBy kind (first.process document).result ∨
      second.process document = first.process document := by
  simp only [Processor.process, follows.marks]
  rcases follows.expandSpans [] (Span.scan first.settings.codeMarks document) document
      (Run.start.log (.scanned document.length
        (Span.scan first.settings.codeMarks document).length)) with ⟨stop, failed, ofKind⟩ | same
  · left
    simp only [failed]
    exact ⟨stop, rfl, ofKind⟩
  · rw [same]
    exact Or.inr rfl

end Processor.Follows
end Flourish
