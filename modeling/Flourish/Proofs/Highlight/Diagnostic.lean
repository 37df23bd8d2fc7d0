/-
This file compares diagnostics with and without color. Main statement: color only adds escape
sequences to a diagnostic, unless the excerpt has a return or begins with a byte order mark, which
the highlighter drops.
-/

import Flourish.Proofs.Diagnostic
import Flourish.Proofs.Failure.Placed
import Flourish.Proofs.Highlight.Colored

namespace Flourish

namespace Failure

open Highlight (Adds)

variable {format : List Lexeme → Text} {failure : Failure} {source : Text} {place : Nat}

/-- The letters of a diagnostic before the excerpt. -/
def excerptFront (failure : Failure) (position : Position) : Text :=
  failure.diagnosticFront position ++ .of '\n' :: contextLabel

/-- The letters of a diagnostic behind the excerpt. -/
def excerptBack (caret : Int) : Text :=
  ("..." : Text) ++ .of '\n' ::
    (List.replicate (contextLabel.length + caret).toNat (.of ' ') ++ [.of '^'])

/-- With and without color the same letters stand before the excerpt and behind it. -/
theorem diagnosticBy_excerpt {offset : Int} (placed : failure.offset = some offset) (shade : Bool) :
    let excerpt := Excerpt.around source offset Excerpt.standardRadius
    failure.diagnosticBy format source shade =
      failure.excerptFront (Position.ofOffset source offset) ++
        ((if shade then Highlight.coloredBy format excerpt.text else excerpt.text) ++
          excerptBack excerpt.caret) := by
  intro excerpt
  rw [diagnosticBy_lines placed, excerptFront, excerptBack]
  simp [excerpt]

/-- Color only adds escape sequences if the highlighter keeps the excerpt as it is. -/
theorem adds_diagnosticBy_iff (formats : Highlight.Formats format)
    (placed : failure.offset = some (place : Int)) (fits : place ≤ source.length) :
    let excerpt := (Excerpt.around source place Excerpt.standardRadius).text
    Adds (failure.diagnosticBy format source false) (failure.diagnosticBy format source true) ↔
      .of '\r' ∉ excerpt ∧ excerpt.head? ≠ some (.of '\uFEFF') := by
  have line := Excerpt.newline_not_mem_around Excerpt.standardRadius fits
  rw [diagnosticBy_excerpt placed, diagnosticBy_excerpt placed]
  simp only [Bool.false_eq_true, if_false, if_true]
  generalize (Excerpt.around source place Excerpt.standardRadius).text = excerpt at line ⊢
  have colored := formats.adds_colored excerpt
  constructor
  · intro adds
    rw [Lexeme.count_settled_iff line]
    intro letter member
    have foreign (codes : Text) (isCode : Highlight.IsCode codes) :
        letter ∉ Highlight.escape codes := by
      apply Highlight.not_mem_escape isCode
      simp only [List.mem_cons] at member ⊢
      tauto
    have whole := adds.count_eq foreign
    have part := colored.count_eq foreign
    simp only [List.count_append] at whole
    omega
  · rintro ⟨plain, unmarked⟩
    have kept : Lexeme.settled excerpt = excerpt := by
      rw [Lexeme.settled_line line plain, Lexeme.unmarked, if_neg unmarked]
    rw [kept] at colored
    exact (Adds.refl _).append (colored.append (.refl _))

end Failure

/-- In a format that only puts escape sequences in, a diagnostic with color shows the excerpt as the
highlighter cuts it, with escape sequences put in, and is else the same. So it is the diagnostic
without color with escape sequences put in if and only if the excerpt has no return and does not
begin with a byte order mark. -/
theorem Failure.diagnostic_adds {format : List Lexeme → Text} (formats : Highlight.Formats format)
    {processor : Processor} {source : Text} {failure : Failure}
    (failed : (processor.process source).result = .error (.failure failure)) :
    ∃ place : Nat, failure.offset = some (place : Int) ∧ place ≤ source.length ∧
      let excerpt := (Excerpt.around source place Excerpt.standardRadius).text
      (∃ front shown back, failure.diagnosticBy format source false = front ++ (excerpt ++ back) ∧
        failure.diagnosticBy format source true = front ++ (shown ++ back) ∧
        Highlight.Adds (Lexeme.settled excerpt) shown) ∧
      (Highlight.Adds (failure.diagnosticBy format source false)
          (failure.diagnosticBy format source true) ↔
        .of '\r' ∉ excerpt ∧ excerpt.head? ≠ some (.of '\uFEFF')) := by
  obtain ⟨_, placed, place, rfl, fits⟩ := processor.isPlace_of_process failed
  exact ⟨place, placed, fits,
    ⟨_, _, _, diagnosticBy_excerpt placed false, diagnosticBy_excerpt placed true,
      formats.adds_colored _⟩, adds_diagnosticBy_iff formats placed fits⟩

theorem Failure.diagnostic_adds_strayCloser :
    let failure := (Cause.mismatchedCloser none "a").placed 11
    Highlight.Formats Highlight.terminal ∧
      (Processor.framing.process Processor.strayCloser).result = .error (.failure failure) ∧
      Highlight.Adds (failure.diagnostic Processor.strayCloser false)
        (failure.diagnostic Processor.strayCloser true) := by
  intro failure
  obtain ⟨place, placed, _, _, adds⟩ :=
    diagnostic_adds Highlight.terminal_formats Processor.process_strayCloser
  cases placed
  exact ⟨Highlight.terminal_formats, Processor.process_strayCloser, adds.mpr (by decide)⟩

namespace Processor

open Machine

/-- A closer behind a byte order mark that closes nothing. -/
def markedCloser : Text := "\uFEFF{{/a}}"

theorem process_markedCloser : (framing.process markedCloser).result =
    .error (.failure ((Cause.mismatchedCloser none "a").placed 1)) := by
  have scanned : Span.scan framing.settings.codeMarks markedCloser = [⟨.literal, 0, 7⟩] := by
    with_unfolding_all rfl
  let mark := Job.ofDocument markedCloser 0
  have copied (run : Run) : step framing (ofDocument markedCloser 0 run) =
      .next ⟨mark.advanced [.of '\uFEFF'] "{{/a}}" 1, [], run⟩ := by
    with_unfolding_all rfl
  have stopped (run : Run) : step framing ⟨mark.advanced [.of '\uFEFF'] "{{/a}}" 1, [], run⟩ =
      .stopped (.failure ((Cause.mismatchedCloser none "a").placed 1)) run := by
    with_unfolding_all rfl
  have expanded (run : Run) : (framing.expandSpan ⟨.literal, 0, 7⟩ markedCloser run).result =
      .error (.failure ((Cause.mismatchedCloser none "a").placed 1)) := by
    rw [expandSpan, if_neg (by with_unfolding_all decide), finish_next (copied run),
      finish_stopped (stopped _)]
    rfl
  simp only [process, scanned, expandSpans]
  rw [show List.take (Span.length ⟨.literal, 0, 7⟩) markedCloser = markedCloser from rfl, expanded]

end Processor

/-- The byte order mark is missing in color. -/
theorem Failure.not_adds_markedCloser :
    let failure := (Cause.mismatchedCloser none "a").placed 1
    (Processor.framing.process Processor.markedCloser).result = .error (.failure failure) ∧
      ¬ Highlight.Adds (failure.diagnostic Processor.markedCloser false)
        (failure.diagnostic Processor.markedCloser true) := by
  intro failure
  have iff := @adds_diagnosticBy_iff _ failure Processor.markedCloser 1 Highlight.terminal_formats
    rfl (by decide)
  exact ⟨Processor.process_markedCloser, fun adds => absurd (iff.mp adds) (by decide)⟩

end Flourish
