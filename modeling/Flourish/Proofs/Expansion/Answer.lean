/-
This file says how the expansion of a document ends. Main statement: with regular definitions every
document is expanded or refused with a failure; no defect ends the expansion.
-/

import Flourish.Proofs.Expansion.Ends
import Flourish.Proofs.Expansion.Offset
import Flourish.Renderer.Backend

namespace Flourish

namespace Machine

variable {processor : Processor} {machine : Machine} {opening : Opening} {extent : Extent}
  {tail : Text} {defect : Defect} {run : Run}

/-- A step ends a run with a defect only if the decision about a tag does. -/
theorem decided_of_step_defect
    (stepped : step processor machine = .stopped (.defect defect) run) :
    ∃ opening tail, (Dispatch.decide processor opening tail).outcome = .error (.defect defect) := by
  simp only [step] at stepped
  split at stepped
  · simp only [finishTop] at stepped
    split at stepped
    · cases stepped
    · split at stepped <;> cases stepped
  · next tail unread =>
      split at stepped
      · cases stepped
      · cases stepped
      · cases stepped
      · next opening read =>
          refine ⟨opening, tail, ?_⟩
          simp only [handle] at stepped
          split at stepped
          · next stop decided =>
              cases stop with
              | failure raised => cases stepped
              | defect found =>
                  cases stepped
                  exact decided
          · have tag : machine.top.AtTag opening tail := ⟨unread, read⟩
            obtain ⟨raised, _, same⟩ := act_stopped stepped tag
            cases same
  · cases stepped

end Machine

namespace Processor

open Machine

variable {processor : Processor} {document : Text}

/-- The expansion of the document ends with a text or with a failure. -/
def Answers (processor : Processor) (document : Text) : Prop :=
  (∃ output, (processor.process document).result = .ok output) ∨
    ∃ failure, (processor.process document).result = .error (.failure failure)

theorem answers_of_regular (regular : processor.registry.Regular) (document : Text) :
    processor.Answers document := by
  cases ended : (processor.process document).result with
  | ok output => exact Or.inl ⟨output, ended⟩
  | error stop =>
      right
      cases stop with
      | failure failure => exact ⟨failure, ended⟩
      | defect defect =>
          obtain ⟨span, _, _, run, failed⟩ := span_of_process_error ended
          obtain ⟨last, final, _, stopped⟩ := stopped_of_finish_error failed
          obtain ⟨opening, tail, decided⟩ := decided_of_step_defect stopped
          have allowed := (decided ▸ (Dispatch.decide_sane processor opening tail).ends).fails
          obtain ⟨failure, same⟩ := allowed.failure regular
          cases same

/-- With the registry that comes with the library no defect ends the expansion of a document. -/
theorem answers_standard (partials : Table Text) (settings : Settings) (renderer : Renderer)
    (context : Context) (document : Text) :
    (make (Registry.standard partials) settings renderer context).Answers document :=
  answers_of_regular (Registry.standard_regular partials) document

/-- A document that is one literal span with a tag is expanded in one run of the machine. -/
theorem process_tagged
    (scanned : Span.scan processor.settings.codeMarks document =
      [⟨.literal, 0, document.length⟩])
    (tagged : (Text.firstIndex [.of '{', .of '{'] document).isSome) {outcome : Outcome}
    (finished : finish processor
      (ofDocument document 0 (Run.start.log (.scanned document.length 1))) = outcome) :
    processor.process document =
      match outcome.result with
      | .error stop => ⟨.error stop, outcome.run.events.reverse⟩
      | .ok text => ⟨.ok ⟨text, outcome.run.assets⟩, (outcome.run.log
          (.expanded outcome.run.expansions outcome.run.assets.length)).events.reverse⟩ := by
  have expanded : processor.expandSpan ⟨.literal, 0, document.length⟩ document
      (Run.start.log (.scanned document.length 1)) = outcome := by
    have untagged : (Text.firstIndex [.of '{', .of '{'] document).isNone = false := by
      rw [← Option.not_isSome, tagged]
      rfl
    rw [expandSpan, untagged]
    exact finished
  have whole : document.take (Span.length ⟨.literal, 0, document.length⟩) = document :=
    List.take_length
  simp only [process, scanned, expandSpans, whole, List.length_singleton, expanded]
  rcases outcome with ⟨result, run⟩
  cases result with
  | error stop => rfl
  | ok text => simp [Run.log]

end Processor
end Flourish
