/-
This file compares runs under different limits. Main statement: a document that is not stopped by a
limit is processed alike under all higher limits.
-/

import Flourish.Proofs.Expansion.Lockstep
import Flourish.Proofs.Expansion.Yield

namespace Flourish

/-- A stop because a limit of a run is exceeded. -/
def Stop.Exhausted (stop : Stop) : Prop :=
  ∃ limit measure offset, stop = .failure ⟨.limitExceeded limit measure, offset⟩

/-- A step that a limit stops. -/
def Step.Exhausted (step : Step) : Prop :=
  ∃ stop run, step = .stopped stop run ∧ stop.Exhausted

/-- The processor with other limits of depth and number. -/
def Processor.limited (processor : Processor) (depth count : Nat) : Processor :=
  { processor with
    settings := { processor.settings with
      maxExpansionDepth := depth
      maxExpansions := count } }

namespace Machine

variable {processor : Processor} {machine : Machine} {opening : Opening} {extent : Extent}
  {tail : Text} {depth count : Nat}

/-- No decision about a tag reads the limits. -/
theorem decide_limited (processor : Processor) (depth count : Nat) (opening : Opening)
    (tail : Text) : Dispatch.decide (processor.limited depth count) opening tail =
      Dispatch.decide processor opening tail :=
  rfl

theorem push_limited {text : Text} {starts : List Nat} {ending : Finish}
    (deeper : processor.settings.maxExpansionDepth ≤ depth) :
    (push processor machine opening extent tail text starts ending).Exhausted ∨
      push (processor.limited depth count) machine opening extent tail text starts ending =
        push processor machine opening extent tail text starts ending := by
  by_cases deep : processor.settings.maxExpansionDepth < machine.top.depth + 1
  · left
    rw [push, if_pos deep]
    exact ⟨_, _, rfl, _, _, _, rfl⟩
  · right
    have shallow : ¬ (processor.limited depth count).settings.maxExpansionDepth <
        machine.top.depth + 1 := by
      simp only [Processor.limited]
      omega
    rw [push, if_neg shallow, push, if_neg deep]

theorem pushTemplate_limited {text : Text} {starts : List Nat} {ending : Finish}
    (deeper : processor.settings.maxExpansionDepth ≤ depth)
    (more : processor.settings.maxExpansions ≤ count) :
    (pushTemplate processor machine opening extent tail text starts ending).Exhausted ∨
      pushTemplate (processor.limited depth count) machine opening extent tail text starts
          ending =
        pushTemplate processor machine opening extent tail text starts ending := by
  by_cases many : processor.settings.maxExpansions < machine.run.expansions + 1
  · left
    rw [pushTemplate, if_pos many]
    exact ⟨_, _, rfl, _, _, _, rfl⟩
  · have few : ¬ (processor.limited depth count).settings.maxExpansions <
        machine.run.expansions + 1 := by
      simp only [Processor.limited]
      omega
    rw [pushTemplate, if_neg many, pushTemplate, if_neg few]
    exact push_limited deeper

theorem act_limited {move : Move} (deeper : processor.settings.maxExpansionDepth ≤ depth)
    (more : processor.settings.maxExpansions ≤ count) :
    (act processor machine opening extent tail move).Exhausted ∨
      act (processor.limited depth count) machine opening extent tail move =
        act processor machine opening extent tail move := by
  cases move with
  | write text => exact Or.inr rfl
  | draw primitive => exact Or.inr rfl
  | expandContent ending => exact push_limited deeper
  | expandTemplate text starts ending => exact pushTemplate_limited deeper more

theorem handle_limited (deeper : processor.settings.maxExpansionDepth ≤ depth)
    (more : processor.settings.maxExpansions ≤ count) :
    (handle processor machine opening tail).Exhausted ∨
      handle (processor.limited depth count) machine opening tail =
        handle processor machine opening tail := by
  simp only [handle, decide_limited]
  split
  · exact Or.inr rfl
  · exact act_limited deeper more

/-- A step that no limit stops is the same under higher limits. -/
theorem step_limited (deeper : processor.settings.maxExpansionDepth ≤ depth)
    (more : processor.settings.maxExpansions ≤ count) (machine : Machine) :
    (step processor machine).Exhausted ∨
      step (processor.limited depth count) machine = step processor machine := by
  simp only [step]
  split
  · exact Or.inr rfl
  · split
    · exact Or.inr rfl
    · exact Or.inr rfl
    · exact Or.inr rfl
    · exact handle_limited deeper more
  · exact Or.inr rfl

end Machine

namespace Processor

variable {processor : Processor} {depth count : Nat}

/-- Higher limits change nothing about a run before it exceeds the lower ones. -/
theorem follows_limited (deeper : processor.settings.maxExpansionDepth ≤ depth)
    (more : processor.settings.maxExpansions ≤ count) :
    Follows Stop.Exhausted processor (processor.limited depth count) :=
  ⟨rfl, Machine.step_limited deeper more⟩

theorem expandSpans_limited (deeper : processor.settings.maxExpansionDepth ≤ depth)
    (more : processor.settings.maxExpansions ≤ count) {done : List Text} {spans : List Span}
    {text : Text} {run : Run}
    (within : ∀ stop, (processor.expandSpans done spans text run).1 = .error stop →
      ¬ stop.Exhausted) :
    (processor.limited depth count).expandSpans done spans text run =
      processor.expandSpans done spans text run := by
  rcases (follows_limited deeper more).expandSpans done spans text run with
    ⟨stop, failed, exhausted⟩ | same
  · exact absurd exhausted (within stop failed)
  · exact same

/-- A document that no limit stops is processed alike under all higher limits: to the same output
with the same files or to the same failure, by way of the same events. -/
theorem process_limited {document : Text}
    (deeper : processor.settings.maxExpansionDepth ≤ depth)
    (more : processor.settings.maxExpansions ≤ count)
    (within : ∀ stop, (processor.process document).result = .error stop → ¬ stop.Exhausted) :
    (processor.limited depth count).process document = processor.process document := by
  let start := Run.start.log (.scanned document.length
    (Span.scan processor.settings.codeMarks document).length)
  have same : (processor.limited depth count).expandSpans []
      (Span.scan processor.settings.codeMarks document) document start =
        processor.expandSpans [] (Span.scan processor.settings.codeMarks document) document
          start := by
    refine expandSpans_limited deeper more fun stop failed => within stop ?_
    simp only [start] at failed
    simp only [process, failed]
  simp only [start] at same
  simp only [process, show (processor.limited depth count).settings.codeMarks =
    processor.settings.codeMarks from rfl, same]

/-- A frame is one level deep, and more levels and templates change nothing about it. -/
theorem process_limited_framed :
    (framing.limited 1 0).process (framed 'x').render =
        ((framing.limited 1 0).limited 2 5).process (framed 'x').render ∧
      ((framing.limited 1 0).process (framed 'x').render).result = .ok ⟨"<x>", []⟩ := by
  have scanned : Span.scan CodeMarks.standard (framed 'x').render =
      [⟨.literal, 0, (framed 'x').render.length⟩] := by with_unfolding_all rfl
  have resolved : (framed 'x').Resolved (framing.limited 1 0) brackets :=
    ⟨⟨_, rfl, rfl⟩, trivial, trivial⟩
  obtain ⟨result, assets, _⟩ := yield_render (framed_wellFormed (by decide)) resolved scanned
    (by decide) (by decide)
  have ended : ((framing.limited 1 0).process (framed 'x').render).result = .ok ⟨"<x>", []⟩ := by
    rw [process_yield, result, assets]
    rfl
  refine ⟨(process_limited (by decide) (by decide) fun stop failed => ?_).symm, ended⟩
  rw [ended] at failed
  cases failed

end Processor
end Flourish
