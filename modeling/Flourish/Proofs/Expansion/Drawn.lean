/-
This file says what a run draws. Main statements: whatever the backend is handed while a document is
expanded was decided about a tag, and all its colors are known to the palette.
-/

import Flourish.Proofs.Expansion.Answer
import Flourish.Proofs.Expansion.Run

namespace Flourish

/-- It is decided about some tag with this name that the primitive takes its place. -/
def Processor.Decides (processor : Processor) (name : Text) (primitive : Primitive) : Prop :=
  ∃ opening tail extent, opening.tag.displayName = name ∧
    (Dispatch.decide processor opening tail).outcome = .ok (extent, .draw primitive)

theorem Processor.Decides.coloredBy {processor : Processor} {name : Text} {primitive : Primitive}
    (decides : processor.Decides name primitive) : primitive.ColoredBy processor.palette := by
  obtain ⟨opening, tail, extent, _, decided⟩ := decides
  exact (decided ▸ (Dispatch.decide_sane processor opening tail).ends).holds primitive rfl

/-- All that the run has drawn was decided about tags that it has come across. -/
def Run.Decided (processor : Processor) (run : Run) : Prop :=
  ∀ primitive, .rendered primitive ∈ run.events →
    ∃ name offset, .dispatched name offset ∈ run.events ∧ processor.Decides name primitive

namespace Run.Decided

variable {processor : Processor} {run : Run}

theorem append (decided : run.Decided processor) {events : List Event}
    (undrawn : ∀ primitive, .rendered primitive ∉ events) :
    Run.Decided processor { run with events := events ++ run.events } := by
  intro primitive member
  obtain ⟨name, offset, dispatched, decides⟩ :=
    decided primitive ((List.mem_append.mp member).resolve_left (undrawn primitive))
  exact ⟨name, offset, List.mem_append_right _ dispatched, decides⟩

theorem log (decided : run.Decided processor) {event : Event}
    (undrawn : ∀ primitive, event ≠ .rendered primitive) : (run.log event).Decided processor :=
  decided.append fun primitive member =>
    undrawn primitive (List.mem_singleton.mp member).symm

/-- A primitive may be drawn after the tag about which it was decided. -/
theorem draw (decided : run.Decided processor) {primitive : Primitive} {name : Text} {offset : Int}
    (dispatched : .dispatched name offset ∈ run.events)
    (decides : processor.Decides name primitive) :
    (run.log (.rendered primitive)).Decided processor := by
  intro other member
  rcases List.mem_cons.mp member with same | earlier
  · cases same
    exact ⟨name, offset, List.mem_cons_of_mem _ dispatched, decides⟩
  · obtain ⟨name, offset, dispatched, decides⟩ := decided other earlier
    exact ⟨name, offset, List.mem_cons_of_mem _ dispatched, decides⟩

theorem collect (decided : run.Decided processor) (asset : Asset) :
    (run.collect asset).Decided processor := by
  cases asset with
  | markdown text => exact decided
  | file asset =>
      simp only [Run.collect]
      split <;> exact decided

end Run.Decided

namespace Machine

variable {processor : Processor} {machine : Machine}

theorem push_decided {opening : Opening} {extent : Extent} {tail text : Text} {starts : List Nat}
    {ending : Finish} (decided : machine.run.Decided processor) :
    (push processor machine opening extent tail text starts ending).run.Decided processor := by
  simp only [push]
  split
  · exact decided
  · exact decided.log fun _ => Event.noConfusion

theorem act_decided {opening : Opening} {extent : Extent} {tail : Text} {move : Move} {offset : Int}
    (decided : machine.run.Decided processor)
    (dispatched : .dispatched opening.tag.displayName offset ∈ machine.run.events)
    (chosen : (Dispatch.decide processor opening tail).outcome = .ok (extent, move)) :
    (act processor machine opening extent tail move).run.Decided processor := by
  cases move with
  | write text => exact decided
  | draw primitive =>
      have drawn := decided.draw dispatched ⟨opening, tail, extent, rfl, chosen⟩
      simp only [act, Machine.draw]
      split
      · exact drawn
      · exact drawn
      · exact drawn.collect _
  | expandContent ending => exact push_decided decided
  | expandTemplate text starts ending =>
      simp only [act, pushTemplate]
      split
      · exact decided
      · exact push_decided decided

/-- A step draws nothing but what was decided about the tag it is at. -/
theorem step_decided (decided : machine.run.Decided processor) :
    (step processor machine).run.Decided processor := by
  simp only [step]
  split
  · simp only [finishTop]
    split
    · exact decided
    · split <;> exact decided.log fun _ => Event.noConfusion
  · split
    · exact decided
    · exact decided
    · exact decided
    · next tail _ _ opening _ =>
        have sane := Dispatch.decide_sane processor opening tail
        let dispatched := machine.run.log
          (.dispatched opening.tag.displayName (machine.top.offsetOf machine.top.position))
        have logged : dispatched.Decided processor := decided.log fun _ => Event.noConfusion
        have told : Run.Decided processor { dispatched with
            events := (Dispatch.decide processor opening tail).events.reverse ++
              dispatched.events } :=
          logged.append fun primitive member =>
            sane.undrawn primitive (List.mem_reverse.mp member)
        simp only [handle]
        split
        · exact told
        · next outcome =>
            exact act_decided told (List.mem_append_right _ List.mem_cons_self) outcome
  · exact decided

theorem finish_decided (decided : machine.run.Decided processor) :
    (finish processor machine).run.Decided processor := by
  have stepped := step_decided decided
  fun_induction finish processor machine with
  | case1 machine text run ended =>
      rw [ended] at stepped
      exact stepped
  | case2 machine stop run ended =>
      rw [ended] at stepped
      exact stepped
  | case3 machine next led _ inductionHypothesis =>
      rw [led] at stepped
      exact inductionHypothesis stepped (step_decided stepped)

end Machine

namespace Processor

variable {processor : Processor} {run : Run}

theorem expandSpan_decided (span : Span) (text : Text) (decided : run.Decided processor) :
    (processor.expandSpan span text run).run.Decided processor := by
  unfold expandSpan
  split
  · exact decided
  · exact Machine.finish_decided decided

theorem expandSpans_decided (done : List Text) (spans : List Span) (text : Text)
    (decided : run.Decided processor) :
    (processor.expandSpans done spans text run).2.Decided processor := by
  induction spans generalizing done text run with
  | nil => exact decided
  | cons span rest inductionHypothesis =>
      have expanded := expandSpan_decided span (text.take span.length) decided
      simp only [expandSpans]
      split
      · exact expanded
      · exact inductionHypothesis _ _ expanded

/-- All that is drawn while a document is expanded was decided about tags come across before. -/
theorem decided_of_process {document : Text} {primitive : Primitive}
    (drawn : .rendered primitive ∈ (processor.process document).events) :
    ∃ name offset, .dispatched name offset ∈ (processor.process document).events ∧
      processor.Decides name primitive := by
  have empty : Run.start.Decided processor := fun _ member => nomatch member
  have start : (Run.start.log (.scanned document.length
      (Span.scan processor.settings.codeMarks document).length)).Decided processor :=
    empty.log fun _ => Event.noConfusion
  have ended := expandSpans_decided [] (Span.scan processor.settings.codeMarks document) document
    start
  simp only [process] at drawn ⊢
  split at drawn
  · simpa using ended primitive (List.mem_reverse.mp drawn)
  · have counted := ended.log (fun _ => Event.noConfusion) primitive (List.mem_reverse.mp drawn)
    simpa using counted

/-- A document that is one tag, which is drawn as nothing, hands its primitive to the backend. -/
theorem rendered_of_step {document : Text} {primitive : Primitive} {letters : Nat}
    {before : Run → Run}
    (scanned : Span.scan processor.settings.codeMarks document =
      [⟨.literal, 0, document.length⟩])
    (tagged : (Text.firstIndex [.of '{', .of '{'] document).isSome)
    (stepped : ∀ run, Machine.step processor (Machine.ofDocument document 0 run) =
      .next ⟨(Job.ofDocument document 0).advanced [] [] letters, [],
        (before run).log (.rendered primitive)⟩) :
    .rendered primitive ∈ (processor.process document).events := by
  have finished (run : Run) : Machine.finish processor (Machine.ofDocument document 0 run) =
      ⟨.ok [], ((before run).log (.rendered primitive)).log (.popped 0 0)⟩ := by
    rw [Machine.finish_next (stepped run)]
    exact Machine.finish_done rfl
  rw [process_tagged scanned tagged (finished _)]
  simp [Run.log]

/-- All that is drawn while a document is expanded has colors of the palette. -/
theorem coloredBy_of_process {document : Text} {primitive : Primitive}
    (drawn : .rendered primitive ∈ (processor.process document).events) :
    primitive.ColoredBy processor.palette := by
  obtain ⟨_, _, _, decides⟩ := decided_of_process drawn
  exact decides.coloredBy

end Processor
end Flourish
