/-
This file says what the failures of documents and calls suggest. Main statement: what a registry
lists and proposes can be used, and a name that is suggested for an unknown one is known.
-/

import Flourish.Proofs.Expansion.Answer

namespace Flourish

/-- The backend itself refuses a primitive for this cause. -/
def Renderer.RefusesFor (renderer : Renderer) (cause : Cause) : Prop :=
  ∃ primitive refused, renderer primitive = .error (.refused refused) ∧ refused.cause = cause

theorem Finish.apply_advises {registry : Registry} {finish : Finish} {text : Text}
    {failure : Failure} (failed : finish.apply text = .error failure) :
    failure.cause.Advises registry := by
  cases finish with
  | keep => cases failed
  | surround before after => cases failed
  | transform kind parameters => exact Transform.apply_advises failed

namespace Machine

variable {processor : Processor} {machine : Machine} {job : Job} {failure : Failure} {run : Run}

/-- A failure at a token that is not the backend's own suggests names that are known. -/
theorem Raised.advises (raised : Raised processor job failure)
    (own : ¬ Renderer.RefusesFor processor.renderer failure.cause) :
    failure.cause.Advises processor.registry := by
  cases raised with
  | malformed tail failure unread read => exact Token.read_advises read
  | closer tail closer unread read => trivial
  | decided opening tail failure tag outcome =>
      have ends := (Dispatch.decide_sane processor opening tail).ends
      rw [outcome] at ends
      exact ends.fails.advises failure rfl
  | refused opening tail primitive failure tag drawn =>
      exact absurd ⟨primitive, failure, drawn, rfl⟩ own
  | broken opening tail primitive kind message tag drawn => trivial
  | exhausted opening tail limit measure tag => trivial

/-- So does a failure of a step. -/
theorem advises_of_step (stepped : step processor machine = .stopped (.failure failure) run)
    (own : ¬ Renderer.RefusesFor processor.renderer failure.cause) :
    failure.cause.Advises processor.registry := by
  rcases step_stopped stepped with ⟨_, error, applied, _, same⟩ | ⟨raised, found, rfl⟩
  · rw [same]
    exact Finish.apply_advises applied
  · exact found.advises own

end Machine

/-- A document that is refused is refused with names that are known. -/
theorem Processor.advises_of_process {processor : Processor} {document : Text} {failure : Failure}
    (failed : (processor.process document).result = .error (.failure failure))
    (own : ¬ Renderer.RefusesFor processor.renderer failure.cause) :
    failure.cause.Advises processor.registry := by
  obtain ⟨span, _, _, run, failed⟩ := span_of_process_error failed
  obtain ⟨last, ending, _, stopped⟩ := Machine.stopped_of_finish_error failed
  exact Machine.advises_of_step stopped own

theorem Component.advises_of_expand {registry : Registry} {palette : Palette} {tag : Tag}
    {content : Text} {context : Context} {failure : Failure}
    (failed : (expand registry palette tag content context).result = .error (.failure failure)) :
    failure.cause.Advises registry := by
  unfold expand at failed
  split at failed
  · next unresolved =>
      cases failed
      exact resolve_advises unresolved
  · next entry resolved =>
      have ends : Ends _ registry.Allows (expandEntry registry palette entry tag content).result :=
        expandEntry_ends (mem_of_resolve resolved)
      rw [failed] at ends
      exact ends.fails.advises failure rfl

namespace Registry

/-- With each id once in each table, as in every registry that was built, what is listed for a place
is what can be used there, and the alternatives of a mismatch can be used. What a document or a call
is refused with suggests other names, which are known, if the backend is not what refuses it. -/
theorem advice_followed (registry : Registry)
    (distinct : ∀ kind, Entry.Distinct (registry.entries kind)) :
    registry.Candid ∧
      (∀ (processor : Processor) document failure, processor.registry = registry →
        (processor.process document).result = .error (.failure failure) →
        ¬ Renderer.RefusesFor processor.renderer failure.cause → failure.cause.Advises registry) ∧
      ∀ palette tag content context (failure : Failure),
        (Component.expand registry palette tag content context).result =
          .error (.failure failure) → failure.cause.Advises registry := by
  refine ⟨candid distinct, ?_, ?_⟩
  · rintro processor document failure rfl failed own
    exact Processor.advises_of_process failed own
  · intro palette tag content context failure failed
    exact Component.advises_of_expand failed

/-- A processor with the crossing registry whose backend breaks down. -/
def crossingProcessor : Processor :=
  .make crossing Settings.standard (fun _ => .error (.broken [] [])) Context.block

/-- The document is refused for a style that no entry has. -/
theorem process_misspelled :
    (crossingProcessor.process (selfClosingForm "bald")).result =
      .error (.failure ⟨(unknownIn .style crossing.styles "bald").cause, some 0⟩) := by
  have stopped (run : Run) :
      Machine.step crossingProcessor (Machine.ofDocument (selfClosingForm "bald") 0 run) =
        .stopped (.failure ⟨(unknownIn .style crossing.styles "bald").cause, some 0⟩)
          (run.log (.dispatched "bald" 0)) := by
    with_unfolding_all rfl
  rw [Processor.process_tagged (by with_unfolding_all rfl) (by with_unfolding_all rfl)
    (Machine.finish_stopped (stopped _))]
  rfl

/-- What is suggested to the misspelled document is known. -/
theorem advice_followed_crossing :
    (∀ kind, Entry.Distinct (crossing.entries kind)) ∧ crossing.Candid ∧
      ∀ suggestion ∈ Text.suggestions "bald" (Entry.names crossing.styles) 3,
        suggestion ≠ "bald" ∧ ∃ entry, Entry.find? crossing.styles suggestion = some entry := by
  have distinct := crossing_accepted.wellFormed.distinct
  have own : ¬ Renderer.RefusesFor crossingProcessor.renderer
      (unknownIn .style crossing.styles "bald").cause := by
    rintro ⟨primitive, refused, drawn, _⟩
    cases drawn
  obtain ⟨candid, suggested, _⟩ := advice_followed crossing distinct
  have advises := suggested crossingProcessor _ _ rfl process_misspelled own
  exact ⟨distinct, candid, advises .style rfl⟩

end Registry
end Flourish
