/-
This file shows that failures stand in the document. Main statement: whatever place a renderer gives
to a failure, a document that is refused is refused at one of its own places.
-/

import Flourish.Proofs.Expansion.Offset
import Flourish.Proofs.Span.Cover

namespace Flourish

/-- A place of a document as a reported offset. The end of the document is one, too. -/
def IsPlace (document : Text) (offset : Int) : Prop :=
  ∃ place : Nat, offset = place ∧ place ≤ document.length

namespace Job

/-- A job of which every letter has a place in the document. -/
structure Inside (document : Text) (job : Job) : Prop where
  within : ∀ segment ∈ job.segments, segment.Within 0 document.length
  origin : IsPlace document job.origin

variable {document : Text} {job : Job}

theorem Inside.offsetOf (inside : job.Inside document) (position : Int) :
    IsPlace document (job.offsetOf position) := by
  rw [Job.offsetOf]
  cases found : Segment.sourceOf? job.segments position with
  | none => exact inside.origin
  | some source =>
      obtain ⟨segment, member, above, below, rfl⟩ := Segment.mem_of_sourceOf found
      obtain ⟨low, high⟩ := inside.within segment member
      rw [Option.getD_some]
      exact ⟨(segment.source + position - segment.start).toNat, by omega, by omega⟩

end Job

namespace Machine

variable {processor : Processor} {document : Text} {span : Span} {run : Run} {machine : Machine}

/-- The jobs of a run over a stretch of the document stay in the document. -/
theorem inside_of_reaches (ordered : span.start ≤ span.stop) (fits : span.stop ≤ document.length)
    (reached : Reaches processor (ofDocument (span.textIn document) span.start run) machine) :
    ∀ job ∈ machine.jobs, job.Inside document := by
  refine every_job (Job.Inside document) ?_ (fun _ _ inside => ⟨inside.within, inside.origin⟩)
    (fun _ _ _ inside => ⟨inside.within, inside.origin⟩) ?_ reached
  · intro job there
    cases List.mem_singleton.mp there
    have size := span.length_textIn_le document
    refine ⟨?_, span.start, rfl, by omega⟩
    intro segment member
    cases List.mem_singleton.mp member
    simp only [Segment.Within]
    omega
  · intro job opening tail extent text starts ending _ _ _ inside
    exact ⟨Job.child_within inside.within, inside.offsetOf job.position⟩

end Machine

/-- A document that is refused is refused at one of its places. -/
theorem Processor.isPlace_of_process {processor : Processor} {document : Text} {failure : Failure}
    (failed : (processor.process document).result = .error (.failure failure)) :
    ∃ offset, failure.offset = some offset ∧ IsPlace document offset := by
  obtain ⟨span, member, _, run, failed⟩ := span_of_process_error failed
  obtain ⟨last, ending, reached, stopped⟩ := Machine.stopped_of_finish_error failed
  have ordered := Span.start_le_stop (Span.scan_follow _ document) member
  have inside := Machine.inside_of_reaches ordered (Span.stop_le_of_mem_scan member) reached
    last.top List.mem_cons_self
  rcases Machine.step_stopped stopped with ⟨_, _, _, placed, _⟩ | ⟨raised, _, rfl⟩
  · exact ⟨_, placed, inside.origin⟩
  · exact ⟨_, rfl, inside.offsetOf _⟩

end Flourish
