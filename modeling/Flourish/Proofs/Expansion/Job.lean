/-
This file shows what a job knows of where its letters come from. Main statements: the segments of
every job of a run are true to the document, and a letter of inserted content has the source that
it has in the content of its tag.
-/

import Flourish.Proofs.Expansion.Segment
import Flourish.Proofs.Expansion.Step
import Flourish.Span.Basic

namespace Flourish

namespace Job

/-- A job that reads its text in order and whose segments are true to the document. -/
structure Mapped (document : Text) (job : Job) : Prop where
  unread : job.rest = job.text.drop job.position
  ordered : Segment.Ordered job.segments
  faithful : ∀ segment ∈ job.segments, segment.Faithful document job.text
  bordered : ∀ segment ∈ job.segments, segment.Bordered document job.text

variable {document : Text} {job : Job} {opening : Opening} {tail : Text} {extent : Extent}

theorem ofDocument_mapped (start stop : Nat) (document : Text) :
    (ofDocument (Text.slice start stop document) start).Mapped document := by
  refine ⟨rfl, List.pairwise_singleton _ _, fun segment member => ?_, fun segment member => ?_⟩
  · cases List.mem_singleton.mp member
    refine ⟨0, (Text.slice start stop document).length, start, ?_, by simp [ofDocument], ?_⟩
    · simp
    · rw [Text.slice_length, Nat.zero_add]
      exact List.take_length
  · cases List.mem_singleton.mp member
    exact Or.inl rfl

theorem Mapped.produced (mapped : job.Mapped document) (output : Text) :
    Job.Mapped document { job with produced := output } :=
  ⟨mapped.unread, mapped.ordered, mapped.faithful, mapped.bordered⟩

theorem Mapped.advanced (mapped : job.Mapped document) (output : Text) (letters : Nat) :
    (job.advanced output (job.rest.drop letters) letters).Mapped document := by
  refine ⟨?_, mapped.ordered, mapped.faithful, mapped.bordered⟩
  show job.rest.drop letters = job.text.drop (job.position + letters)
  rw [mapped.unread, List.drop_drop]

/-- The content of a tag is a stretch of the text of its job, and a brace comes after it. -/
theorem Mapped.content {size closerSize : Nat} (mapped : job.Mapped document)
    (tag : job.AtTag opening tail) (sized : Dispatch.extent opening tail = .ok extent)
    (body : extent.body = some (size, closerSize)) :
    opening.headStop + size ≤ job.text.length ∧ job.text[opening.headStop + size]? = some (.of '{') ∧
      extent.contentIn tail =
        Text.slice opening.headStop (opening.headStop + size) job.text := by
  obtain ⟨headStop, inTail, closed⟩ := Dispatch.extent_fits tag.read sized
  have behind : tail = job.text.drop (job.position + 2) := by
    rw [← List.drop_drop, ← mapped.unread, tag.unread]
    rfl
  have braces := closed _ body
  rw [behind, List.drop_drop,
    show job.position + 2 + (extent.head + size) = opening.headStop + size by omega] at braces
  have brace : job.text[opening.headStop + size]? = some (.of '{') :=
    Text.getElem?_of_isPrefix braces (show 0 < 2 by omega)
  refine ⟨?_, brace, ?_⟩
  · have := (List.getElem?_eq_some_iff.mp brace).1
    omega
  · rw [Extent.contentIn, behind, List.drop_drop, ← headStop, Text.slice_eq_take,
      Nat.add_sub_cancel_left, Extent.contentSize, body]
    rfl

/-- Two braces in the text of a job that were taken from the document, the second perhaps only
there, stand in the document. -/
theorem Mapped.braces_source {position : Nat} {source : Int} (mapped : job.Mapped document)
    (braces : [.of '{', .of '{'] <+: job.text.drop position)
    (found : Segment.sourceOf? job.segments position = some source) :
    ∃ offset : Nat, source = offset ∧ [.of '{', .of '{'] <+: document.drop offset := by
  obtain ⟨segment, member, _, _, rfl⟩ := Segment.mem_of_sourceOf found
  have faithful := mapped.faithful segment member
  have bordered := mapped.bordered segment member
  obtain ⟨start, size, from_, rfl, inText, _⟩ := mapped.faithful segment member
  obtain ⟨first, second⟩ := Text.braces_iff.mp braces
  obtain ⟨short, _⟩ := List.getElem?_eq_some_iff.mp second
  simp only at *
  obtain ⟨index, rfl⟩ : ∃ index, position = start + index := ⟨position - start, by omega⟩
  refine ⟨from_ + index, by omega, Text.braces_iff.mpr ⟨?_, ?_⟩⟩
  · rw [← faithful.letter (by omega), first]
  · by_cases inside : index + 1 < size
    · rw [Nat.add_assoc, ← faithful.letter inside, ← Nat.add_assoc, second]
    · -- The second brace is not copied, so it is the one that comes after the source.
      rcases bordered with atEnd | after
      · simp only at atEnd
        omega
      · rw [← after]
        congr 1
        simp only
        omega

section Child

variable {text : Text} {starts : List Nat} {ending : Finish}

theorem child_segments {size closerSize : Nat} (body : extent.body = some (size, closerSize)) :
    (job.child text extent opening.headStop starts ending).segments =
      Segment.copies job.segments opening.headStop size starts := by
  simp only [child, body]
  rfl

theorem child_segments_nil (body : extent.body = none) :
    (job.child text extent opening.headStop starts ending).segments = [] := by
  simp only [child, body]

/-- The job of a tag is as true to the document as the job that it stands in. -/
theorem Mapped.child (mapped : job.Mapped document) (tag : job.AtTag opening tail)
    (sized : Dispatch.extent opening tail = .ok extent)
    (inserted : Inserted (extent.contentIn tail) text starts) :
    (job.child text extent opening.headStop starts ending).Mapped document := by
  cases body : extent.body with
  | none =>
      have empty : (job.child text extent opening.headStop starts ending).segments = [] :=
        child_segments_nil body
      refine ⟨rfl, ?_, ?_, ?_⟩
      · rw [empty]
        exact List.Pairwise.nil
      · simp only [empty, List.not_mem_nil, false_implies, implies_true]
      · simp only [empty, List.not_mem_nil, false_implies, implies_true]
  | some sizes =>
      obtain ⟨size, closerSize⟩ := sizes
      obtain ⟨fits, brace, content⟩ := mapped.content tag sized body
      obtain ⟨spaced, written⟩ := inserted
      rw [content] at spaced written
      rw [Text.length_slice fits, Nat.add_sub_cancel_left] at spaced
      have cut : (job.child text extent opening.headStop starts ending).segments =
          Segment.copies job.segments opening.headStop size starts := child_segments body
      refine ⟨rfl, ?_, ?_, ?_⟩
      · rw [cut]
        exact mapped.ordered.copies spaced
      · rw [cut]
        exact Segment.Faithful.copies mapped.faithful fits written
      · rw [cut]
        exact Segment.Bordered.copies mapped.bordered mapped.faithful brace

/-- A letter of inserted content has the source that it has in the content of the tag. -/
theorem Mapped.child_source {start index : Nat} (mapped : job.Mapped document)
    (tag : job.AtTag opening tail) (sized : Dispatch.extent opening tail = .ok extent)
    (inserted : Inserted (extent.contentIn tail) text starts) (member : start ∈ starts)
    (within : index < (extent.contentIn tail).length) :
    Segment.sourceOf? (job.child text extent opening.headStop starts ending).segments
        ((start + index : Nat) : Int) =
      Segment.sourceOf? job.segments ((opening.headStop + index : Nat) : Int) := by
  cases body : extent.body with
  | none => simp [Extent.contentIn, Extent.contentSize, body] at within
  | some sizes =>
      obtain ⟨size, closerSize⟩ := sizes
      obtain ⟨fits, _, content⟩ := mapped.content tag sized body
      have spaced := inserted.spaced
      rw [content, Text.length_slice fits, Nat.add_sub_cancel_left] at spaced within
      rw [child_segments body]
      exact Segment.sourceOf_copies spaced member within

/-- The sources of the job of a tag lie between those of the job that it stands in. -/
theorem child_within {low high : Int}
    (within : ∀ segment ∈ job.segments, segment.Within low high) :
    ∀ segment ∈ (job.child text extent opening.headStop starts ending).segments,
      segment.Within low high := by
  cases body : extent.body with
  | none =>
      rw [child_segments_nil body]
      exact fun segment member => nomatch member
  | some sizes =>
      rw [child_segments body]
      exact Segment.Within.copies within

end Child

end Job

namespace Machine

/-- The jobs that wait, the one in hand first. -/
def jobs (machine : Machine) : List Job :=
  machine.top :: machine.below

/-- What one job has and every job of a tag in it takes over holds of all jobs of a run. -/
theorem every_job {processor : Processor} {first machine : Machine} (test : Job → Prop)
    (begun : ∀ job ∈ first.jobs, test job)
    (produced : ∀ job output, test job → test { job with produced := output })
    (advanced : ∀ job output letters, test job →
      test (job.advanced output (job.rest.drop letters) letters))
    (child : ∀ job opening tail extent text starts ending, job.AtTag opening tail →
      Dispatch.extent opening tail = .ok extent →
      Inserted (extent.contentIn tail) text starts → test job →
        test (job.child text extent opening.headStop starts ending))
    (reached : Reaches processor first machine) : ∀ job ∈ machine.jobs, test job := by
  induction reached with
  | refl => exact begun
  | tail _ stepped inductionHypothesis =>
      obtain ⟨top, below⟩ := List.forall_mem_cons.mp inductionHypothesis
      cases step_progress stepped with
      | popped parent others output run used waiting =>
          rw [waiting] at below
          obtain ⟨first, rest⟩ := List.forall_mem_cons.mp below
          exact List.forall_mem_cons.mpr ⟨produced parent output first, rest⟩
      | advanced output letters run fits =>
          exact List.forall_mem_cons.mpr ⟨advanced _ output letters top, below⟩
      | pushed opening tail extent text starts ending run tag sized inserted =>
          exact List.forall_mem_cons.mpr
            ⟨child _ opening tail extent text starts ending tag sized inserted top,
              List.forall_mem_cons.mpr ⟨advanced _ _ _ top, below⟩⟩

variable {processor : Processor} {document : Text} {span : Span} {run : Run} {machine : Machine}

/-- The jobs of a run over a span are true to the document. -/
theorem mapped_of_reaches
    (reached : Reaches processor (ofDocument (span.textIn document) span.start run) machine) :
    ∀ job ∈ machine.jobs, job.Mapped document := by
  refine every_job (Job.Mapped document) ?_ ?_ ?_ ?_ reached
  · intro job member
    cases List.mem_singleton.mp member
    exact Job.ofDocument_mapped span.start span.stop document
  · exact fun job output mapped => mapped.produced output
  · exact fun job output letters mapped => mapped.advanced output letters
  · exact fun job opening tail extent text starts ending tag sized inserted mapped =>
      mapped.child tag sized inserted

end Machine
end Flourish
