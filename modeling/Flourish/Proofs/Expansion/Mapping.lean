/-
This file shows that offsets are exact at every depth. Main statement: the segments of every
waiting job are true to the document, content that is inserted unchanged keeps its offsets, and a
failure of a tag that was copied from the document stands where the tag does.
-/

import Flourish.Processor.Run
import Flourish.Proofs.Expansion.Job
import Flourish.Proofs.Span.Scan

namespace Flourish

namespace Segment

/-- A letter at this position was taken from the document. -/
def Covers (segments : List Segment) (position : Int) : Prop :=
  ∃ segment ∈ segments, segment.start ≤ position ∧ position < segment.stop

theorem sourceOf_of_covers {segments : List Segment} {position : Int}
    (covers : Covers segments position) : ∃ source, sourceOf? segments position = some source := by
  obtain ⟨segment, member, inside⟩ := covers
  rw [sourceOf?, ← Option.isSome_iff_exists, Option.isSome_map, List.find?_isSome]
  exact ⟨segment, member, by simpa using inside⟩

theorem sourceOf_of_not_covers {segments : List Segment} {position : Int}
    (uncovered : ¬ Covers segments position) : sourceOf? segments position = none := by
  rw [sourceOf?, Option.map_eq_none_iff, List.find?_eq_none]
  intro segment member inside
  exact uncovered ⟨segment, member, by simpa using inside⟩

end Segment

namespace Machine

variable {processor : Processor} {document : Text} {span : Span} {run : Run}
  {machine next : Machine} {opening : Opening} {tail : Text} {extent : Extent} {start : Nat}

/-- The jobs of a run over a span take no letters from outside the span. -/
theorem within_of_reaches (ordered : span.start ≤ span.stop)
    (reached : Reaches processor (ofDocument (span.textIn document) span.start run) machine) :
    ∀ job ∈ machine.jobs, ∀ segment ∈ job.segments, segment.Within span.start span.stop := by
  refine every_job (fun job => ∀ segment ∈ job.segments, segment.Within span.start span.stop)
    ?_ (fun _ _ within => within) (fun _ _ _ within => within)
    (fun _ _ _ _ _ _ _ _ _ _ within => Job.child_within within) reached
  intro job there segment member
  cases List.mem_singleton.mp there
  cases List.mem_singleton.mp member
  have size := span.length_textIn_le document
  simp only [Segment.Within]
  omega

/-- The offsets at which a tag's content is inserted unchanged in the text that the tag gives rise
to: the front of a frame's text, and each place of the content in the template of a component that
is not transformed before it is expanded or in the template of a project. -/
inductive Inserts (processor : Processor) (tag : Tag) (content : Text) : Nat → Prop
  | frame (kind : tag.kind = .frame) : Inserts processor tag content 0
  | component (entry : Entry ComponentBody) (before after : List Filled) (kind : tag.kind = .ui)
      (resolved : Component.resolve processor.registry tag processor.context = .ok entry)
      (templated : entry.body.native = false)
      (kept : ∀ transform, entry.body.postProcess ≠ some ⟨transform, .preExpand⟩)
      (filled : Component.fill processor.palette entry tag.arguments =
        .ok (before ++ .content :: after)) :
      Inserts processor tag content (Filled.text content before).length
  | partials (entry : Entry PartialBody) (before after : List Filled)
      (kind : tag.kind = .partials)
      (resolved : Registry.require .partials processor.registry.partials tag.name
        processor.context = .ok entry)
      (filled : Substitution.partialParts entry.body.template = before ++ .content :: after) :
      Inserts processor tag content (Filled.text content before).length

theorem component_opened {entry : Entry ComponentBody} {before after : List Filled} {move : Move}
    (resolved : Component.resolve processor.registry opening.tag processor.context = .ok entry)
    (templated : entry.body.native = false)
    (kept : ∀ transform, entry.body.postProcess ≠ some ⟨transform, .preExpand⟩)
    (filled : Component.fill processor.palette entry opening.tag.arguments =
      .ok (before ++ .content :: after))
    (decided : (Dispatch.component processor opening tail).outcome = .ok (extent, move)) :
    ∃ text starts, move.opened? (extent.contentIn tail) = some (text, starts) ∧
      (Filled.text (extent.contentIn tail) before).length ∈ starts := by
  simp only [Dispatch.component, resolved] at decided
  split at decided
  · cases decided
  · next size sized =>
      obtain ⟨output, expanded, same⟩ := exists_of_map_ok decided
      cases same
      have finished (text : Text) (starts : List Nat) (parameters : Table Text) :
          Component.finished text starts entry.body.postProcess parameters =
            .ok (.template text entry.body.postProcess parameters starts) := by
        unfold Component.finished
        split
        · next transform same => exact absurd same (kept transform)
        · rfl
      simp only [Component.expandEntry, Component.call, templated, Component.substitute_eq, filled,
        Except.map, finished, Bool.false_eq_true, if_false] at expanded
      split at expanded
      · cases expanded
      · next called =>
          split at called <;> cases called
      · next called =>
          split at called <;> cases called
          cases expanded
          refine ⟨_, _, rfl, Filled.mem_starts_iff.mpr ⟨before, after, rfl, ?_⟩⟩
          rw [Nat.zero_add]

/-- A tag whose content is inserted unchanged has a text of its own, in which the content stands
where it is inserted. -/
theorem inserts_opened {move : Move}
    (inserts : Inserts processor opening.tag (extent.contentIn tail) start)
    (decided : (Dispatch.decide processor opening tail).outcome = .ok (extent, move)) :
    ∃ text starts, move.opened? (extent.contentIn tail) = some (text, starts) ∧
      start ∈ starts := by
  cases inserts with
  | frame kind =>
      simp only [Dispatch.decide, kind, Dispatch.frame] at decided
      split at decided
      · cases decided
      · split at decided
        · cases decided
        · split at decided <;> cases decided
          exact ⟨_, _, rfl, List.mem_singleton_self 0⟩
  | component entry before after kind resolved templated kept filled =>
      simp only [Dispatch.decide, kind] at decided
      exact component_opened resolved templated kept filled decided
  | partials entry before after kind resolved filled =>
      simp only [Dispatch.decide, kind, Dispatch.partials, resolved] at decided
      split at decided <;> cases decided
      refine ⟨_, _, rfl, ?_⟩
      simp only [Substitution.fillPartial_eq, filled]
      refine Filled.mem_starts_iff.mpr ⟨before, after, rfl, ?_⟩
      rw [Nat.zero_add]

/-- A step on a tag whose content is inserted unchanged begins a job for the tag. -/
theorem step_inserts (tag : machine.top.AtTag opening tail)
    (sized : Dispatch.extent opening tail = .ok extent)
    (inserts : Inserts processor opening.tag (extent.contentIn tail) start)
    (stepped : step processor machine = .next next) :
    ∃ text starts ending,
      next.top = machine.top.child text extent opening.headStop starts ending ∧
      Inserted (extent.contentIn tail) text starts ∧ start ∈ starts := by
  have sound := Dispatch.decide_sound processor opening tail
  rw [step_atTag tag] at stepped
  simp only [handle] at stepped
  split at stepped
  · cases stepped
  · next found move decided =>
      simp only [Decision.Sound, decided] at sound
      obtain ⟨same, inserted⟩ := sound
      cases sized.symm.trans same
      obtain ⟨text, starts, opened, member⟩ := inserts_opened inserts decided
      obtain ⟨ending, run, rfl⟩ := act_opened opened stepped
      exact ⟨text, starts, ending, rfl, inserted text starts opened, member⟩

/-- The segments of every waiting job are in order and within its text, and their letters are those
of the document within the span. -/
def Sound (document : Text) (span : Span) (machine : Machine) : Prop :=
  ∀ job ∈ machine.jobs, Segment.Ordered job.segments ∧ ∀ segment ∈ job.segments,
    segment.Faithful document job.text ∧ segment.Within span.start span.stop

/-- Content that the next step inserts unchanged keeps its offsets. A letter of it that was not
taken from the document stands where the tag does. -/
def Complete (processor : Processor) (machine : Machine) : Prop :=
  ∀ next opening tail extent start, step processor machine = .next next →
    machine.top.AtTag opening tail → Dispatch.extent opening tail = .ok extent →
    Inserts processor opening.tag (extent.contentIn tail) start →
      extent.contentIn tail <+: next.top.text.drop start ∧
      ∀ index : Nat, index < (extent.contentIn tail).length →
        (Segment.Covers machine.top.segments (opening.headStop + index) →
          next.top.offsetOf (start + index) =
            machine.top.offsetOf (opening.headStop + index)) ∧
        (¬ Segment.Covers machine.top.segments (opening.headStop + index) →
          next.top.offsetOf (start + index) = machine.top.offsetOf machine.top.position)

/-- The letter at a position of a job's text was copied from the document, where it stands at an
offset: it is in the text of the span, or in content that was inserted unchanged and was copied
from the document itself. -/
inductive Copied (processor : Processor) (text : Text) (base : Nat) (run : Run) :
    Job → Nat → Nat → Prop
  | ofSpan (position : Nat) (within : position < text.length) :
      Copied processor text base run (Job.ofDocument text base) position (base + position)
  | later (job : Job) (rest : Text) (reading : Nat) (produced : Text) (position offset : Nat)
      (copied : Copied processor text base run job position offset) :
      Copied processor text base run
        { job with rest := rest, position := reading, produced := produced } position offset
  | inserted (machine next : Machine) (opening : Opening) (tail : Text) (extent : Extent)
      (start index offset : Nat)
      (reached : Reaches processor (ofDocument text base run) machine)
      (tag : machine.top.AtTag opening tail)
      (sized : Dispatch.extent opening tail = .ok extent)
      (inserts : Inserts processor opening.tag (extent.contentIn tail) start)
      (stepped : step processor machine = .next next)
      (within : index < (extent.contentIn tail).length)
      (copied : Copied processor text base run machine.top (opening.headStop + index) offset) :
      Copied processor text base run next.top (start + index) offset

/-- The tag that a job belongs to was copied from the document, where it stands at an offset. -/
inductive Owned (processor : Processor) (text : Text) (base : Nat) (run : Run) :
    Job → Nat → Prop
  | pushed (machine next : Machine) (opening : Opening) (tail : Text) (offset : Nat)
      (tag : machine.top.AtTag opening tail) (stepped : step processor machine = .next next)
      (deeper : next.below.length = machine.below.length + 1)
      (copied : Copied processor text base run machine.top machine.top.position offset) :
      Owned processor text base run next.top offset
  | later (job : Job) (rest : Text) (reading : Nat) (produced : Text) (offset : Nat)
      (owned : Owned processor text base run job offset) :
      Owned processor text base run
        { job with rest := rest, position := reading, produced := produced } offset

/-- A step that fails at a tag that was copied from the document fails where the tag stands there.
Once the text of a tag is used up this is the tag that the job belongs to. -/
def Exact (processor : Processor) (text : Text) (base : Nat) (run : Run) (machine : Machine) :
    Prop :=
  ∀ failure last, step processor machine = .stopped (.failure failure) last →
    (machine.top.rest = [] ∧ ∀ offset : Nat,
      Owned processor text base run machine.top offset → failure.offset = some (offset : Int)) ∨
    ∃ raised, Raised processor machine.top raised ∧ failure = machine.top.placed raised ∧
      ∀ position offset : Nat, raised.offset.getD machine.top.position = position →
        Copied processor text base run machine.top position offset →
          failure.offset = some (offset : Int)

/-- A letter that was copied from the document has its source there. -/
theorem sourceOf_of_copied {job : Job} {position offset : Nat}
    (copied : Copied processor (span.textIn document) span.start run job position offset) :
    Segment.sourceOf? job.segments position = some (offset : Int) := by
  induction copied with
  | ofSpan position within =>
      have inside : (0 : Int) ≤ position ∧ (position : Int) < (span.textIn document).length := by
        omega
      rw [Job.ofDocument, Segment.sourceOf_cons, if_pos inside]
      simp only [Int.sub_zero, Int.natCast_add]
  | later _ _ _ _ _ _ _ inductionHypothesis => exact inductionHypothesis
  | inserted machine next opening tail extent start index offset reached tag sized inserts stepped
      within _ inductionHypothesis =>
      obtain ⟨text, starts, ending, top, inserted, member⟩ :=
        step_inserts tag sized inserts stepped
      have mapped := mapped_of_reaches reached machine.top List.mem_cons_self
      rw [top, mapped.child_source tag sized inserted member within]
      exact inductionHypothesis

theorem origin_of_owned {job : Job} {offset : Nat}
    (owned : Owned processor (span.textIn document) span.start run job offset) :
    job.origin = offset := by
  induction owned with
  | later _ _ _ _ _ _ inductionHypothesis => exact inductionHypothesis
  | pushed machine next opening tail offset tag stepped deeper copied =>
      have source := sourceOf_of_copied copied
      cases step_progress stepped with
      | popped parent others output run used waiting =>
          simp only [waiting, List.length_cons] at deeper
          omega
      | advanced output letters run fits => simp at deeper
      | pushed =>
          show machine.top.offsetOf machine.top.position = offset
          rw [Job.offsetOf, source]
          rfl

theorem sound_of_reaches (ordered : span.start ≤ span.stop)
    (reached : Reaches processor (ofDocument (span.textIn document) span.start run) machine) :
    Sound document span machine := by
  intro job member
  have mapped := mapped_of_reaches reached job member
  exact ⟨mapped.ordered, fun segment there =>
    ⟨mapped.faithful segment there, within_of_reaches ordered reached job member segment there⟩⟩

theorem complete_of_reaches
    (reached : Reaches processor (ofDocument (span.textIn document) span.start run) machine) :
    Complete processor machine := by
  intro next opening tail extent start stepped tag sized inserts
  obtain ⟨text, starts, ending, top, inserted, member⟩ := step_inserts tag sized inserts stepped
  have mapped := mapped_of_reaches reached machine.top List.mem_cons_self
  rw [top]
  refine ⟨inserted.written start member, fun index within => ?_⟩
  have source : Segment.sourceOf?
      (machine.top.child text extent opening.headStop starts ending).segments (start + index) =
      Segment.sourceOf? machine.top.segments (opening.headStop + index) :=
    mapped.child_source tag sized inserted member within
  refine ⟨fun covers => ?_, fun uncovered => ?_⟩
  · obtain ⟨place, found⟩ := Segment.sourceOf_of_covers covers
    rw [Job.offsetOf, source, Job.offsetOf, found]
    rfl
  · rw [Job.offsetOf, source, Segment.sourceOf_of_not_covers uncovered]
    rfl

theorem exact_of_reaches (machine : Machine) :
    Exact processor (span.textIn document) span.start run machine := by
  intro failure last stopped
  rcases step_stopped stopped with ⟨used, _, _, placed, _⟩ | ⟨raised, found, rfl⟩
  · refine Or.inl ⟨used, fun offset owned => ?_⟩
    rw [placed, origin_of_owned owned]
  · refine Or.inr ⟨raised, found, rfl, fun position offset place copied => ?_⟩
    show some (machine.top.offsetOf _) = _
    rw [place, Job.offsetOf, sourceOf_of_copied copied]
    rfl

/-- Offsets are exact in every state that is reached from a span of a document. -/
theorem mapping_of_reaches (member : span ∈ Span.scan processor.settings.codeMarks document)
    (reached : Reaches processor (ofDocument (span.textIn document) span.start run) machine) :
    Sound document span machine ∧ Complete processor machine ∧
      Exact processor (span.textIn document) span.start run machine :=
  ⟨sound_of_reaches (Span.start_le_stop (Span.scan_follow _ _) member) reached,
    complete_of_reaches reached, exact_of_reaches machine⟩

/-- The state in which the content of a frame is expanded. -/
def insideFrame : Machine :=
  let outer := Job.ofDocument "{{frame:f}}x{{/frame}}" 0
  ⟨outer.child "x" ⟨9, some (1, 10)⟩ 11 [0] (.surround "<" ">"), [outer.advanced [] [] 22],
    ⟨[], 0, [.pushed "frame:f" 1, .dispatched "frame:f" 0]⟩⟩

theorem mapping_insideFrame :
    Sound "{{frame:f}}x{{/frame}}" ⟨.literal, 0, 22⟩ insideFrame ∧
      Complete Processor.framing insideFrame ∧
      Exact Processor.framing (Span.textIn ⟨.literal, 0, 22⟩ "{{frame:f}}x{{/frame}}") 0
        Run.start insideFrame := by
  have scanned : Span.scan Processor.framing.settings.codeMarks "{{frame:f}}x{{/frame}}" =
      [⟨.literal, 0, 22⟩] := by with_unfolding_all rfl
  have stepped : step Processor.framing (ofDocument "{{frame:f}}x{{/frame}}" 0 Run.start) =
      .next insideFrame := by with_unfolding_all rfl
  refine mapping_of_reaches ?_ (Relation.ReflTransGen.single stepped)
  rw [scanned]
  exact List.mem_singleton_self _

end Machine
end Flourish
