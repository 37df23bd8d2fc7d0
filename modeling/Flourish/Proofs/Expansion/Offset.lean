/-
This file shows where failures stand. Main statement: a document that is refused is refused at two
braces of its literal text, which belong to the outermost tag that was being expanded.
-/

import Flourish.Processor.Run
import Flourish.Proofs.Expansion.Job
import Flourish.Proofs.Expansion.Recursion
import Flourish.Proofs.Span.Scan

namespace Flourish

namespace Segment

/-- Copies of a stretch of the document have no sources outside the stretch. -/
theorem copies_within {length base bodyStart size : Nat} {starts : List Nat} :
    ∀ cut ∈ copies [⟨0, length, base⟩] bodyStart size starts,
      cut.Within (base + bodyStart : Nat) (base + bodyStart + size : Nat) := by
  intro cut member
  obtain ⟨copy, _, segment, there, nonempty, rfl⟩ := mem_copies.mp member
  cases List.mem_singleton.mp there
  simp only [Within] at nonempty ⊢
  omega

end Segment

namespace Job

/-- The job of a span. -/
structure Root (text : Text) (base : Nat) (job : Job) : Prop where
  whole : job.text = text
  segments : job.segments = [⟨0, text.length, base⟩]
  finish : job.finish = .keep

/-- A job within a tag of the document that begins at `low` and ends at `high`. -/
structure Nested (document : Text) (low high : Nat) (job : Job) : Prop where
  mapped : job.Mapped document
  within : ∀ segment ∈ job.segments, segment.Within low high
  origin : ∃ offset : Nat, job.origin = offset ∧ low ≤ offset ∧ offset < high ∧
    [.of '{', .of '{'] <+: document.drop offset

variable {document text : Text} {base low high position : Nat} {job : Job} {opening : Opening}
  {tail : Text} {extent : Extent}

theorem Mapped.braces {ahead : Nat} (mapped : job.Mapped document)
    (braces : [.of '{', .of '{'] <+: job.rest.drop ahead) :
    [.of '{', .of '{'] <+: job.text.drop (job.position + ahead) := by
  rwa [mapped.unread, List.drop_drop] at braces

/-- Two braces of a span stand at two braces of the document. -/
theorem Root.offsetOf (root : job.Root text base) (mapped : job.Mapped document)
    (braces : [.of '{', .of '{'] <+: job.text.drop position) :
    position < text.length ∧ job.offsetOf position = ((base + position : Nat) : Int) ∧
      [.of '{', .of '{'] <+: document.drop (base + position) := by
  obtain ⟨inText, _⟩ := List.getElem?_eq_some_iff.mp (Text.braces_iff.mp braces).1
  rw [root.whole] at inText
  have inside : (0 : Int) ≤ position ∧ (position : Int) < text.length := by omega
  have source : Segment.sourceOf? job.segments position = some ((base + position : Nat) : Int) := by
    rw [root.segments, Segment.sourceOf_cons, if_pos inside]
    exact congrArg some (Int.sub_zero _)
  obtain ⟨offset, same, written⟩ := mapped.braces_source braces source
  cases Int.ofNat.inj same
  refine ⟨inText, ?_, written⟩
  rw [Job.offsetOf, source]
  rfl

/-- Two braces of a nested job stand at two braces of the document, within the tag. -/
theorem Nested.offsetOf (nested : job.Nested document low high)
    (braces : [.of '{', .of '{'] <+: job.text.drop position) :
    ∃ offset : Nat, job.offsetOf position = offset ∧ low ≤ offset ∧ offset < high ∧
      [.of '{', .of '{'] <+: document.drop offset := by
  cases found : Segment.sourceOf? job.segments position with
  | none =>
      rw [Job.offsetOf, found]
      exact nested.origin
  | some source =>
      obtain ⟨offset, same, written⟩ := nested.mapped.braces_source braces found
      obtain ⟨segment, member, above, below, place⟩ := Segment.mem_of_sourceOf found
      obtain ⟨after, before⟩ := nested.within segment member
      rw [Job.offsetOf, found]
      exact ⟨offset, same, by omega, by omega, written⟩

section Child

variable {inner : Text} {starts : List Nat} {ending : Finish}

/-- The job of a tag in a nested job is nested in the same tag of the document. -/
theorem Nested.child (nested : job.Nested document low high) (tag : job.AtTag opening tail)
    (sized : Dispatch.extent opening tail = .ok extent)
    (inserted : Inserted (extent.contentIn tail) inner starts) :
    (job.child inner extent opening.headStop starts ending).Nested document low high := by
  refine ⟨nested.mapped.child tag sized inserted, child_within nested.within, ?_⟩
  have here : [.of '{', .of '{'] <+: job.rest.drop 0 := ⟨tail, tag.unread.symm⟩
  exact nested.offsetOf (nested.mapped.braces here)

/-- The job of a tag of the span is nested in the tag. -/
theorem Root.child (root : job.Root text base) (mapped : job.Mapped document)
    (tag : job.AtTag opening tail) (sized : Dispatch.extent opening tail = .ok extent)
    (inserted : Inserted (extent.contentIn tail) inner starts) :
    (job.child inner extent opening.headStop starts ending).Nested document (base + job.position)
      (base + job.position + 2 + extent.size) := by
  obtain ⟨headStop, _, _⟩ := Dispatch.extent_fits tag.read sized
  refine ⟨mapped.child tag sized inserted, ?_, ?_⟩
  · cases body : extent.body with
    | none =>
        rw [child_segments_nil body]
        exact fun segment member => nomatch member
    | some sizes =>
        rw [child_segments body, root.segments]
        intro segment member
        obtain ⟨above, below⟩ := Segment.copies_within segment member
        simp only [Segment.Within, Extent.size, Extent.contentSize, Extent.closerSize, body,
          Option.map_some, Option.getD_some]
        omega
  · have here : [.of '{', .of '{'] <+: job.rest.drop 0 := ⟨tail, tag.unread.symm⟩
    obtain ⟨_, origin, written⟩ := root.offsetOf mapped (mapped.braces here)
    exact ⟨base + job.position, origin, by omega, by omega, written⟩

end Child

end Job

namespace Machine

variable {processor : Processor} {document : Text} {span : Span} {run : Run}
  {machine outer last next : Machine} {failure : Failure} {ending : Run}

/-- The steps from one state to another during which there is a tag of the span that is being
expanded: only in the first state may the job of the span be in hand. -/
def Dispatching (processor : Processor) : Machine → Machine → Prop :=
  Relation.ReflTransGen fun machine next => step processor machine = .next next ∧ next.below ≠ []

/-- Every state is reached by way of the last one in which the job of the span was in hand. -/
theorem dispatching_of_reaches {first : Machine} (begun : first.below = [])
    (reached : Reaches processor first machine) :
    ∃ outer, Reaches processor first outer ∧ outer.below = [] ∧
      Dispatching processor outer machine := by
  induction reached with
  | refl => exact ⟨first, .refl, begun, .refl⟩
  | @tail between next reached stepped inductionHypothesis =>
      by_cases whole : next.below = []
      · exact ⟨next, .tail reached stepped, whole, .refl⟩
      · obtain ⟨outer, earlier, alone, dispatching⟩ := inductionHypothesis
        exact ⟨outer, earlier, alone, .tail dispatching ⟨stepped, whole⟩⟩

/-- The lowest job stays that of the span if the job in hand is taken on. -/
theorem root_later {below : List Job} {top later : Job} {text : Text} {base : Nat}
    (root : (below.getLast?.getD top).Root text base)
    (kept : top.Root text base → later.Root text base) :
    (below.getLast?.getD later).Root text base := by
  cases lowest : below.getLast? with
  | none =>
      rw [lowest] at root
      exact kept root
  | some job =>
      rw [lowest] at root
      exact root

/-- The lowest job of a run is that of the span. -/
theorem root_of_reaches
    (reached : Reaches processor (ofDocument (span.textIn document) span.start run) machine) :
    (machine.below.getLast?.getD machine.top).Root (span.textIn document) span.start := by
  induction reached with
  | refl => exact ⟨rfl, rfl, rfl⟩
  | tail _ stepped root =>
      cases step_progress stepped with
      | popped parent others output run used waiting =>
          rw [waiting, List.getLast?_cons, Option.getD_some] at root
          exact root_later root fun root => ⟨root.whole, root.segments, root.finish⟩
      | advanced output letters run fits =>
          exact root_later root fun root => ⟨root.whole, root.segments, root.finish⟩
      | pushed =>
          simp only [List.getLast?_cons, Option.getD_some]
          exact root_later root fun root => ⟨root.whole, root.segments, root.finish⟩

theorem root_of_alone
    (reached : Reaches processor (ofDocument (span.textIn document) span.start run) machine)
    (alone : machine.below = []) : machine.top.Root (span.textIn document) span.start := by
  have root := root_of_reaches reached
  rwa [alone] at root

/-- While a tag of the span is being expanded, all jobs above that of the span are nested in it. -/
structure Within (document : Text) (base : Nat) (outer : Machine) (opening : Opening)
    (tail : Text) (extent : Extent) (machine : Machine) : Prop where
  tag : outer.top.AtTag opening tail
  sized : Dispatch.extent opening tail = .ok extent
  waiting : machine.below ≠ []
  nested : ∀ job ∈ machine.top :: machine.below.dropLast,
    job.Nested document (base + outer.top.position)
      (base + outer.top.position + 2 + extent.size)

theorem Within.step {base : Nat} {opening : Opening} {tail : Text} {extent : Extent}
    (within : Within document base outer opening tail extent machine)
    (stepped : step processor machine = .next next) (waiting : next.below ≠ []) :
    Within document base outer opening tail extent next := by
  obtain ⟨tag, sized, waited, nested⟩ := within
  refine ⟨tag, sized, waiting, ?_⟩
  obtain ⟨top, below⟩ := List.forall_mem_cons.mp nested
  cases step_progress stepped with
  | popped parent others output run used stack =>
      rw [stack, List.dropLast_cons_of_ne_nil waiting] at below
      obtain ⟨first, rest⟩ := List.forall_mem_cons.mp below
      exact List.forall_mem_cons.mpr
        ⟨⟨first.mapped.produced output, first.within, first.origin⟩, rest⟩
  | advanced output letters run fits =>
      exact List.forall_mem_cons.mpr
        ⟨⟨top.mapped.advanced output letters, top.within, top.origin⟩, below⟩
  | pushed opening tail extent text starts ending run tag sized inserted =>
      rw [List.dropLast_cons_of_ne_nil waited]
      exact List.forall_mem_cons.mpr ⟨top.child tag sized inserted, List.forall_mem_cons.mpr
        ⟨⟨top.mapped.advanced [] _, top.within, top.origin⟩, below⟩⟩

/-- A tag of the span is expanded by jobs that are nested in it. -/
theorem within_of_dispatching
    (reached : Reaches processor (ofDocument (span.textIn document) span.start run) outer)
    (alone : outer.below = []) (dispatching : Dispatching processor outer machine) :
    machine = outer ∨ ∃ opening tail extent,
      Within document span.start outer opening tail extent machine := by
  induction dispatching with
  | refl => exact Or.inl rfl
  | tail _ stepped inductionHypothesis =>
      obtain ⟨stepped, waiting⟩ := stepped
      right
      rcases inductionHypothesis with rfl | ⟨opening, tail, extent, within⟩
      · have root := root_of_alone reached alone
        have mapped := mapped_of_reaches reached _ List.mem_cons_self
        cases step_progress stepped with
        | popped parent others output run used stack =>
            rw [alone] at stack
            cases stack
        | advanced output letters run fits => exact absurd alone waiting
        | pushed opening tail extent text starts ending run tag sized inserted =>
            refine ⟨opening, tail, extent, tag, sized, waiting, ?_⟩
            rw [alone]
            exact List.forall_mem_singleton.mpr (root.child mapped tag sized inserted)
      · exact ⟨opening, tail, extent, within.step stepped waiting⟩

/-- Two braces of a span that do not stand before the tag of the span that is being expanded, nor
behind its end if that is known. -/
structure Blamed (document : Text) (span : Span) (outer : Machine) (offset : Nat) : Prop where
  tag : [.of '{', .of '{'] <+: outer.top.rest
  braces : [.of '{', .of '{'] <+: document.drop offset
  stop : offset < span.start + (span.textIn document).length
  start : span.start + outer.top.position ≤ offset
  before : ∀ opening tail extent, outer.top.AtTag opening tail →
    Dispatch.extent opening tail = .ok extent →
      offset < span.start + outer.top.position + 2 + extent.size

/-- A failure of the job of the span. -/
theorem blamed_of_root (plain : processor.Plain)
    (root : outer.top.Root (span.textIn document) span.start) (mapped : outer.top.Mapped document)
    (stopped : step processor outer = .stopped (.failure failure) ending) :
    ∃ offset : Nat, failure.offset = some (offset : Int) ∧
      Blamed document span outer offset := by
  rcases step_stopped stopped with ⟨_, error, applied, _⟩ | ⟨raised, found, rfl⟩
  · rw [root.finish] at applied
    cases applied
  · obtain ⟨ahead, place, braces, atTag⟩ := found.place plain
    obtain ⟨inText, offset, written⟩ := root.offsetOf mapped (mapped.braces braces)
    refine ⟨span.start + (outer.top.position + ahead), ?_, found.braces, written, by omega,
      by omega, ?_⟩
    · rw [Job.placed, place, offset]
    · intro opening tail extent tag sized
      have := atTag opening tail extent tag sized
      omega

/-- A failure of a job above that of the span. -/
theorem blamed_of_nested {opening : Opening} {tail : Text} {extent : Extent}
    (plain : processor.Plain) (root : outer.top.Root (span.textIn document) span.start)
    (mapped : outer.top.Mapped document)
    (within : Within document span.start outer opening tail extent last)
    (stopped : step processor last = .stopped (.failure failure) ending) :
    ∃ offset : Nat, failure.offset = some (offset : Int) ∧
      Blamed document span outer offset := by
  obtain ⟨tag, sized, _, nested⟩ := within
  have top := nested last.top List.mem_cons_self
  have found : ∃ offset : Nat, failure.offset = some (offset : Int) ∧
      span.start + outer.top.position ≤ offset ∧
      offset < span.start + outer.top.position + 2 + extent.size ∧
      [.of '{', .of '{'] <+: document.drop offset := by
    rcases step_stopped stopped with ⟨_, _, _, placed, _⟩ | ⟨raised, found, rfl⟩
    · obtain ⟨offset, origin, within⟩ := top.origin
      exact ⟨offset, by rw [placed, origin], within⟩
    · obtain ⟨ahead, place, braces, _⟩ := found.place plain
      obtain ⟨offset, there, within⟩ := top.offsetOf (top.mapped.braces braces)
      exact ⟨offset, by rw [Job.placed, place, there], within⟩
  obtain ⟨offset, placed, start, before, braces⟩ := found
  refine ⟨offset, placed, ⟨tail, tag.unread.symm⟩, braces, ?_, start, ?_⟩
  · have fits := (Dispatch.extent_fits tag.read sized).size_le
    have size := congrArg List.length (tag.unread.symm.trans mapped.unread)
    rw [root.whole] at size
    simp only [List.length_cons, List.length_drop] at size
    omega
  · intro other rest found otherTag otherSized
    cases tag.unread.symm.trans otherTag.unread
    cases tag.read.symm.trans otherTag.read
    cases sized.symm.trans otherSized
    exact before

end Machine

namespace Processor

open Machine

variable {processor : Processor} {document : Text} {stop : Stop}

theorem span_of_expandSpans_error {spans : List Span} {done : List Text} {position : Nat}
    {run : Run} (follow : Span.Follow position spans)
    (failed : (processor.expandSpans done spans (document.drop position) run).1 = .error stop) :
    ∃ span ∈ spans, ∃ run,
      (processor.expandSpan span (span.textIn document) run).result = .error stop := by
  induction spans generalizing done position run with
  | nil => cases failed
  | cons span rest inductionHypothesis =>
      obtain ⟨rfl, ordered, others⟩ := follow
      have text : (document.drop span.start).take span.length = span.textIn document := by
        rw [Span.textIn, Text.slice_eq_take, Span.length]
      simp only [expandSpans, text, List.drop_drop] at failed
      split at failed
      · next expanded =>
          cases failed
          exact ⟨span, List.mem_cons_self, run, expanded⟩
      · rw [show span.start + span.length = span.stop by rw [Span.length]; omega] at failed
        obtain ⟨other, member, found⟩ := inductionHypothesis others failed
        exact ⟨other, List.mem_cons_of_mem _ member, found⟩

theorem span_of_process_error (failed : (processor.process document).result = .error stop) :
    ∃ span ∈ Span.scan processor.settings.codeMarks document, span.kind = .literal ∧ ∃ run,
      (finish processor (ofDocument (span.textIn document) span.start run)).result =
        .error stop := by
  simp only [process] at failed
  split at failed
  · next found =>
      cases failed
      obtain ⟨span, member, run, expanded⟩ :=
        span_of_expandSpans_error (Span.scan_follow _ document) found
      simp only [expandSpan] at expanded
      split at expanded
      · cases expanded
      · next read =>
          simp only [Bool.or_eq_true, decide_eq_true_eq, not_or] at read
          exact ⟨span, member, (Span.scan_kind member).resolve_right read.1, run, expanded⟩
  · cases failed

/-- A failure stands at two braces of the literal text of a document. They do not stand before the
outermost tag that was being expanded when the failure arose, nor behind its end if its closer is
found. -/
def Located (processor : Processor) (document : Text) (failure : Failure) : Prop :=
  ∃ offset : Nat, failure.offset = some (offset : Int) ∧ offset + 2 ≤ document.length ∧
    Text.slice offset (offset + 2) document = [.of '{', .of '{'] ∧
    ∃ span ∈ Span.scan processor.settings.codeMarks document, span.kind = .literal ∧
      span.start ≤ offset ∧ offset < span.stop ∧
      ∃ run outer last ending,
        Reaches processor (ofDocument (span.textIn document) span.start run) outer ∧
        outer.below = [] ∧ [.of '{', .of '{'] <+: outer.top.rest ∧ Dispatching processor outer last ∧
        step processor last = .stopped (.failure failure) ending ∧
        span.start + outer.top.position ≤ offset ∧
        ∀ opening tail extent, outer.top.AtTag opening tail →
          Dispatch.extent opening tail = .ok extent →
            offset < span.start + outer.top.position + 2 + extent.size

/-- A document that is refused is refused at two braces of its literal text, which belong to the
outermost tag that was being expanded. -/
theorem located_of_process {failure : Failure} (plain : processor.Plain)
    (failed : (processor.process document).result = .error (.failure failure)) :
    Located processor document failure := by
  obtain ⟨span, member, literal, run, failed⟩ := span_of_process_error failed
  obtain ⟨last, ending, reached, stopped⟩ := stopped_of_finish_error failed
  obtain ⟨outer, earlier, alone, dispatching⟩ := dispatching_of_reaches rfl reached
  have root := root_of_alone earlier alone
  have mapped := mapped_of_reaches earlier outer.top List.mem_cons_self
  have blamed : ∃ offset : Nat, failure.offset = some (offset : Int) ∧
      Blamed document span outer offset := by
    rcases within_of_dispatching earlier alone dispatching with rfl | ⟨_, _, _, within⟩
    · exact blamed_of_root plain root mapped stopped
    · exact blamed_of_nested plain root mapped within stopped
  obtain ⟨offset, placed, tag, braces, inSpan, start, before⟩ := blamed
  have ordered := Span.start_le_stop (Span.scan_follow _ document) member
  have size := span.length_textIn_le document
  have fits := braces.length_le
  simp only [List.length_cons, List.length_nil, List.length_drop] at fits
  refine ⟨offset, placed, by omega, ?_, span, member, literal, by omega, by omega, run, outer,
    last, ending, earlier, alone, tag, dispatching, stopped, start, before⟩
  rw [Text.slice_eq_take, Nat.add_sub_cancel_left]
  exact (List.prefix_iff_eq_take.mp braces).symm

/-- A closer in the content of a frame that closes nothing. -/
def strayCloser : Text := "{{frame:f}}{{/a}}{{/frame}}"

theorem framing_plain : framing.Plain := by
  intro primitive failure refused
  cases refused
  rfl

theorem process_strayCloser : (framing.process strayCloser).result =
    .error (.failure ((Cause.mismatchedCloser none "a").placed 11)) := by
  have scanned : Span.scan framing.settings.codeMarks strayCloser = [⟨.literal, 0, 27⟩] := by
    with_unfolding_all rfl
  let outer := Job.ofDocument strayCloser 0
  have pushed (run : Run) : step framing (ofDocument strayCloser 0 run) =
      .next ⟨outer.child "{{/a}}" ⟨9, some (6, 10)⟩ 11 [0] (.surround "<" ">"),
        [outer.advanced [] [] 27],
        ⟨run.assets, run.expansions,
          .pushed "frame:f" 1 :: .dispatched "frame:f" 0 :: run.events⟩⟩ := by
    with_unfolding_all rfl
  have stopped (below : List Job) (run : Run) : step framing
      ⟨outer.child "{{/a}}" ⟨9, some (6, 10)⟩ 11 [0] (.surround "<" ">"), below, run⟩ =
      .stopped (.failure ((Cause.mismatchedCloser none "a").placed 11)) run := by
    with_unfolding_all rfl
  have expanded (run : Run) : (framing.expandSpan ⟨.literal, 0, 27⟩ strayCloser run).result =
      .error (.failure ((Cause.mismatchedCloser none "a").placed 11)) := by
    rw [expandSpan, if_neg (by with_unfolding_all decide), finish_next (pushed run),
      finish_stopped (stopped _ _)]
    rfl
  simp only [process, scanned, expandSpans]
  rw [show List.take (Span.length ⟨.literal, 0, 27⟩) strayCloser = strayCloser from rfl, expanded]

theorem located_strayCloser :
    Located framing strayCloser ((Cause.mismatchedCloser none "a").placed 11) :=
  located_of_process framing_plain process_strayCloser

end Processor
end Flourish
