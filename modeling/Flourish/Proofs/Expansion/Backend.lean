/-
This file compares runs with different backends. Main statement: with any two backends that draw all
they are handed a document is processed in the same way, so what a backend draws is never read.
-/

import Mathlib.Data.List.Forall2
import Flourish.Processor.Run
import Flourish.Proofs.Expansion.Answer
import Flourish.Proofs.Expansion.Collected
import Flourish.Proofs.Expansion.Step
import Flourish.Proofs.Renderer
import Flourish.Proofs.Tag.Grammar
import Flourish.Registry.Standard

namespace Flourish

/-- The processor with another backend. -/
def Processor.drawing (processor : Processor) (renderer : Renderer) : Processor :=
  { processor with renderer := renderer }

theorem Processor.settings_drawing (processor : Processor) (renderer : Renderer) :
    (processor.drawing renderer).settings = processor.settings :=
  rfl

namespace Event

/-- The primitive that was handed to the backend. -/
def primitive? : Event → Option Primitive
  | .rendered primitive => some primitive
  | _ => none

/-- The event without the size of any output. -/
def unsized : Event → Event
  | .popped depth _ => .popped depth 0
  | .expanded count _ => .expanded count 0
  | event => event

theorem primitive_unsized (event : Event) : event.unsized.primitive? = event.primitive? := by
  cases event <;> rfl

/-- Events that are the same up to the sizes of output drew the same primitives. -/
theorem drawn_of_unsized {first second : List Event}
    (same : first.map unsized = second.map unsized) :
    first.filterMap primitive? = second.filterMap primitive? := by
  have kept (events : List Event) :
      (events.map unsized).filterMap primitive? = events.filterMap primitive? := by
    rw [List.filterMap_map]
    exact congrArg (List.filterMap · events) (funext primitive_unsized)
  rw [← kept first, same, kept]

end Event

/-- Two backends both draw all that has been handed to a backend in the run. -/
def Run.DrawnBy (renderer other : Renderer) (run : Run) : Prop :=
  ∀ primitive, .rendered primitive ∈ run.events → renderer.Draws primitive ∧ other.Draws primitive

theorem Run.DrawnBy.before {renderer other backend : Renderer} {first second : Run}
    (drawn : second.DrawnBy renderer other) (becomes : first.Becomes backend second) :
    first.DrawnBy renderer other :=
  fun primitive member => drawn primitive (becomes.mem_events member)

/-- Two runs with as many templates and, up to the sizes of output, the same events. -/
structure Run.Alike (first second : Run) : Prop where
  expansions : first.expansions = second.expansions
  events : first.events.map Event.unsized = second.events.map Event.unsized

namespace Run.Alike

variable {first second : Run}

theorem log (alike : first.Alike second) {event other : Event}
    (same : event.unsized = other.unsized) :
    (first.log event).Alike (second.log other) := by
  refine ⟨alike.expansions, ?_⟩
  simp only [Run.log, List.map_cons, same, alike.events]

/-- The line at the end of a document differs in the number of files only. -/
theorem expanded (alike : first.Alike second) :
    (first.log (.expanded first.expansions first.assets.length)).Alike
      (second.log (.expanded second.expansions second.assets.length)) :=
  alike.log (congrArg (Event.expanded · 0) alike.expansions)

theorem append (alike : first.Alike second) (events : List Event) :
    Run.Alike { first with events := events ++ first.events }
      { second with events := events ++ second.events } :=
  ⟨alike.expansions, by simp only [List.map_append, alike.events]⟩

theorem counted (alike : first.Alike second) :
    Run.Alike { first with expansions := first.expansions + 1 }
      { second with expansions := second.expansions + 1 } :=
  ⟨congrArg (· + 1) alike.expansions, alike.events⟩

theorem collect (alike : first.Alike second) (asset other : Asset) :
    (first.collect asset).Alike (second.collect other) := by
  have events (run : Run) (asset : Asset) : (run.collect asset).events = run.events := by
    cases asset with
    | markdown text => rfl
    | file asset =>
        simp only [Run.collect]
        split <;> rfl
  constructor
  · rw [Machine.expansions_collect, Machine.expansions_collect, alike.expansions]
  · rw [events, events, alike.events]

end Run.Alike

/-- Two jobs that differ in nothing but their output. -/
def Job.Alike (first second : Job) : Prop :=
  ∃ output, second = { first with produced := output }

namespace Job.Alike

theorem refl (job : Job) : job.Alike job :=
  ⟨job.produced, rfl⟩

variable {first second : Job}

theorem rest (alike : first.Alike second) : second.rest = first.rest := by
  obtain ⟨output, rfl⟩ := alike
  rfl

theorem position (alike : first.Alike second) : second.position = first.position := by
  obtain ⟨output, rfl⟩ := alike
  rfl

theorem depth (alike : first.Alike second) : second.depth = first.depth := by
  obtain ⟨output, rfl⟩ := alike
  rfl

theorem origin (alike : first.Alike second) : second.origin = first.origin := by
  obtain ⟨output, rfl⟩ := alike
  rfl

theorem finish (alike : first.Alike second) : second.finish = first.finish := by
  obtain ⟨output, rfl⟩ := alike
  rfl

theorem offsetOf (alike : first.Alike second) : second.offsetOf = first.offsetOf := by
  obtain ⟨output, rfl⟩ := alike
  rfl

theorem placed (alike : first.Alike second) : second.placed = first.placed := by
  obtain ⟨output, rfl⟩ := alike
  rfl

theorem stopped (alike : first.Alike second) : second.stopped = first.stopped := by
  obtain ⟨output, rfl⟩ := alike
  rfl

theorem child (alike : first.Alike second) : second.child = first.child := by
  obtain ⟨output, rfl⟩ := alike
  rfl

theorem produced (alike : first.Alike second) (output other : Text) :
    Job.Alike { first with produced := output } { second with produced := other } := by
  obtain ⟨_, rfl⟩ := alike
  exact ⟨other, rfl⟩

theorem advanced (alike : first.Alike second) (output other rest : Text) (letters : Nat) :
    (first.advanced output rest letters).Alike (second.advanced other rest letters) := by
  obtain ⟨_, rfl⟩ := alike
  exact ⟨_, rfl⟩

end Job.Alike

/-- Two stacks of jobs that differ in nothing but their output and the files they collected. -/
structure Machine.Alike (first second : Machine) : Prop where
  top : first.top.Alike second.top
  below : List.Forall₂ Job.Alike first.below second.below
  run : first.run.Alike second.run

theorem Machine.Alike.withRun {first second : Machine} (alike : first.Alike second)
    {run other : Run} (same : run.Alike other) :
    Machine.Alike { first with run := run } { second with run := other } :=
  ⟨alike.top, alike.below, same⟩

/-- Two steps that lead to states which are alike, end alike or stop for one reason. -/
inductive Step.Alike : Step → Step → Prop
  | next {first second : Machine} (alike : first.Alike second) : Alike (.next first) (.next second)
  | done {first second : Run} (text other : Text) (alike : first.Alike second) :
      Alike (.done text first) (.done other second)
  | stopped {first second : Run} (stop : Stop) (alike : first.Alike second) :
      Alike (.stopped stop first) (.stopped stop second)

/-- Two results that are values or the same stop. -/
def Concur {Value : Type} (first second : Except Stop Value) : Prop :=
  (∃ value other, first = .ok value ∧ second = .ok other) ∨
    ∃ stop, first = .error stop ∧ second = .error stop

/-- No finish looks at its text to find out whether it fails. -/
theorem Finish.apply_alike (finish : Finish) (text other : Text) :
    (∃ result otherResult, finish.apply text = .ok result ∧ finish.apply other = .ok otherResult) ∨
      ∃ failure, finish.apply text = .error failure ∧ finish.apply other = .error failure := by
  cases finish with
  | keep => exact Or.inl ⟨_, _, rfl, rfl⟩
  | surround before after => exact Or.inl ⟨_, _, rfl, rfl⟩
  | transform kind parameters =>
      cases kind with
      | blockquote => exact Or.inl ⟨_, _, rfl, rfl⟩
      | row =>
          simp only [Finish.apply, Transform.apply, Transform.row]
          split
          · exact Or.inl ⟨_, _, rfl, rfl⟩
          · exact Or.inr ⟨_, rfl, rfl⟩

namespace Machine

variable {processor : Processor} {renderer : Renderer} {first second : Machine}
  {opening : Opening} {extent : Extent} {tail : Text}

/-- No decision about a tag asks the backend. -/
theorem decide_drawing (processor : Processor) (renderer : Renderer) (opening : Opening)
    (tail : Text) : Dispatch.decide (processor.drawing renderer) opening tail =
      Dispatch.decide processor opening tail :=
  rfl

theorem finishTop_alike (alike : first.Alike second) :
    Step.Alike first.finishTop second.finishTop := by
  simp only [finishTop, alike.top.finish, alike.top.origin, alike.top.depth]
  rcases first.top.finish.apply_alike first.top.produced.reverse second.top.produced.reverse with
    ⟨text, other, applied, otherApplied⟩ | ⟨failure, applied, otherApplied⟩
  · rw [applied, otherApplied]
    have logged : (first.run.log (.popped first.top.depth text.length)).Alike
        (second.run.log (.popped first.top.depth other.length)) := alike.run.log rfl
    have waiting := alike.below
    cases firstBelow : first.below with
    | nil =>
        rw [firstBelow] at waiting
        rw [List.forall₂_nil_left_iff.mp waiting]
        exact .done _ _ logged
    | cons parent others =>
        rw [firstBelow] at waiting
        obtain ⟨otherParent, otherOthers, parentAlike, othersAlike, same⟩ :=
          List.forall₂_cons_left_iff.mp waiting
        rw [same]
        exact .next ⟨parentAlike.produced _ _, othersAlike, logged⟩
  · rw [applied, otherApplied]
    exact .stopped _ alike.run

theorem copy_alike (alike : first.Alike second) (letter : Letter) (rest : Text) :
    Step.Alike (first.copy letter rest) (second.copy letter rest) :=
  .next ⟨alike.top.advanced _ _ _ _, alike.below, alike.run⟩

/-- What is drawn has been handed to the backend. -/
theorem rendered_mem_draw (processor : Processor) (machine : Machine) (primitive : Primitive)
    (extent : Extent) (tail : Text) :
    .rendered primitive ∈ (draw processor machine primitive extent tail).run.events := by
  have member : .rendered primitive ∈ (machine.run.log (.rendered primitive)).events :=
    List.mem_cons_self
  simp only [draw]
  split
  · exact member
  · exact member
  · next asset drawn => exact (Run.Becomes.same.collected drawn).mem_events member

/-- Two backends draw the same primitive, whatever they make of it. -/
theorem draw_alike {primitive : Primitive}
    (drawn : (draw processor first primitive extent tail).run.DrawnBy processor.renderer renderer)
    (alike : first.Alike second) :
    Step.Alike (draw processor first primitive extent tail)
      (draw (processor.drawing renderer) second primitive extent tail) := by
  obtain ⟨⟨asset, drawn⟩, otherAsset, otherDrawn⟩ :=
    drawn primitive (rendered_mem_draw processor first primitive extent tail)
  simp only [draw, Processor.drawing, drawn, otherDrawn]
  exact .next ⟨alike.top.advanced _ _ _ _, alike.below, (alike.run.log rfl).collect _ _⟩

theorem push_alike (alike : first.Alike second) (text : Text) (starts : List Nat)
    (ending : Finish) :
    Step.Alike
      (push processor first opening extent tail text starts ending)
      (push (processor.drawing renderer) second opening extent tail text starts ending) := by
  have sameDepth := alike.top.depth
  by_cases deep : processor.settings.maxExpansionDepth < first.top.depth + 1
  · have otherDeep : (processor.drawing renderer).settings.maxExpansionDepth <
        second.top.depth + 1 := by
      rw [sameDepth]
      exact deep
    rw [push, if_pos deep, push, if_pos otherDeep, alike.top.placed]
    exact .stopped _ alike.run
  · have otherShallow : ¬ (processor.drawing renderer).settings.maxExpansionDepth <
        second.top.depth + 1 := by
      rw [sameDepth]
      exact deep
    rw [push, if_neg deep, push, if_neg otherShallow, alike.top.child, sameDepth]
    exact .next ⟨.refl _, .cons (alike.top.advanced _ _ _ _) alike.below, alike.run.log rfl⟩

theorem pushTemplate_alike (alike : first.Alike second) (text : Text) (starts : List Nat)
    (ending : Finish) :
    Step.Alike
      (pushTemplate processor first opening extent tail text starts ending)
      (pushTemplate (processor.drawing renderer) second opening extent tail text starts ending) := by
  by_cases many : processor.settings.maxExpansions < first.run.expansions + 1
  · have otherMany : (processor.drawing renderer).settings.maxExpansions <
        second.run.expansions + 1 := by
      rw [← alike.run.expansions]
      exact many
    rw [pushTemplate, if_pos many, pushTemplate, if_pos otherMany, alike.top.placed]
    exact .stopped _ alike.run.counted
  · have otherFew : ¬ (processor.drawing renderer).settings.maxExpansions <
        second.run.expansions + 1 := by
      rw [← alike.run.expansions]
      exact many
    rw [pushTemplate, if_neg many, pushTemplate, if_neg otherFew]
    exact push_alike (alike.withRun alike.run.counted) text starts ending

theorem act_alike {move : Move}
    (drawn : (act processor first opening extent tail move).run.DrawnBy processor.renderer renderer)
    (alike : first.Alike second) :
    Step.Alike (act processor first opening extent tail move)
      (act (processor.drawing renderer) second opening extent tail move) := by
  cases move with
  | write text => exact .next ⟨alike.top.advanced _ _ _ _, alike.below, alike.run⟩
  | draw primitive => exact draw_alike drawn alike
  | expandContent ending => exact push_alike alike _ _ _
  | expandTemplate text starts ending => exact pushTemplate_alike alike _ _ _

theorem handle_alike
    (drawn : (handle processor first opening tail).run.DrawnBy processor.renderer renderer)
    (alike : first.Alike second) :
    Step.Alike (handle processor first opening tail)
      (handle (processor.drawing renderer) second opening tail) := by
  revert drawn
  simp only [handle, decide_drawing, alike.top.offsetOf, alike.top.position, alike.top.stopped]
  have logged : (first.run.log (.dispatched opening.tag.displayName
      (first.top.offsetOf first.top.position))).Alike (second.run.log
        (.dispatched opening.tag.displayName (first.top.offsetOf first.top.position))) :=
    alike.run.log rfl
  split
  · exact fun _ => .stopped _ (logged.append _)
  · exact fun drawn => act_alike drawn (alike.withRun (logged.append _))

/-- From states that are alike the steps with two backends are alike. -/
theorem step_alike (drawn : (step processor first).run.DrawnBy processor.renderer renderer)
    (alike : first.Alike second) :
    Step.Alike (step processor first)
      (step (processor.drawing renderer) second) := by
  revert drawn
  simp only [step, alike.top.rest, alike.top.position, alike.top.placed]
  split
  · exact fun _ => finishTop_alike alike
  · split
    · exact fun _ => .stopped _ alike.run
    · exact fun _ => copy_alike alike _ _
    · exact fun _ => .stopped _ alike.run
    · exact fun drawn => handle_alike drawn alike
  · exact fun _ => copy_alike alike _ _

/-- Every state of a run has a state of the other run in which the same text waits to be read. -/
theorem reaches_alike (alike : first.Alike second) {state : Machine}
    (reached : Reaches processor first state)
    (drawn : state.run.DrawnBy processor.renderer renderer) :
    ∃ other, Reaches (processor.drawing renderer) second other ∧ state.Alike other := by
  induction reached with
  | refl => exact ⟨second, .refl, alike⟩
  | @tail before after _ stepped inductionHypothesis =>
      have led : (step processor before).run = after.run := by rw [stepped]; rfl
      have becomes := step_becomes processor before
      rw [led] at becomes
      obtain ⟨other, otherReached, sameState⟩ := inductionHypothesis (drawn.before becomes)
      have same := step_alike (led ▸ drawn) sameState
      rw [stepped] at same
      generalize otherStepped : step (processor.drawing renderer) other = otherStep at same
      cases same with
      | next nextAlike => exact ⟨_, otherReached.tail otherStepped, nextAlike⟩

/-- Two outcomes that differ in nothing but the output and the files. -/
structure Outcome.Alike (first second : Outcome) : Prop where
  result : Concur first.result second.result
  run : first.run.Alike second.run

/-- From states that are alike the runs with two backends are alike. -/
theorem finish_alike
    (drawn : (finish processor first).run.DrawnBy processor.renderer renderer)
    (alike : first.Alike second) :
    (finish processor first).Alike (finish (processor.drawing renderer) second) := by
  have same := step_alike (drawn.before (step_finish_becomes processor first)) alike
  generalize otherStepped : step (processor.drawing renderer) second = otherStep at same
  -- The induction is on the first run. The second one goes with it from state to state.
  fun_induction finish processor first generalizing second otherStep with
  | case1 machine text run stepped =>
      rw [stepped] at same
      cases same with
      | done _ other runAlike =>
          rw [finish_done otherStepped]
          exact ⟨Or.inl ⟨text, other, rfl, rfl⟩, runAlike⟩
  | case2 machine stop run stepped =>
      rw [stepped] at same
      cases same with
      | stopped _ runAlike =>
          rw [finish_stopped otherStepped]
          exact ⟨Or.inr ⟨stop, rfl, rfl⟩, runAlike⟩
  | case3 machine next stepped _ inductionHypothesis =>
      rw [stepped] at same
      cases same with
      | next nextAlike =>
          rw [finish_next otherStepped]
          exact inductionHypothesis drawn nextAlike _ rfl
            (step_alike (drawn.before (step_finish_becomes processor next)) nextAlike)

end Machine

namespace Processor

variable {processor : Processor} {renderer : Renderer} {run other : Run}

theorem expandSpan_alike {span : Span} {text : Text}
    (drawn : (processor.expandSpan span text run).run.DrawnBy processor.renderer renderer)
    (alike : run.Alike other) :
    (processor.expandSpan span text run).Alike
      ((processor.drawing renderer).expandSpan span text other) := by
  revert drawn
  unfold expandSpan
  split
  · exact fun _ => ⟨Or.inl ⟨text, text, rfl, rfl⟩, alike⟩
  · exact fun drawn => Machine.finish_alike drawn ⟨.refl _, .nil, alike⟩

theorem expandSpans_alike {spans : List Span} {text : Text} (done otherDone : List Text)
    (drawn : (processor.expandSpans done spans text run).2.DrawnBy processor.renderer renderer)
    (alike : run.Alike other) :
    Concur (processor.expandSpans done spans text run).1
        ((processor.drawing renderer).expandSpans otherDone spans text other).1 ∧
      (processor.expandSpans done spans text run).2.Alike
        ((processor.drawing renderer).expandSpans otherDone spans text other).2 := by
  induction spans generalizing done otherDone text run other with
  | nil => exact ⟨Or.inl ⟨done, otherDone, rfl, rfl⟩, alike⟩
  | cons span rest inductionHypothesis =>
      have becomes : (processor.expandSpan span (text.take span.length) run).run.Becomes
          processor.renderer (processor.expandSpans done (span :: rest) text run).2 := by
        simp only [expandSpans]
        split
        · exact .same
        · exact processor.expandSpans_becomes ..
      obtain ⟨result, runAlike⟩ := expandSpan_alike (drawn.before becomes) alike
      rcases result with ⟨expanded, otherExpanded, same, otherSame⟩ | ⟨stop, same, otherSame⟩
      · simp only [expandSpans, same, otherSame]
        simp only [expandSpans, same] at drawn
        exact inductionHypothesis _ _ drawn runAlike
      · simp only [expandSpans, same, otherSame]
        exact ⟨Or.inr ⟨stop, rfl, rfl⟩, runAlike⟩

/-- What has been handed to the backend when the spans of a document are expanded is handed to it
while the document is processed. -/
theorem mem_events_process {document : Text} {event : Event}
    (member : event ∈ (processor.expandSpans [] (Span.scan processor.settings.codeMarks document)
      document (Run.start.log (.scanned document.length
        (Span.scan processor.settings.codeMarks document).length))).2.events) :
    event ∈ (processor.process document).events := by
  simp only [process]
  split
  · exact List.mem_reverse.mpr member
  · exact List.mem_reverse.mpr (List.mem_cons_of_mem _ member)

theorem report_alike {document : Text}
    (drawn : ∀ primitive, .rendered primitive ∈ (processor.process document).events →
      processor.renderer.Draws primitive ∧ renderer.Draws primitive) :
    Concur (processor.process document).result
        ((processor.drawing renderer).process document).result ∧
      (processor.process document).events.map Event.unsized =
        ((processor.drawing renderer).process document).events.map Event.unsized := by
  obtain ⟨result, runAlike⟩ := expandSpans_alike [] []
    (fun primitive member => drawn primitive (mem_events_process member)) ⟨rfl, rfl⟩
  simp only [process, settings_drawing]
  rcases result with ⟨pieces, otherPieces, same, otherSame⟩ | ⟨stop, same, otherSame⟩
  · rw [same, otherSame]
    refine ⟨Or.inl ⟨_, _, rfl, rfl⟩, ?_⟩
    rw [List.map_reverse, List.map_reverse, runAlike.expanded.events]
  · rw [same, otherSame]
    refine ⟨Or.inr ⟨stop, rfl, rfl⟩, ?_⟩
    rw [List.map_reverse, List.map_reverse, runAlike.events]

/-- With any two backends that draw all that they are handed for a document it is processed in the
same way. Both runs succeed or fail for one reason, both draw the same primitives in order, and in
every state the same text waits to be read; so what is drawn is never read. A backend of the library
fails exactly where it needs the octets of a text that has none. -/
theorem process_drawing {document : Text}
    (drawn : ∀ primitive, .rendered primitive ∈ (processor.process document).events →
      processor.renderer.Draws primitive ∧ renderer.Draws primitive) :
    let first := processor.process document
    let second := (processor.drawing renderer).process document
    ((∃ output other, first.result = .ok output ∧ second.result = .ok other) ∨
      ∃ stop, first.result = .error stop ∧ second.result = .error stop) ∧
    first.events.filterMap Event.primitive? = second.events.filterMap Event.primitive? ∧
    first.events.map Event.unsized = second.events.map Event.unsized ∧
    (∀ machine other, machine.Alike other → ∀ state, Machine.Reaches processor machine state →
      state.run.DrawnBy processor.renderer renderer →
      ∃ otherState, Machine.Reaches (processor.drawing renderer) other otherState ∧
        state.Alike otherState) ∧
    ∀ (backend : Backend) assetsFolder primitive,
      (backend.renderer assetsFolder).Draws primitive ↔
        ∀ text ∈ backend.encodes primitive, text.Whole := by
  intro first second
  obtain ⟨result, events⟩ := report_alike drawn
  refine ⟨result, Event.drawn_of_unsized events, events, ?_, Backend.draws_iff⟩
  exact fun machine other alike state reached drawn => Machine.reaches_alike alike reached drawn

/-- A swatch that is drawn in plain letters is also drawn as a file. -/
theorem process_drawing_swatch :
    let letters := framing.drawing (Backend.plaintext.renderer [])
    let head : Head := ⟨some .shields, "block", ["color=F41C80"], true⟩
    (∀ primitive, .rendered primitive ∈ (letters.process head.written).events →
        letters.renderer.Draws primitive ∧ (Backend.svg.renderer []).Draws primitive) ∧
      (((letters.drawing (Backend.svg.renderer [])).process head.written).events.filterMap
        Event.primitive?) = [.swatch "F41C80" [] none] := by
  intro letters head
  let drawn (run : Run) : Machine :=
    ⟨(Job.ofDocument head.written 0).advanced "[#F41C80]" [] 31, [],
      (run.log (.dispatched "shields:block" 0)).log (.rendered (.swatch "F41C80" [] none))⟩
  have read : Token.read 0 head.written = .ok (some (.opening ⟨head.tag, 0, 31⟩)) :=
    Token.read_opening_iff.mpr ⟨head, by decide, List.prefix_refl _, rfl⟩
  have stepped (run : Run) :
      Machine.step letters (Machine.ofDocument head.written 0 run) = .next (drawn run) := by
    rw [Machine.step_atTag ⟨rfl, read⟩]
    with_unfolding_all rfl
  have finished (run : Run) : Machine.finish letters (Machine.ofDocument head.written 0 run) =
      ⟨.ok "[#F41C80]", (drawn run).run.log (.popped 0 9)⟩ := by
    rw [Machine.finish_next (stepped run)]
    exact Machine.finish_done rfl
  have scanned : Span.scan letters.settings.codeMarks head.written = [⟨.literal, 0, 31⟩] := by
    with_unfolding_all rfl
  have expanded (run : Run) : letters.expandSpan ⟨.literal, 0, 31⟩ (head.written.take 31) run =
      ⟨.ok "[#F41C80]", (drawn run).run.log (.popped 0 9)⟩ := by
    rw [expandSpan, if_neg (by decide)]
    exact finished run
  have primitives : (letters.process head.written).events.filterMap Event.primitive? =
      [.swatch "F41C80" [] none] := by
    simp only [process, scanned, expandSpans]
    rw [show (⟨.literal, 0, 31⟩ : Span).length = 31 from rfl, expanded]
    rfl
  have draws (primitive : Primitive)
      (member : .rendered primitive ∈ (letters.process head.written).events) :
      letters.renderer.Draws primitive ∧ (Backend.svg.renderer []).Draws primitive := by
    have only : primitive ∈ (letters.process head.written).events.filterMap Event.primitive? :=
      List.mem_filterMap.mpr ⟨_, member, rfl⟩
    rw [primitives, List.mem_singleton] at only
    subst only
    exact ⟨(Backend.draws_iff .plaintext [] _).mpr (by decide),
      (Backend.draws_iff .svg [] _).mpr (by decide)⟩
  obtain ⟨_, same, _⟩ := process_drawing draws
  exact ⟨draws, same.symm.trans primitives⟩

/-- Half of a pair of surrogates may be the name of a technology. Plain letters show it, but the other
backends need its octets, and it has none. -/
theorem process_drawing_half :
    let head : Head := ⟨some .ui, "tech", [[.half 0]], true⟩
    let named : Primitive := .tech [.half 0] "292A2D" "FFFFFF" "flat-square"
    let standard (backend : Backend) : Processor :=
      Processor.make (Registry.standard []) Settings.standard (backend.renderer "assets")
        Settings.standard.documentContext
    ((standard .plaintext).process head.written).result =
        .ok ⟨[.of '[', .half 0, .of ']'], []⟩ ∧
      ∀ backend ∈ [Backend.shields, Backend.svg], ¬ (backend.renderer "assets").Draws named ∧
        ∃ message, ((standard backend).process head.written).result =
          .error (.failure ⟨.rendererFailed "UnicodeEncodeError" message, some 0⟩) := by
  intro head named standard
  have read : Token.read 0 head.written = .ok (some (.opening ⟨head.tag, 0, 14⟩)) :=
    Token.read_opening_iff.mpr ⟨head, by decide, List.prefix_refl _, rfl⟩
  have scanned (backend : Backend) : Span.scan (standard backend).settings.codeMarks head.written =
      [⟨.literal, 0, head.written.length⟩] := by
    with_unfolding_all rfl
  have decided (backend : Backend) :
      (Dispatch.decide (standard backend) ⟨head.tag, 0, 14⟩ head.inside).outcome =
        .ok (⟨12, none⟩, .draw named) := by
    with_unfolding_all rfl
  have stepped (backend : Backend) (run : Run) : ∃ later : Run,
      Machine.step (standard backend) (Machine.ofDocument head.written 0 run) =
          Machine.draw (standard backend) ⟨Job.ofDocument head.written 0, [], later⟩ named ⟨12, none⟩
            head.inside ∧
        later.assets = run.assets := by
    rw [Machine.step_atTag ⟨rfl, read⟩]
    simp only [Machine.handle, Machine.act, decided]
    exact ⟨_, rfl, rfl⟩
  constructor
  · obtain ⟨later, drawn, assets⟩ :=
      stepped .plaintext (Run.start.log (.scanned head.written.length 1))
    rw [process_tagged (scanned .plaintext) (by decide)
      ((Machine.finish_next drawn).trans (Machine.finish_done rfl))]
    simp only [Run.log, assets]
    rfl
  · intro backend among
    have undrawn : ¬ (backend.renderer "assets").Draws named := by
      rw [Backend.draws_iff]
      rcases List.mem_pair.mp among with rfl | rfl <;> decide
    obtain ⟨fault, broken⟩ := Backend.broken_of_not_draws undrawn
    obtain ⟨later, drawn, _⟩ := stepped backend (Run.start.log (.scanned head.written.length 1))
    simp only [Machine.draw, standard, Processor.make, broken] at drawn
    refine ⟨undrawn, fault.message, ?_⟩
    rw [process_tagged (scanned backend) (by decide) (Machine.finish_stopped drawn)]
    rfl

end Processor
end Flourish
