/-
This file says what is seen of a run: the text or the stop without its place, and what was drawn on
the way. Main statements: a primitive is drawn alike wherever its tag stands, and what is seen of a
document with a tag is what is seen of its expansion.
-/

import Flourish.Proofs.Expansion.Answer
import Flourish.Proofs.Expansion.Backend

namespace Flourish

/-- The stop without the place where it stands. -/
def Stop.unplaced : Stop → Stop
  | .failure raised => .failure raised.cause.unplaced
  | .defect found => .defect found

/-- Two reports with the same output, or with the same stop perhaps at another place, on the way to
which the same primitives were drawn. -/
structure Report.DrawnAlike (first second : Report Output) : Prop where
  result : first.result.mapError Stop.unplaced = second.result.mapError Stop.unplaced
  primitives : first.events.filterMap Event.primitive? = second.events.filterMap Event.primitive?

/-- What a run has drawn: the primitives, newest first, and the files. -/
def Run.drawings (run : Run) : List Primitive × List FileAsset :=
  (run.events.filterMap Event.primitive?, run.assets)

/-- What is seen of an outcome: the text, or the stop without its place, and what was drawn. -/
def Machine.Outcome.visible (outcome : Machine.Outcome) :
    Except Stop Text × List Primitive × List FileAsset :=
  (outcome.result.mapError Stop.unplaced, outcome.run.drawings)

namespace Run

variable {run other : Run}

theorem drawings_log {event : Event} (silent : event.primitive? = none) :
    (run.log event).drawings = run.drawings := by
  simp only [drawings, log, List.filterMap_cons, silent]

theorem drawings_rendered (same : run.drawings = other.drawings) (primitive : Primitive) :
    (run.log (.rendered primitive)).drawings = (other.log (.rendered primitive)).drawings := by
  simp only [drawings, Prod.mk.injEq] at same
  simp only [drawings, log, List.filterMap_cons, Event.primitive?, same.1, same.2]

theorem drawings_collect (same : run.drawings = other.drawings) (asset : Asset) :
    (run.collect asset).drawings = (other.collect asset).drawings := by
  simp only [drawings, Prod.mk.injEq] at same
  cases asset with
  | markdown text => simp only [drawings, collect, same.1, same.2]
  | file asset =>
      simp only [drawings, collect, same.2]
      split <;> simp only [same.1, same.2]

end Run

namespace Recursion

variable {processor : Processor} {site otherSite : Site} {position otherPosition : Nat}
  {run other : Run}

theorem unplaced_placed (site : Site) (position : Nat) (stop : Stop) :
    (site.placed position stop).unplaced = stop.unplaced := by
  cases stop <;> rfl

theorem visible_finished (outcome : Machine.Outcome) (site : Site) :
    (outcome.finished site .keep).visible = outcome.visible := by
  rcases outcome with ⟨result, run⟩
  cases result with
  | error stop => rfl
  | ok text =>
      have kept := run.drawings_log (show (Event.popped site.depth text.length).primitive? = none
        from rfl)
      simp only [Machine.Outcome.visible, Machine.Outcome.finished, Finish.apply, kept]

/-- The decision about a call draws nothing yet. -/
theorem drawings_decided {opening : Opening} {decision : Decision}
    (silent : decision.events.filterMap Event.primitive? = []) :
    (decided site position opening decision run).drawings = run.drawings := by
  simp only [Run.drawings, decided, List.filterMap_append, List.filterMap_reverse, silent,
    List.reverse_nil, List.nil_append, List.filterMap_cons, Event.primitive?]

theorem visible_stopped (stop : Stop) :
    (Machine.Outcome.stopped (site.placed position stop) run).visible =
      (.error stop.unplaced, run.drawings) := by
  simp only [Machine.Outcome.visible, Machine.Outcome.stopped, Except.mapError, unplaced_placed]

/-- A primitive is drawn alike wherever its tag stands. -/
theorem visible_drawn (same : run.drawings = other.drawings) (primitive : Primitive) :
    (drawn processor site position primitive run).visible =
      (drawn processor otherSite otherPosition primitive other).visible := by
  have rendered := Run.drawings_rendered same primitive
  simp only [drawn]
  cases processor.renderer primitive with
  | error fault => cases fault <;> simp only [visible_stopped, rendered]
  | ok asset =>
      simp only [Machine.Outcome.visible, Run.drawings_collect rendered]

end Recursion

/-- What is seen of a document that is one literal span with a tag. -/
theorem Processor.process_visible {processor : Processor} {document : Text}
    (scanned : Span.scan processor.settings.codeMarks document =
      [⟨.literal, 0, document.length⟩])
    (tagged : (Text.firstIndex [.of '{', .of '{'] document).isSome) :
    ∃ run : Run, run.drawings = ([], []) ∧ run.expansions = 0 ∧
      let outcome := Recursion.expand processor (Site.ofDocument document 0) 0 document run
      (processor.process document).result.mapError Stop.unplaced =
          outcome.visible.1.map (fun text => ⟨text, outcome.visible.2.2⟩) ∧
        (processor.process document).events.filterMap Event.primitive? =
          outcome.visible.2.1.reverse := by
  let run := Run.start.log (.scanned document.length 1)
  refine ⟨run, rfl, rfl, ?_⟩
  dsimp only
  rw [← Recursion.visible_finished _ (Site.ofDocument document 0),
    ← Machine.finish_stretch processor document 0 run]
  generalize finished : Machine.finish processor (Machine.ofDocument document 0 run) = outcome
  rw [process_tagged scanned tagged finished]
  rcases outcome with ⟨result, later⟩
  cases result with
  | error stop => exact ⟨rfl, List.filterMap_reverse⟩
  | ok text =>
      refine ⟨rfl, ?_⟩
      rw [List.filterMap_reverse]
      rfl

end Flourish
