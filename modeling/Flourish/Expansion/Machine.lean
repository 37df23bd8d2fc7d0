/-
This file expands text on an explicit stack of jobs, so that the limit of depth is exact. Main
statement: every step lowers a measure, so a run ends.
-/

import Flourish.Expansion.Dispatch
import Flourish.Expansion.Segment

namespace Flourish

/-- What a run over a document has collected. Events are newest first. -/
structure Run where
  assets : List FileAsset
  expansions : Nat
  events : List Event

namespace Run

def start : Run :=
  ⟨[], 0, []⟩

def log (run : Run) (event : Event) : Run :=
  { run with events := event :: run.events }

/-- A file counts once for each path. -/
def collect (run : Run) : Asset → Run
  | .markdown _ => run
  | .file asset =>
      if run.assets.any fun known => known.path = asset.path then run
      else { run with assets := run.assets ++ [asset] }

end Run

/-- A text that is being expanded: `rest` is what is not read yet, from `position` on, and
`produced` is the output so far, newest letter first. -/
structure Job where
  text : Text
  rest : Text
  position : Nat
  depth : Nat
  segments : List Segment
  origin : Int
  finish : Finish
  produced : Text

namespace Job

/-- A letter that was not taken from the document counts as standing where the tag stands that
produced the text. -/
def offsetOf (job : Job) (position : Int) : Int :=
  (Segment.sourceOf? job.segments position).getD job.origin

/-- A failure of this job, placed in the document. -/
def placed (job : Job) (failure : Failure) : Failure :=
  { failure with offset := some (job.offsetOf (failure.offset.getD job.position)) }

/-- A stop of this job; a failure is placed in the document. -/
def stopped (job : Job) : Stop → Stop
  | .failure failure => .failure (job.placed failure)
  | .defect defect => .defect defect

/-- The job of a stretch of the document. -/
def ofDocument (text : Text) (base : Nat) : Job where
  text := text
  rest := text
  position := 0
  depth := 0
  segments := [⟨0, text.length, base⟩]
  origin := base
  finish := .keep
  produced := []

/-- The job after output that took the place of some letters. -/
def advanced (job : Job) (output rest : Text) (letters : Nat) : Job :=
  { job with
    rest := rest
    position := job.position + letters
    produced := output.reverse ++ job.produced }

/-- The job of a text that a tag of this job gave rise to. The content of the tag starts at
`bodyStart` here and at each of `contentStarts` there. -/
def child (job : Job) (text : Text) (extent : Extent) (bodyStart : Nat)
    (contentStarts : List Nat) (finish : Finish) : Job where
  text := text
  rest := text
  position := 0
  depth := job.depth + 1
  segments :=
    match extent.body with
    | none => []
    | some (size, _) =>
        contentStarts.flatMap fun (start : Nat) =>
          Segment.sliced job.segments bodyStart (bodyStart + size) ((start : Int) - bodyStart)
  origin := job.offsetOf job.position
  finish := finish
  produced := []

end Job

/-- The stack of jobs: each waits for the one above it. -/
structure Machine where
  top : Job
  below : List Job
  run : Run

/-- A step leads to the next state, to the expanded text, or to a stop. -/
inductive Step where
  | next (machine : Machine)
  | done (text : Text) (run : Run)
  | stopped (stop : Stop) (run : Run)

namespace Machine

/-- The text of the top job is used up: its output goes to the job below. -/
def finishTop (machine : Machine) : Step :=
  let job := machine.top
  match job.finish.apply job.produced.reverse with
  | .error failure =>
      .stopped (.failure { failure with offset := some job.origin }) machine.run
  | .ok text =>
      let run := machine.run.log (.popped job.depth text.length)
      match machine.below with
      | [] => .done text run
      | parent :: others =>
          .next ⟨{ parent with produced := text.reverse ++ parent.produced }, others, run⟩

/-- The top job copies one letter. -/
def copy (machine : Machine) (letter : Letter) (rest : Text) : Step :=
  .next { machine with top := machine.top.advanced [letter] rest 1 }

/-- A primitive is drawn and takes the place of its tag. -/
def draw (processor : Processor) (machine : Machine) (primitive : Primitive) (extent : Extent)
    (tail : Text) : Step :=
  let run := machine.run.log (.rendered primitive)
  match processor.renderer primitive with
  | .error (.refused failure) =>
      .stopped (.failure (machine.top.placed failure)) run
  | .error (.broken kind message) =>
      .stopped (.failure (machine.top.placed (Cause.rendererFailed kind message).unplaced)) run
  | .ok asset =>
      let top := machine.top.advanced asset.toMarkdown (tail.drop extent.size) (extent.size + 2)
      .next ⟨top, machine.below, run.collect asset⟩

/-- A new job for a tag of the top job, unless it would be too deep. -/
def push (processor : Processor) (machine : Machine) (opening : Opening) (extent : Extent)
    (tail text : Text) (contentStarts : List Nat) (finish : Finish) : Step :=
  let job := machine.top
  let limit := processor.settings.maxExpansionDepth
  if limit < job.depth + 1 then
    .stopped (.failure (job.placed (Cause.limitExceeded limit .depth).unplaced)) machine.run
  else
    let run := machine.run.log (.pushed opening.tag.displayName (job.depth + 1))
    let child := job.child text extent opening.headStop contentStarts finish
    let parent := job.advanced [] (tail.drop extent.size) (extent.size + 2)
    .next ⟨child, parent :: machine.below, run⟩

/-- A new job for the template of a tag, unless there have been too many. -/
def pushTemplate (processor : Processor) (machine : Machine) (opening : Opening)
    (extent : Extent) (tail text : Text) (contentStarts : List Nat) (finish : Finish) : Step :=
  let limit := processor.settings.maxExpansions
  let run := { machine.run with expansions := machine.run.expansions + 1 }
  if limit < run.expansions then
    .stopped (.failure (machine.top.placed (Cause.limitExceeded limit .count).unplaced)) run
  else
    push processor { machine with run := run } opening extent tail text contentStarts finish

/-- This function makes the move that was decided for a tag. -/
def act (processor : Processor) (machine : Machine) (opening : Opening) (extent : Extent)
    (tail : Text) : Move → Step
  | .write text =>
      .next { machine with
        top := machine.top.advanced text (tail.drop extent.size) (extent.size + 2) }
  | .draw primitive => draw processor machine primitive extent tail
  | .expandContent finish =>
      push processor machine opening extent tail (extent.contentIn tail) [0] finish
  | .expandTemplate text contentStarts finish =>
      pushTemplate processor machine opening extent tail text contentStarts finish

/-- This function handles the tag whose head was read at the place of the top job. -/
def handle (processor : Processor) (machine : Machine) (opening : Opening) (tail : Text) : Step :=
  let job := machine.top
  let offset := job.offsetOf job.position
  let decision := Dispatch.decide processor opening tail
  let dispatched := machine.run.log (.dispatched opening.tag.displayName offset)
  let run := { dispatched with events := decision.events.reverse ++ dispatched.events }
  match decision.outcome with
  | .error stop => .stopped (job.stopped stop) run
  | .ok (extent, move) => act processor { machine with run := run } opening extent tail move

/-- One step of the top job. -/
def step (processor : Processor) (machine : Machine) : Step :=
  let job := machine.top
  match job.rest with
  | [] => machine.finishTop
  | '{' :: '{' :: tail =>
      match Token.read job.position (.of '{' :: .of '{' :: tail) with
      | .error failure => .stopped (.failure (job.placed failure)) machine.run
      | .ok none => machine.copy '{' (.of '{' :: tail)
      | .ok (some (.closer closer)) =>
          let failure := (Cause.mismatchedCloser none closer.name).unplaced
          .stopped (.failure (job.placed failure)) machine.run
      | .ok (some (.opening opening)) => handle processor machine opening tail
  | letter :: rest => machine.copy letter rest

/-- The letters that wait to be read, and one more for each job. -/
def weight (machine : Machine) : Nat :=
  machine.top.rest.length + 1 +
    machine.below.foldr (fun job waiting => job.rest.length + 1 + waiting) 0

/-- A state is lower than another if it has fewer templates left to expand, or as many and a
smaller weight. -/
def Lower (processor : Processor) (next machine : Machine) : Prop :=
  processor.settings.maxExpansions - next.run.expansions <
      processor.settings.maxExpansions - machine.run.expansions ∨
    (next.run.expansions = machine.run.expansions ∧ next.weight < machine.weight)

theorem lower_of_weight {processor : Processor} {next machine : Machine}
    (same : next.run.expansions = machine.run.expansions) (less : next.weight < machine.weight) :
    Lower processor next machine :=
  Or.inr ⟨same, less⟩

theorem expansions_collect (run : Run) (asset : Asset) :
    (run.collect asset).expansions = run.expansions := by
  cases asset with
  | markdown text => rfl
  | file asset =>
      simp only [Run.collect]
      split <;> rfl

theorem finishTop_lower {processor : Processor} {machine next : Machine}
    (stepped : machine.finishTop = .next next) : Lower processor next machine := by
  simp only [finishTop] at stepped
  split at stepped
  · cases stepped
  · split at stepped
    · cases stepped
    · rename_i parent others waiting
      cases stepped
      refine lower_of_weight rfl ?_
      simp only [weight, waiting, List.foldr_cons]
      omega

theorem copy_lower {processor : Processor} {machine next : Machine} {letter : Letter} {rest : Text}
    (read : rest.length < machine.top.rest.length)
    (stepped : machine.copy letter rest = .next next) : Lower processor next machine := by
  cases stepped
  refine lower_of_weight rfl ?_
  simp only [weight, Job.advanced]
  omega

theorem push_weight {processor : Processor} {machine next : Machine} {opening : Opening}
    {extent : Extent} {tail text : Text} {contentStarts : List Nat} {finish : Finish}
    (stepped : push processor machine opening extent tail text contentStarts finish = .next next) :
    next.run.expansions = machine.run.expansions ∧
      next.weight + machine.top.rest.length + 1 =
        machine.weight + text.length + 1 + (tail.drop extent.size).length + 1 := by
  simp only [push] at stepped
  split at stepped
  · cases stepped
  · cases stepped
    refine ⟨rfl, ?_⟩
    simp only [weight, Job.child, Job.advanced, List.foldr_cons]
    omega

theorem act_lower {processor : Processor} {machine next : Machine} {opening : Opening}
    {extent : Extent} {tail : Text} {move : Move}
    (read : machine.top.rest.length = tail.length + 2)
    (stepped : act processor machine opening extent tail move = .next next) :
    Lower processor next machine := by
  cases move with
  | write text =>
      cases stepped
      refine lower_of_weight rfl ?_
      simp only [weight, Job.advanced, List.length_drop]
      omega
  | draw primitive =>
      simp only [act, draw] at stepped
      split at stepped
      · cases stepped
      · cases stepped
      · cases stepped
        refine lower_of_weight (expansions_collect _ _) ?_
        simp only [weight, Job.advanced, List.length_drop]
        omega
  | expandContent finish =>
      obtain ⟨same, moved⟩ := push_weight stepped
      refine lower_of_weight same ?_
      simp only [Extent.contentIn, Extent.size, List.length_take, List.length_drop] at moved
      omega
  | expandTemplate text contentStarts finish =>
      simp only [act, pushTemplate] at stepped
      split at stepped
      · cases stepped
      · rename_i within
        obtain ⟨counted, _⟩ := push_weight stepped
        left
        simp only at counted within
        omega

theorem step_lower {processor : Processor} {machine next : Machine}
    (stepped : step processor machine = .next next) : Lower processor next machine := by
  simp only [step] at stepped
  split at stepped
  · exact finishTop_lower stepped
  · rename_i tail rest
    split at stepped
    · cases stepped
    · exact copy_lower (by simp [rest]) stepped
    · cases stepped
    · simp only [handle] at stepped
      split at stepped
      · cases stepped
      · have lower : Lower processor next _ := act_lower (by simp [rest]) stepped
        exact lower
  · rename_i letter rest _ whole
    exact copy_lower (by simp [whole]) stepped

/-- What a run ends with: the expanded text, or why it stopped. -/
structure Outcome where
  result : Except Stop Text
  run : Run

/-- This function runs the machine to its end. -/
def finish (processor : Processor) (machine : Machine) : Outcome :=
  match stepped : step processor machine with
  | .done text run => ⟨.ok text, run⟩
  | .stopped stop run => ⟨.error stop, run⟩
  | .next next =>
      have : Lower processor next machine := step_lower stepped
      finish processor next
termination_by (processor.settings.maxExpansions - machine.run.expansions, machine.weight)
decreasing_by
  rcases this with fewer | ⟨same, less⟩
  · exact Prod.Lex.left _ _ fewer
  · rw [same]
    exact Prod.Lex.right _ less

/-- The machine for a stretch of a document that begins at `base`. -/
def ofDocument (text : Text) (base : Nat) (run : Run) : Machine :=
  ⟨Job.ofDocument text base, [], run⟩

end Machine
end Flourish
