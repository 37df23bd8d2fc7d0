/-
This file expands text by plain recursion, without a stack of jobs. Main statement: the machine of
waiting jobs and the recursion have the same outcome.
-/

import Flourish.Expansion.Machine

namespace Flourish

/-- The surroundings of a text: how deep it is nested, which of its letters were taken from the
document, and where the tag stands that gave rise to it. -/
structure Site where
  depth : Nat
  segments : List Segment
  origin : Int
  deriving DecidableEq, Repr

namespace Site

/-- The site of a stretch of the document. -/
def ofDocument (text : Text) (base : Nat) : Site :=
  ⟨0, [⟨0, text.length, base⟩], base⟩

/-- A letter that was not taken from the document counts as standing where the tag stands that
gave rise to the text. -/
def offsetOf (site : Site) (position : Int) : Int :=
  (Segment.sourceOf? site.segments position).getD site.origin

/-- The stop of a tag at a position; a failure is placed in the document. -/
def placed (site : Site) (position : Nat) : Stop → Stop
  | .failure failure =>
      .failure { failure with offset := some (site.offsetOf (failure.offset.getD position)) }
  | .defect defect => .defect defect

/-- The site of the text of a tag at `position` whose content starts at `bodyStart` here and at
each of `contentStarts` there. -/
def child (site : Site) (position : Nat) (extent : Extent) (bodyStart : Nat)
    (contentStarts : List Nat) : Site where
  depth := site.depth + 1
  segments :=
    match extent.body with
    | none => []
    | some (size, _) =>
        contentStarts.flatMap fun (start : Nat) =>
          Segment.sliced site.segments bodyStart (bodyStart + size) ((start : Int) - bodyStart)
  origin := site.offsetOf position

end Site

namespace Machine.Outcome

def stopped (stop : Stop) (run : Run) : Outcome :=
  ⟨.error stop, run⟩

/-- The outcome with a text before the expanded one. -/
def after (output : Text) (outcome : Outcome) : Outcome :=
  ⟨outcome.result.map (output ++ ·), outcome.run⟩

/-- The outcome of one text and then of what follows it. -/
def andThen (outcome : Outcome) (next : Run → Outcome) : Outcome :=
  match outcome.result with
  | .error stop => stopped stop outcome.run
  | .ok output => (next outcome.run).after output

/-- The outcome of a text whose expansion is finished as its tag asks. A failure of that stands
where the tag stands. -/
def finished (site : Site) (finish : Finish) (outcome : Outcome) : Outcome :=
  match outcome.result with
  | .error stop => stopped stop outcome.run
  | .ok output =>
      match finish.apply output with
      | .error failure =>
          stopped (.failure { failure with offset := some site.origin }) outcome.run
      | .ok text => ⟨.ok text, outcome.run.log (.popped site.depth text.length)⟩

theorem after_nil (outcome : Outcome) : outcome.after [] = outcome := by
  rcases outcome with ⟨result, run⟩
  cases result <;> rfl

theorem after_after (first second : Text) (outcome : Outcome) :
    (outcome.after second).after first = outcome.after (first ++ second) := by
  rcases outcome with ⟨result, run⟩
  cases result <;> simp [after, Except.map]

end Machine.Outcome

namespace Recursion

open Machine (Outcome)

/-- The run after a tag was recognized and what becomes of it was decided. -/
def decided (site : Site) (position : Nat) (opening : Opening) (decision : Decision)
    (run : Run) : Run :=
  { run with
    events := decision.events.reverse ++
      .dispatched opening.tag.displayName (site.offsetOf position) :: run.events }

/-- The outcome of a tag that is drawn. -/
def drawn (processor : Processor) (site : Site) (position : Nat) (primitive : Primitive)
    (run : Run) : Outcome :=
  let run := run.log (.rendered primitive)
  match processor.renderer primitive with
  | .error (.refused failure) => .stopped (site.placed position (.failure failure)) run
  | .error (.broken kind message) =>
      .stopped (site.placed position (.failure (Cause.rendererFailed kind message).unplaced)) run
  | .ok asset => ⟨.ok asset.toMarkdown, run.collect asset⟩

def tooDeep (processor : Processor) (site : Site) (position : Nat) : Stop :=
  site.placed position
    (.failure (Cause.limitExceeded processor.settings.maxExpansionDepth .depth).unplaced)

def tooMany (processor : Processor) (site : Site) (position : Nat) : Stop :=
  site.placed position
    (.failure (Cause.limitExceeded processor.settings.maxExpansions .count).unplaced)

def counted (run : Run) : Run :=
  { run with expansions := run.expansions + 1 }

def entered (site : Site) (opening : Opening) (run : Run) : Run :=
  run.log (.pushed opening.tag.displayName (site.depth + 1))

/-- This function expands the letters of a text from `position` on. Letters outside tags are
copied, a tag is replaced by what becomes of it, and a tag with a text of its own by the expansion
of that text one level deeper. -/
def expand (processor : Processor) (site : Site) (position : Nat) (text : Text) (run : Run) :
    Outcome :=
  match text with
  | [] => ⟨.ok [], run⟩
  | '{' :: '{' :: tail =>
      match Token.read position (.of '{' :: .of '{' :: tail) with
      | .error failure => .stopped (site.placed position (.failure failure)) run
      | .ok none => (expand processor site (position + 1) (.of '{' :: tail) run).after [.of '{']
      | .ok (some (.closer closer)) =>
          .stopped (site.placed position
            (.failure (Cause.mismatchedCloser none closer.name).unplaced)) run
      | .ok (some (.opening opening)) =>
          let decision := Dispatch.decide processor opening tail
          let run := decided site position opening decision run
          match decision.outcome with
          | .error stop => .stopped (site.placed position stop) run
          | .ok (extent, move) =>
              let replacement : Outcome :=
                match move with
                | .write output => ⟨.ok output, run⟩
                | .draw primitive => drawn processor site position primitive run
                | .expandContent finish =>
                    if processor.settings.maxExpansionDepth < site.depth + 1 then
                      .stopped (tooDeep processor site position) run
                    else
                      let inner := site.child position extent opening.headStop [0]
                      (expand processor inner 0 (extent.contentIn tail)
                        (entered site opening run)).finished inner finish
                | .expandTemplate content contentStarts finish =>
                    let run := counted run
                    if processor.settings.maxExpansions < run.expansions then
                      .stopped (tooMany processor site position) run
                    else if processor.settings.maxExpansionDepth < site.depth + 1 then
                      .stopped (tooDeep processor site position) run
                    else
                      let inner := site.child position extent opening.headStop contentStarts
                      (expand processor inner 0 content
                        (entered site opening run)).finished inner finish
              replacement.andThen fun run =>
                expand processor site (position + (extent.size + 2)) (tail.drop extent.size) run
  | letter :: rest => (expand processor site (position + 1) rest run).after [letter]
termination_by (processor.settings.maxExpansionDepth - site.depth, text.length)
decreasing_by
  · exact Prod.Lex.right _ (Nat.lt_succ_self _)
  · exact Prod.Lex.left _ _ (by simp only [Site.child]; omega)
  · exact Prod.Lex.left _ _ (by simp only [Site.child]; omega)
  · exact Prod.Lex.right _ (by simp only [List.length_drop, List.length_cons]; omega)
  · exact Prod.Lex.right _ (Nat.lt_succ_self _)

end Recursion

namespace Job

/-- The surroundings of the text of a job. -/
def site (job : Job) : Site :=
  ⟨job.depth, job.segments, job.origin⟩

theorem stopped_site (job : Job) (stop : Stop) :
    job.stopped stop = job.site.placed job.position stop := by
  cases stop <;> rfl

end Job

namespace Machine

open Recursion (expand)

theorem finish_next {processor : Processor} {machine next : Machine}
    (stepped : step processor machine = .next next) :
    finish processor machine = finish processor next := by
  rw [finish]
  split <;> simp_all

theorem finish_done {processor : Processor} {machine : Machine} {text : Text} {run : Run}
    (stepped : step processor machine = .done text run) :
    finish processor machine = ⟨.ok text, run⟩ := by
  rw [finish]
  split <;> simp_all

theorem finish_stopped {processor : Processor} {machine : Machine} {stop : Stop} {run : Run}
    (stepped : step processor machine = .stopped stop run) :
    finish processor machine = .stopped stop run := by
  rw [finish]
  split <;> simp_all [Outcome.stopped]

/-- The outcome of the jobs below a text that was finished. -/
def resume (processor : Processor) (below : List Job) (outcome : Outcome) : Outcome :=
  match outcome.result, below with
  | .ok text, parent :: others =>
      finish processor
        ⟨{ parent with produced := text.reverse ++ parent.produced }, others, outcome.run⟩
  | _, _ => outcome

/-- The outcome of a job, given the outcome of what it has not read yet. -/
def close (processor : Processor) (job : Job) (below : List Job) (outcome : Outcome) : Outcome :=
  resume processor below ((outcome.after job.produced.reverse).finished job.site job.finish)

theorem resume_nil (processor : Processor) (outcome : Outcome) :
    resume processor [] outcome = outcome := by
  rcases outcome with ⟨result, run⟩
  cases result <;> rfl

/-- Output that a job has produced comes before what it has not read yet. -/
theorem close_advanced (processor : Processor) (job : Job) (below : List Job)
    (output rest : Text) (letters : Nat) (outcome : Outcome) :
    close processor (job.advanced output rest letters) below outcome =
      close processor job below (outcome.after output) := by
  simp only [close, Job.advanced, Job.site, Outcome.after_after, List.reverse_append,
    List.reverse_reverse]

/-- The machine and the recursion expand alike what a job has not read yet. -/
def Agrees (processor : Processor) (job : Job) : Prop :=
  ∀ below run, finish processor ⟨job, below, run⟩ =
    close processor job below (expand processor job.site job.position job.rest run)

variable {processor : Processor} {job : Job}

theorem agrees_used (used : job.rest = []) : Agrees processor job := by
  intro below run
  have stepped : step processor ⟨job, below, run⟩ = finishTop ⟨job, below, run⟩ := by
    simp only [step, used]
  rw [used, expand]
  simp only [close, Outcome.after, Except.map, List.append_nil, Outcome.finished]
  cases applied : job.finish.apply job.produced.reverse with
  | error failure =>
      rw [finish_stopped (by rw [stepped, finishTop]; simp only [applied]; rfl)]
      rfl
  | ok text =>
      cases below with
      | nil =>
          rw [finish_done (by rw [stepped, finishTop]; simp only [applied]; rfl)]
          rfl
      | cons parent others =>
          rw [finish_next (by rw [stepped, finishTop]; simp only [applied]; rfl)]
          rfl

theorem agrees_letter {letter : Letter} {rest : Text} (unread : job.rest = letter :: rest)
    (plain : ∀ tail, letter :: rest ≠ .of '{' :: .of '{' :: tail)
    (outer : Agrees processor (job.advanced [letter] rest 1)) : Agrees processor job := by
  intro below run
  have stepped : step processor ⟨job, below, run⟩ =
      .next ⟨job.advanced [letter] rest 1, below, run⟩ := by
    simp only [step, unread]
    split
    · contradiction
    · next tail same => exact absurd same (plain tail)
    · next same =>
        cases same
        rfl
  rw [finish_next stepped, outer, close_advanced, unread, expand]
  · rfl
  · intro tail first second
    exact plain tail (by rw [first, second])

section Opening

variable {tail : Text} {opening : Opening} {extent : Extent} {machine : Machine}
  {below : List Job} {run : Run}

/-- A job goes on after a tag once the text that takes its place is known. -/
theorem resume_advanced {outcome : Outcome} {rest : Text} {letters : Nat}
    (outer : ∀ output, Agrees processor (job.advanced output rest letters)) :
    resume processor (job.advanced [] rest letters :: below) outcome =
      close processor job below (outcome.andThen fun run =>
        expand processor job.site (job.position + letters) rest run) := by
  rcases outcome with ⟨result, run⟩
  cases result with
  | error stop => rfl
  | ok text =>
      change finish processor ⟨job.advanced text rest letters, below, run⟩ = _
      rw [outer, close_advanced]
      rfl

theorem finish_draw {primitive : Primitive}
    (stepped : step processor machine =
      draw processor ⟨job, below, run⟩ primitive extent tail)
    (outer : ∀ output,
      Agrees processor (job.advanced output (tail.drop extent.size) (extent.size + 2))) :
    finish processor machine =
      close processor job below
        ((Recursion.drawn processor job.site job.position primitive run).andThen fun run =>
          expand processor job.site (job.position + (extent.size + 2)) (tail.drop extent.size)
            run) := by
  simp only [draw] at stepped
  simp only [Recursion.drawn]
  cases rendered : processor.renderer primitive with
  | error fault =>
      cases fault <;> simp only [rendered] at stepped ⊢ <;> rw [finish_stopped stepped] <;> rfl
  | ok asset =>
      simp only [rendered] at stepped ⊢
      rw [finish_next stepped, outer, close_advanced]
      rfl

theorem finish_push {text : Text} {contentStarts : List Nat} {ending : Finish}
    (stepped : step processor machine =
      push processor ⟨job, below, run⟩ opening extent tail text contentStarts ending)
    (inner : ¬ processor.settings.maxExpansionDepth < job.depth + 1 →
      Agrees processor (job.child text extent opening.headStop contentStarts ending))
    (outer : ∀ output,
      Agrees processor (job.advanced output (tail.drop extent.size) (extent.size + 2))) :
    finish processor machine =
      close processor job below
        (Outcome.andThen
          (if processor.settings.maxExpansionDepth < job.site.depth + 1 then
            .stopped (Recursion.tooDeep processor job.site job.position) run
          else
            let site := job.site.child job.position extent opening.headStop contentStarts
            (expand processor site 0 text (Recursion.entered job.site opening run)).finished
              site ending)
          fun run => expand processor job.site (job.position + (extent.size + 2))
            (tail.drop extent.size) run) := by
  by_cases deep : processor.settings.maxExpansionDepth < job.site.depth + 1
  · have stopped := stepped.trans (show push .. = .stopped _ _ by rw [push]; exact if_pos deep)
    rw [finish_stopped stopped, if_pos deep]
    rfl
  · have pushed := stepped.trans (show push .. = .next _ by rw [push]; exact if_neg deep)
    rw [finish_next pushed, inner deep, if_neg deep]
    change resume processor (_ :: below) ((Outcome.after [] _).finished _ _) = _
    rw [Outcome.after_nil, resume_advanced outer]
    rfl

theorem finish_pushTemplate {text : Text} {contentStarts : List Nat} {ending : Finish}
    (stepped : step processor machine =
      pushTemplate processor ⟨job, below, run⟩ opening extent tail text contentStarts ending)
    (inner : ¬ processor.settings.maxExpansionDepth < job.depth + 1 →
      Agrees processor (job.child text extent opening.headStop contentStarts ending))
    (outer : ∀ output,
      Agrees processor (job.advanced output (tail.drop extent.size) (extent.size + 2))) :
    finish processor machine =
      close processor job below
        (Outcome.andThen
          (if processor.settings.maxExpansions < (Recursion.counted run).expansions then
            .stopped (Recursion.tooMany processor job.site job.position) (Recursion.counted run)
          else if processor.settings.maxExpansionDepth < job.site.depth + 1 then
            .stopped (Recursion.tooDeep processor job.site job.position) (Recursion.counted run)
          else
            let site := job.site.child job.position extent opening.headStop contentStarts
            (expand processor site 0 text
              (Recursion.entered job.site opening (Recursion.counted run))).finished site ending)
          fun run => expand processor job.site (job.position + (extent.size + 2))
            (tail.drop extent.size) run) := by
  by_cases many : processor.settings.maxExpansions < (Recursion.counted run).expansions
  · have stopped := stepped.trans
      (show pushTemplate .. = .stopped _ _ by rw [pushTemplate]; exact if_pos many)
    rw [finish_stopped stopped, if_pos many]
    rfl
  · have pushed := stepped.trans
      (show pushTemplate .. = push .. by rw [pushTemplate]; exact if_neg many)
    rw [if_neg many]
    exact finish_push pushed inner outer

end Opening

/-- A job whose next token is an opening head agrees if the text of the tag and the rest do. -/
theorem agrees_opening {tail : Text} {opening : Opening}
    (unread : job.rest = .of '{' :: .of '{' :: tail)
    (token : Token.read job.position (.of '{' :: .of '{' :: tail) = .ok (some (.opening opening)))
    (inner : ∀ text extent contentStarts ending,
      ¬ processor.settings.maxExpansionDepth < job.depth + 1 →
        Agrees processor (job.child text extent opening.headStop contentStarts ending))
    (outer : ∀ output size, Agrees processor (job.advanced output (tail.drop size) (size + 2))) :
    Agrees processor job := by
  intro below run
  let decision := Dispatch.decide processor opening tail
  let later := Recursion.decided job.site job.position opening decision run
  have stepped : step processor ⟨job, below, run⟩ =
      match decision.outcome with
      | .error stop => .stopped (job.stopped stop) later
      | .ok (extent, move) => act processor ⟨job, below, later⟩ opening extent tail move := by
    simp only [step, unread, token, handle]
    rfl
  rw [unread, expand]
  simp only [token]
  cases outcome : (Dispatch.decide processor opening tail).outcome with
  | error stop =>
      simp only [decision, outcome] at stepped ⊢
      rw [finish_stopped stepped, job.stopped_site]
      rfl
  | ok chosen =>
      obtain ⟨extent, move⟩ := chosen
      simp only [decision, outcome] at stepped ⊢
      have outer := fun output => outer output extent.size
      cases move with
      | write output =>
          rw [finish_next stepped, outer, close_advanced]
          rfl
      | draw primitive => exact finish_draw stepped outer
      | expandContent ending => exact finish_push stepped (inner _ _ _ _) outer
      | expandTemplate text contentStarts ending =>
          exact finish_pushTemplate stepped (inner _ _ _ _) outer

/-- Every job agrees. A text of a tag is less deep below the limit, and what follows a token is
shorter. -/
theorem agrees (processor : Processor) (job : Job) : Agrees processor job := by
  cases unread : job.rest with
  | nil => exact agrees_used unread
  | cons letter rest =>
      by_cases opens : ∃ tail, letter :: rest = .of '{' :: .of '{' :: tail
      · obtain ⟨tail, same⟩ := opens
        cases same
        cases token : Token.read job.position (.of '{' :: .of '{' :: tail) with
        | error failure =>
            intro below run
            rw [finish_stopped (by simp only [step, unread, token]; rfl), unread, expand]
            simp only [token]
            rfl
        | ok found =>
            match found with
            | none =>
                intro below run
                rw [finish_next (by simp only [step, unread, token]; rfl), agrees, close_advanced,
                  unread, expand]
                simp only [token]
                rfl
            | some (.closer closer) =>
                intro below run
                rw [finish_stopped (by simp only [step, unread, token]; rfl), unread, expand]
                simp only [token]
                rfl
            | some (.opening opening) =>
                exact agrees_opening unread token (fun _ _ _ _ shallow => agrees processor _)
                  (fun _ size => agrees processor _)
      · exact agrees_letter unread (fun tail same => opens ⟨tail, same⟩) (agrees processor _)
termination_by (processor.settings.maxExpansionDepth - job.depth, job.rest.length)
decreasing_by
  · exact Prod.Lex.right _ (by simp [Job.advanced, unread])
  · exact Prod.Lex.left _ _ (by simp only [Job.child]; omega)
  · exact Prod.Lex.right _ (by
      simp only [Job.advanced, unread, List.length_drop, List.length_cons]
      omega)
  · exact Prod.Lex.right _ (by simp [Job.advanced, unread])

/-- A stretch of the document is finished by keeping what the recursion makes of it. -/
theorem finish_stretch (processor : Processor) (text : Text) (base : Nat) (run : Run) :
    finish processor (ofDocument text base run) =
      (expand processor (Site.ofDocument text base) 0 text run).finished
        (Site.ofDocument text base) .keep := by
  rw [ofDocument, agrees processor]
  change resume processor [] ((Outcome.after [] _).finished _ _) = _
  rw [Outcome.after_nil, resume_nil]
  rfl

/-- The machine of waiting jobs and the recursion expand a stretch of the document alike: to the
same text, or to the same stop at the same offset, with the same files in the same order and the
same number of templates. All that the machine adds is the event of its first job. -/
theorem finish_ofDocument (processor : Processor) (text : Text) (base : Nat) (run : Run) :
    let expanded := expand processor (Site.ofDocument text base) 0 text run
    let outcome := finish processor (ofDocument text base run)
    outcome.result = expanded.result ∧ outcome.run.assets = expanded.run.assets ∧
      outcome.run.expansions = expanded.run.expansions ∧
      outcome = expanded.finished (Site.ofDocument text base) .keep := by
  intro expanded outcome
  have same : outcome = expanded.finished (Site.ofDocument text base) .keep :=
    finish_stretch processor text base run
  have kept : (expanded.finished (Site.ofDocument text base) .keep).result = expanded.result ∧
      (expanded.finished (Site.ofDocument text base) .keep).run.assets = expanded.run.assets ∧
      (expanded.finished (Site.ofDocument text base) .keep).run.expansions =
        expanded.run.expansions := by
    rcases expanded with ⟨result, run⟩
    cases result <;> exact ⟨rfl, rfl, rfl⟩
  rw [same]
  exact ⟨kept.1, kept.2.1, kept.2.2, rfl⟩

end Machine
end Flourish
