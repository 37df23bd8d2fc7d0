/-
This file says what one step of the machine can do. Main statements: a step uses a job up, passes
some letters or begins the job of a tag, and a step that fails places its failure in the top job.
-/

import Mathlib.Logic.Relation
import Flourish.Expansion.Machine
import Flourish.Proofs.Expansion.Decision

namespace Flourish

/-- A processor that knows the frame `f` and draws nothing. -/
def Processor.framing : Processor where
  registry := ⟨[], [⟨"f", [], [.inline], .absent, ⟨"<", ">"⟩⟩], [], [], [], [], [], [], []⟩
  palette := ⟨[], []⟩
  settings := Settings.standard
  renderer := fun _ => .error (.refused (Cause.stated "not drawn").unplaced)
  context := Context.block

/-- The backend of the processor does not know where a drawing stands in the document. -/
def Processor.Plain (processor : Processor) : Prop :=
  ∀ primitive failure, processor.renderer primitive = .error (.refused failure) →
    failure.offset = none

/-- The job stands at the head of a tag, after whose two braces comes `tail`. -/
structure Job.AtTag (job : Job) (opening : Opening) (tail : Text) : Prop where
  unread : job.rest = .of '{' :: .of '{' :: tail
  read : Token.read job.position (.of '{' :: .of '{' :: tail) = .ok (some (.opening opening))

namespace Machine

variable {processor : Processor} {machine next : Machine} {opening : Opening} {tail : Text}
  {extent : Extent}

/-- The states to which steps lead. -/
def Reaches (processor : Processor) : Machine → Machine → Prop :=
  Relation.ReflTransGen fun machine next => step processor machine = .next next

theorem step_atTag (tag : machine.top.AtTag opening tail) :
    step processor machine = handle processor machine opening tail := by
  simp only [step, tag.unread, tag.read]

/-- The ways in which a step leads to a next state. -/
inductive Progress (processor : Processor) (machine : Machine) : Machine → Prop
  | popped (parent : Job) (others : List Job) (output : Text) (run : Run)
      (used : machine.top.rest = []) (waiting : machine.below = parent :: others) :
      Progress processor machine ⟨{ parent with produced := output }, others, run⟩
  | advanced (output : Text) (letters : Nat) (run : Run)
      (fits : letters ≤ machine.top.rest.length) :
      Progress processor machine
        ⟨machine.top.advanced output (machine.top.rest.drop letters) letters, machine.below, run⟩
  | pushed (opening : Opening) (tail : Text) (extent : Extent) (text : Text) (starts : List Nat)
      (finish : Finish) (run : Run) (tag : machine.top.AtTag opening tail)
      (sized : Dispatch.extent opening tail = .ok extent)
      (inserted : Inserted (extent.contentIn tail) text starts) :
      Progress processor machine
        ⟨machine.top.child text extent opening.headStop starts finish,
          machine.top.advanced [] (machine.top.rest.drop (extent.size + 2)) (extent.size + 2) ::
            machine.below, run⟩

theorem push_next {text : Text} {starts : List Nat} {ending : Finish}
    (pushed : push processor machine opening extent tail text starts ending = .next next) :
    ∃ run, next = ⟨machine.top.child text extent opening.headStop starts ending,
      machine.top.advanced [] (tail.drop extent.size) (extent.size + 2) :: machine.below,
      run⟩ := by
  simp only [push] at pushed
  split at pushed
  · cases pushed
  · cases pushed
    exact ⟨_, rfl⟩

/-- A tag with a text of its own begins a job for it. -/
theorem act_opened {move : Move} {text : Text} {starts : List Nat}
    (opened : move.opened? (extent.contentIn tail) = some (text, starts))
    (acted : act processor machine opening extent tail move = .next next) :
    ∃ ending run, next = ⟨machine.top.child text extent opening.headStop starts ending,
      machine.top.advanced [] (tail.drop extent.size) (extent.size + 2) :: machine.below,
      run⟩ := by
  cases move with
  | write output => cases opened
  | draw primitive => cases opened
  | expandContent ending =>
      cases opened
      exact ⟨ending, push_next acted⟩
  | expandTemplate text starts ending =>
      cases opened
      simp only [act, pushTemplate] at acted
      split at acted
      · cases acted
      · obtain ⟨run, same⟩ := push_next acted
        exact ⟨ending, run, same⟩

/-- A tag without a text of its own is passed. -/
theorem act_passed {move : Move} (unopened : move.opened? (extent.contentIn tail) = none)
    (acted : act processor machine opening extent tail move = .next next) :
    ∃ output run, next = ⟨machine.top.advanced output (tail.drop extent.size) (extent.size + 2),
      machine.below, run⟩ := by
  cases move with
  | write output =>
      cases acted
      exact ⟨output, machine.run, rfl⟩
  | draw primitive =>
      simp only [act, draw] at acted
      split at acted
      · cases acted
      · cases acted
      · cases acted
        exact ⟨_, _, rfl⟩
  | expandContent ending => cases unopened
  | expandTemplate text starts ending => cases unopened

theorem handle_progress (tag : machine.top.AtTag opening tail)
    (handled : handle processor machine opening tail = .next next) :
    Progress processor machine next := by
  have sound := Dispatch.decide_sound processor opening tail
  simp only [handle] at handled
  split at handled
  · cases handled
  · next extent move decided =>
      simp only [Decision.Sound, decided] at sound
      obtain ⟨sized, inserted⟩ := sound
      have fits := (Dispatch.extent_fits tag.read sized).size_le
      have behind : tail.drop extent.size = machine.top.rest.drop (extent.size + 2) := by
        rw [tag.unread]
        rfl
      cases opened : move.opened? (extent.contentIn tail) with
      | none =>
          obtain ⟨output, run, rfl⟩ := act_passed opened handled
          simp only [behind]
          refine .advanced output _ run ?_
          simp only [tag.unread, List.length_cons]
          omega
      | some content =>
          obtain ⟨ending, run, rfl⟩ := act_opened opened handled
          simp only [behind]
          exact .pushed opening tail extent _ _ ending run tag sized (inserted _ _ opened)

/-- This theorem lists all that a step to a next state can have done. -/
theorem step_progress (stepped : step processor machine = .next next) :
    Progress processor machine next := by
  simp only [step] at stepped
  split at stepped
  · next used =>
      simp only [finishTop] at stepped
      split at stepped
      · cases stepped
      · split at stepped
        · cases stepped
        · next waiting =>
            cases stepped
            exact .popped _ _ _ _ used waiting
  · next tail unread =>
      split at stepped
      · cases stepped
      · cases stepped
        exact (congrArg (Progress processor machine ·) (by simp [unread])).mp
          (.advanced [.of '{'] 1 machine.run (by simp [unread]))
      · cases stepped
      · next opening read => exact handle_progress ⟨unread, read⟩ stepped
  · next letter rest _ unread =>
      cases stepped
      exact (congrArg (Progress processor machine ·) (by simp [unread])).mp
        (.advanced [letter] 1 machine.run (by simp [unread]))

/-- The failures of a token that a job stands at, which are not placed in the document yet. -/
inductive Raised (processor : Processor) (job : Job) : Failure → Prop
  | malformed (tail : Text) (failure : Failure) (unread : job.rest = .of '{' :: .of '{' :: tail)
      (read : Token.read job.position (.of '{' :: .of '{' :: tail) = .error failure) :
      Raised processor job failure
  | closer (tail : Text) (closer : Closer) (unread : job.rest = .of '{' :: .of '{' :: tail)
      (read : Token.read job.position (.of '{' :: .of '{' :: tail) = .ok (some (.closer closer))) :
      Raised processor job (Cause.mismatchedCloser none closer.name).unplaced
  | decided (opening : Opening) (tail : Text) (failure : Failure) (tag : job.AtTag opening tail)
      (outcome : (Dispatch.decide processor opening tail).outcome = .error (.failure failure)) :
      Raised processor job failure
  | refused (opening : Opening) (tail : Text) (primitive : Primitive) (failure : Failure)
      (tag : job.AtTag opening tail)
      (drawn : processor.renderer primitive = .error (.refused failure)) :
      Raised processor job failure
  | broken (opening : Opening) (tail : Text) (primitive : Primitive) (kind message : Text)
      (tag : job.AtTag opening tail)
      (drawn : processor.renderer primitive = .error (.broken kind message)) :
      Raised processor job (Cause.rendererFailed kind message).unplaced
  | exhausted (opening : Opening) (tail : Text) (limit : Nat) (measure : Measure)
      (tag : job.AtTag opening tail) :
      Raised processor job (Cause.limitExceeded limit measure).unplaced

theorem act_stopped {move : Move} {stop : Stop} {run : Run}
    (acted : act processor machine opening extent tail move = .stopped stop run)
    (tag : machine.top.AtTag opening tail) :
    ∃ raised, Raised processor machine.top raised ∧
      stop = .failure (machine.top.placed raised) := by
  cases move with
  | write output => cases acted
  | draw primitive =>
      simp only [act, draw] at acted
      split at acted
      · next refused drawn =>
          cases acted
          exact ⟨refused, .refused opening tail primitive refused tag drawn, rfl⟩
      · next drawn =>
          cases acted
          exact ⟨_, .broken opening tail primitive _ _ tag drawn, rfl⟩
      · cases acted
  | expandContent ending =>
      simp only [act, push] at acted
      split at acted <;> cases acted
      exact ⟨_, .exhausted opening tail _ _ tag, rfl⟩
  | expandTemplate text starts ending =>
      simp only [act, pushTemplate, push] at acted
      split at acted
      · cases acted
        exact ⟨_, .exhausted opening tail _ _ tag, rfl⟩
      · split at acted <;> cases acted
        exact ⟨_, .exhausted opening tail _ _ tag, rfl⟩

/-- A step fails where the tag of the top job stands if that is used up, and else at a token of
the top job. -/
theorem step_stopped {failure : Failure} {run : Run}
    (stepped : step processor machine = .stopped (.failure failure) run) :
    (machine.top.rest = [] ∧ ∃ error, machine.top.finish.apply machine.top.produced.reverse =
      .error error ∧ failure.offset = some machine.top.origin ∧ failure.cause = error.cause) ∨
    ∃ raised, Raised processor machine.top raised ∧ failure = machine.top.placed raised := by
  simp only [step] at stepped
  split at stepped
  · next used =>
      left
      simp only [finishTop] at stepped
      split at stepped
      · next error applied =>
          cases stepped
          exact ⟨used, error, applied, rfl, rfl⟩
      · split at stepped <;> cases stepped
  · next tail unread =>
      right
      split at stepped
      · next malformed read =>
          cases stepped
          exact ⟨malformed, .malformed tail malformed unread read, rfl⟩
      · cases stepped
      · next closer read =>
          cases stepped
          exact ⟨_, .closer tail closer unread read, rfl⟩
      · next opening read =>
          have tag : machine.top.AtTag opening tail := ⟨unread, read⟩
          simp only [handle] at stepped
          split at stepped
          · next stop decided =>
              simp only [Step.stopped.injEq] at stepped
              cases stop with
              | defect defect => simp [Job.stopped] at stepped
              | failure raised =>
                  exact ⟨raised, .decided opening tail raised tag decided,
                    (Stop.failure.inj stepped.1).symm⟩
          · obtain ⟨raised, found, same⟩ := act_stopped stepped tag
            exact ⟨raised, found, Stop.failure.inj same⟩
  · cases stepped

theorem Raised.braces {job : Job} {raised : Failure} (found : Raised processor job raised) :
    [.of '{', .of '{'] <+: job.rest := by
  cases found with
  | malformed tail failure unread read => exact ⟨tail, unread.symm⟩
  | closer tail closer unread read => exact ⟨tail, unread.symm⟩
  | decided opening tail failure tag outcome => exact ⟨tail, tag.unread.symm⟩
  | refused opening tail primitive failure tag drawn => exact ⟨tail, tag.unread.symm⟩
  | broken opening tail primitive kind message tag drawn => exact ⟨tail, tag.unread.symm⟩
  | exhausted opening tail limit measure tag => exact ⟨tail, tag.unread.symm⟩

/-- A failure of a token stands at two braces behind the place of the job. If the end of the tag is
known it stands at the tag. -/
theorem Raised.place {job : Job} {raised : Failure} (found : Raised processor job raised)
    (plain : processor.Plain) :
    ∃ ahead : Nat, raised.offset.getD job.position = ((job.position + ahead : Nat) : Int) ∧
      [.of '{', .of '{'] <+: job.rest.drop ahead ∧
      ∀ opening tail extent, job.AtTag opening tail →
        Dispatch.extent opening tail = .ok extent → ahead = 0 := by
  have here : [.of '{', .of '{'] <+: job.rest.drop 0 := found.braces
  cases found with
  | malformed tail failure unread read =>
      refine ⟨0, ?_, here, fun _ _ _ _ _ => rfl⟩
      rw [(Token.read_error read).1]
      rfl
  | closer tail closer unread read => exact ⟨0, rfl, here, fun _ _ _ _ _ => rfl⟩
  | decided opening tail failure tag outcome =>
      have sound := Dispatch.decide_sound processor opening tail
      simp only [Decision.Sound, outcome] at sound
      rcases sound with unplaced | ⟨_, same, unsized⟩
      · refine ⟨0, ?_, here, fun _ _ _ _ _ => rfl⟩
        rw [show raised.offset = none from unplaced]
        rfl
      · cases same
        obtain ⟨ahead, placed, braces⟩ := Dispatch.extent_error tag.read unsized
        refine ⟨ahead, by rw [placed]; rfl, by rw [tag.unread]; exact braces, ?_⟩
        intro other rest extent otherTag sized
        cases tag.unread.symm.trans otherTag.unread
        cases tag.read.symm.trans otherTag.read
        cases unsized.symm.trans sized
  | refused opening tail primitive failure tag drawn =>
      refine ⟨0, ?_, here, fun _ _ _ _ _ => rfl⟩
      rw [plain primitive raised drawn]
      rfl
  | broken opening tail primitive kind message tag drawn =>
      exact ⟨0, rfl, here, fun _ _ _ _ _ => rfl⟩
  | exhausted opening tail limit measure tag =>
      exact ⟨0, rfl, here, fun _ _ _ _ _ => rfl⟩

/-- A run that fails reaches a state in which a step does. -/
theorem stopped_of_finish_error {stop : Stop}
    (failed : (finish processor machine).result = .error stop) :
    ∃ last run, Reaches processor machine last ∧ step processor last = .stopped stop run := by
  fun_induction finish processor machine with
  | case1 machine text run stepped => cases failed
  | case2 machine found run stepped =>
      cases failed
      exact ⟨machine, run, .refl, stepped⟩
  | case3 machine next stepped _ inductionHypothesis =>
      obtain ⟨last, run, reached, stopped⟩ := inductionHypothesis failed
      exact ⟨last, run, .head stepped reached, stopped⟩

end Machine
end Flourish
