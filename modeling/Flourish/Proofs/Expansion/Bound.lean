/-
This file bounds what a run of the machine takes up. Main statements: the jobs that wait are as deep
as they stand on the stack, which is never higher than the limit of depth allows, and a run counts
just the templates that it begins.
-/

import Flourish.Proofs.Expansion.Job

namespace Flourish.Machine

variable {processor : Processor} {machine next : Machine} {opening : Opening} {extent : Extent}
  {tail : Text}

/-- The tag at which the job in hand stands is replaced by a template. -/
def CallsTemplate (processor : Processor) (machine : Machine) : Prop :=
  ∃ opening tail extent text starts ending, machine.top.AtTag opening tail ∧
    (Dispatch.decide processor opening tail).outcome =
      .ok (extent, .expandTemplate text starts ending)

/-- A tag that begins a job leaves the count as it is and stands above the limit of depth. -/
theorem push_spends {text : Text} {starts : List Nat} {ending : Finish}
    (pushed : push processor machine opening extent tail text starts ending = .next next) :
    next.run.expansions = machine.run.expansions ∧
      machine.top.depth < processor.settings.maxExpansionDepth := by
  refine ⟨(push_weight pushed).1, ?_⟩
  simp only [push] at pushed
  split at pushed
  · cases pushed
  · next shallow => omega

/-- A step that begins a template counts it. There was one left, and room for its job. -/
theorem step_template (calls : CallsTemplate processor machine)
    (stepped : step processor machine = .next next) :
    next.run.expansions = machine.run.expansions + 1 ∧
      machine.run.expansions < processor.settings.maxExpansions ∧
      machine.top.depth < processor.settings.maxExpansionDepth := by
  obtain ⟨opening, tail, extent, text, starts, ending, tag, decided⟩ := calls
  rw [step_atTag tag] at stepped
  simp only [handle, decided, act, pushTemplate] at stepped
  split at stepped
  · cases stepped
  · next few =>
      obtain ⟨counted, room⟩ := push_spends stepped
      exact ⟨counted, Nat.lt_of_succ_le (Nat.le_of_not_lt few), room⟩

/-- With no template left a step that would begin one exceeds the limit. -/
theorem step_template_stopped (calls : CallsTemplate processor machine)
    (full : processor.settings.maxExpansions ≤ machine.run.expansions) :
    ∃ run, step processor machine = .stopped (.failure (machine.top.placed
      (Cause.limitExceeded processor.settings.maxExpansions .count).unplaced)) run := by
  obtain ⟨opening, tail, extent, text, starts, ending, tag, decided⟩ := calls
  rw [step_atTag tag]
  simp only [handle, decided, act]
  rw [pushTemplate]
  exact ⟨_, if_pos (Nat.lt_succ_of_le full)⟩

/-- What a step does that begins no template: it leaves the count as it is, and adds a job to the
stack only above the limit of depth. -/
def Frugal (processor : Processor) (machine next : Machine) : Prop :=
  next.run.expansions = machine.run.expansions ∧
    (next.below.length ≤ machine.below.length ∨
      machine.top.depth < processor.settings.maxExpansionDepth)

theorem act_frugal {move : Move}
    (other : ∀ text starts ending, move ≠ .expandTemplate text starts ending)
    (acted : act processor machine opening extent tail move = .next next) :
    Frugal processor machine next := by
  cases move with
  | write text =>
      cases acted
      exact ⟨rfl, Or.inl (Nat.le_refl _)⟩
  | draw primitive =>
      simp only [act, draw] at acted
      split at acted
      · cases acted
      · cases acted
      · cases acted
        exact ⟨expansions_collect _ _, Or.inl (Nat.le_refl _)⟩
  | expandContent ending =>
      obtain ⟨same, room⟩ := push_spends acted
      exact ⟨same, Or.inr room⟩
  | expandTemplate text starts ending => exact absurd rfl (other text starts ending)

theorem step_frugal (calls : ¬ CallsTemplate processor machine)
    (stepped : step processor machine = .next next) : Frugal processor machine next := by
  simp only [step] at stepped
  split at stepped
  · simp only [finishTop] at stepped
    split at stepped
    · cases stepped
    · split at stepped
      · cases stepped
      · next waiting =>
          cases stepped
          exact ⟨rfl, Or.inl (by simp only [waiting, List.length_cons, Nat.le_add_right])⟩
  · next tail unread =>
      split at stepped
      · cases stepped
      · cases stepped
        exact ⟨rfl, Or.inl (Nat.le_refl _)⟩
      · cases stepped
      · next opening read =>
          simp only [handle] at stepped
          split at stepped
          · cases stepped
          · next extent move decided =>
              have other : ∀ text starts ending, move ≠ .expandTemplate text starts ending := by
                rintro text starts ending rfl
                exact calls ⟨opening, tail, extent, text, starts, ending, ⟨unread, read⟩, decided⟩
              have frugal : Frugal processor _ next := act_frugal other stepped
              exact frugal
  · cases stepped
    exact ⟨rfl, Or.inl (Nat.le_refl _)⟩

/-- A step adds a job to the stack only above the limit of depth. -/
theorem step_room (stepped : step processor machine = .next next) :
    next.below.length ≤ machine.below.length ∨
      machine.top.depth < processor.settings.maxExpansionDepth := by
  by_cases calls : CallsTemplate processor machine
  · exact Or.inr (step_template calls stepped).2.2
  · exact (step_frugal calls stepped).2

/-- A machine that is done has used up its last job, and counts no more than before. -/
theorem step_done {text : Text} {run : Run} (stepped : step processor machine = .done text run) :
    machine.top.rest = [] ∧ run.expansions = machine.run.expansions := by
  simp only [step] at stepped
  split at stepped
  · next used =>
      refine ⟨used, ?_⟩
      simp only [finishTop] at stepped
      split at stepped
      · cases stepped
      · split at stepped
        · cases stepped
          rfl
        · cases stepped
  · split at stepped
    · cases stepped
    · cases stepped
    · cases stepped
    · simp only [handle] at stepped
      split at stepped
      · cases stepped
      · next extent move decided =>
          cases move with
          | write text => cases stepped
          | draw primitive =>
              simp only [act, draw] at stepped
              split at stepped <;> cases stepped
          | expandContent ending =>
              simp only [act, push] at stepped
              split at stepped <;> cases stepped
          | expandTemplate text starts ending =>
              simp only [act, pushTemplate, push] at stepped
              split at stepped
              · cases stepped
              · split at stepped <;> cases stepped
  · cases stepped

/-- A run that comes to a text has not counted more templates than there may be. -/
theorem finish_within {text : Text}
    (begun : machine.run.expansions ≤ processor.settings.maxExpansions)
    (ended : (finish processor machine).result = .ok text) :
    (finish processor machine).run.expansions ≤ processor.settings.maxExpansions := by
  fun_induction finish processor machine with
  | case1 machine text run stepped =>
      rw [(step_done stepped).2]
      exact begun
  | case2 machine stop run stepped => cases ended
  | case3 machine next stepped _ inductionHypothesis =>
      refine inductionHypothesis ?_ ended
      by_cases calls : CallsTemplate processor machine
      · obtain ⟨counted, few, _⟩ := step_template calls stepped
        rw [counted]
        exact few
      · rw [(step_frugal calls stepped).1]
        exact begun

/-- Jobs that are as deep as there are jobs below them. -/
def Leveled : List Job → Prop
  | [] => True
  | job :: below => job.depth = below.length ∧ Leveled below

/-- The job at a place of the stack, counted from below, has that depth. -/
theorem Leveled.depth_eq {jobs : List Job} (leveled : Leveled jobs) {level : Nat} {job : Job}
    (found : jobs.reverse[level]? = some job) : job.depth = level := by
  induction jobs with
  | nil => cases found
  | cons first below inductionHypothesis =>
      obtain ⟨depth, leveled⟩ := leveled
      rw [List.reverse_cons] at found
      by_cases lower : level < below.reverse.length
      · rw [List.getElem?_append_left lower] at found
        exact inductionHypothesis leveled found
      · rw [List.getElem?_append_right (Nat.le_of_not_lt lower)] at found
        obtain ⟨within, rfl⟩ := List.getElem?_eq_some_iff.mp found
        simp only [List.length_reverse, List.length_singleton] at lower within
        rw [List.getElem_singleton, depth]
        omega

/-- A stack that is leveled and no higher than the limit of depth allows. -/
structure Shallow (processor : Processor) (machine : Machine) : Prop where
  leveled : Leveled machine.jobs
  height : machine.below.length ≤ processor.settings.maxExpansionDepth

theorem Shallow.step (shallow : Shallow processor machine)
    (stepped : step processor machine = .next next) : Shallow processor next := by
  obtain ⟨⟨depth, leveled⟩, height⟩ := shallow
  have room := step_room stepped
  cases step_progress stepped with
  | popped parent others output run used waiting =>
      rw [waiting] at leveled height
      exact ⟨leveled, Nat.le_of_succ_le height⟩
  | advanced output letters run fits => exact ⟨⟨depth, leveled⟩, height⟩
  | pushed opening tail extent text starts ending run tag sized inserted =>
      have higher : (machine.top.advanced [] (machine.top.rest.drop (extent.size + 2))
          (extent.size + 2) :: machine.below).length = machine.below.length + 1 := rfl
      refine ⟨⟨?_, depth, leveled⟩, ?_⟩
      · rw [higher, ← depth]
        rfl
      · simp only [higher] at room ⊢
        omega

end Flourish.Machine
