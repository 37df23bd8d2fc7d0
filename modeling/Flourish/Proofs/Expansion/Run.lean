/-
This file tells what a run of the machine depends on of the runs before it. Main statement: a run
that goes on after another one does what it does on its own, if there are templates left for both.
-/

import Flourish.Proofs.Expansion.Bound
import Flourish.Proofs.Expansion.Recursion

namespace Flourish

namespace FileAsset

/-- The paths of files. -/
def paths (assets : List FileAsset) : List Text :=
  assets.map FileAsset.path

/-- The files of one text and then those of another that have other paths. -/
def merged (first second : List FileAsset) : List FileAsset :=
  first ++ second.filter fun asset => asset.path ∉ paths first

/-- The first file of each path. -/
def distinct : List FileAsset → List FileAsset
  | [] => []
  | asset :: rest => asset :: (distinct rest).filter fun other => other.path ≠ asset.path

variable {first second third assets : List FileAsset} {asset : FileAsset} {path : Text}

theorem mem_paths_filter (assets : List FileAsset) (path : Text) (test : Text → Bool) :
    path ∈ paths (assets.filter fun asset => test asset.path) ↔
      path ∈ paths assets ∧ test path := by
  rw [paths, show (fun asset : FileAsset => test asset.path) = test ∘ FileAsset.path from rfl,
    ← List.filter_map, List.mem_filter, paths]

theorem mem_paths_merged :
    path ∈ paths (merged first second) ↔ path ∈ paths first ∨ path ∈ paths second := by
  have others := mem_paths_filter second path fun path => decide (path ∉ paths first)
  rw [merged, paths, List.map_append, List.mem_append, ← paths, ← paths, others]
  by_cases known : path ∈ paths first <;> simp [known]

theorem nodup_merged (apart : (paths first).Nodup) (others : (paths second).Nodup) :
    (paths (merged first second)).Nodup := by
  rw [merged, paths, List.map_append, ← paths, ← paths, List.nodup_append]
  refine ⟨apart, others.sublist (List.filter_sublist.map _), ?_⟩
  intro path known other member same
  rw [← same] at member
  have new := (mem_paths_filter second path fun path => decide (path ∉ paths first)).mp member
  exact absurd known (of_decide_eq_true new.2)

@[simp] theorem merged_nil (assets : List FileAsset) : merged assets [] = assets :=
  List.append_nil assets

@[simp] theorem nil_merged (assets : List FileAsset) : merged [] assets = assets := by
  simp [merged, paths]

theorem merged_assoc (first second third : List FileAsset) :
    merged (merged first second) third = merged first (merged second third) := by
  have both : ∀ asset : FileAsset, decide (asset.path ∉ paths (merged first second)) =
      (decide (asset.path ∉ paths first) && decide (asset.path ∉ paths second)) := by
    intro asset
    rw [← Bool.decide_and]
    apply decide_eq_decide.mpr
    rw [mem_paths_merged, not_or]
  rw [merged]
  simp only [both]
  rw [merged, merged, merged, List.filter_append, List.append_assoc, List.filter_filter]

/-- What is kept of two lists is what is kept of the first and then of the second. -/
theorem distinct_append (first second : List FileAsset) :
    distinct (first ++ second) = merged (distinct first) (distinct second) := by
  induction first with
  | nil => rw [List.nil_append, distinct, nil_merged]
  | cons asset rest inductionHypothesis =>
      have both : ∀ other : FileAsset, decide (other.path ∉ paths (distinct (asset :: rest))) =
          (decide (other.path ≠ asset.path) && decide (other.path ∉ paths (distinct rest))) := by
        intro other
        have later := mem_paths_filter (distinct rest) other.path
          fun path => decide (path ≠ asset.path)
        rw [← Bool.decide_and]
        apply decide_eq_decide.mpr
        rw [distinct, paths, List.map_cons, List.mem_cons, ← paths, later]
        by_cases same : other.path = asset.path <;> simp [same]
      rw [merged]
      simp only [both]
      rw [List.cons_append, distinct, distinct, inductionHypothesis, merged, List.filter_append,
        List.filter_filter, List.cons_append]

/-- Files of which no two have one path are all kept. -/
theorem distinct_eq_self (apart : (paths assets).Nodup) : distinct assets = assets := by
  induction assets with
  | nil => rfl
  | cons asset rest inductionHypothesis =>
      obtain ⟨new, apart⟩ := List.nodup_cons.mp apart
      rw [distinct, inductionHypothesis apart, List.filter_eq_self.mpr]
      intro other member
      refine decide_eq_true fun same => new ?_
      rw [← same]
      exact List.mem_map_of_mem member

end FileAsset

namespace Run

/-- What may become of a run: events are added, templates are counted and what the backend draws is
collected. -/
inductive Becomes (renderer : Renderer) (first : Run) : Run → Prop
  | same : Becomes renderer first first
  | told {run : Run} (events : List Event) (earlier : Becomes renderer first run) :
      Becomes renderer first { run with events := events ++ run.events }
  | counted {run : Run} (earlier : Becomes renderer first run) :
      Becomes renderer first { run with expansions := run.expansions + 1 }
  | collected {run : Run} {primitive : Primitive} {asset : Asset}
      (drawn : renderer primitive = .ok asset) (earlier : Becomes renderer first run) :
      Becomes renderer first (run.collect asset)

variable {renderer : Renderer} {first second third : Run}

theorem Becomes.trans (before : Becomes renderer first second)
    (after : Becomes renderer second third) : Becomes renderer first third := by
  induction after with
  | same => exact before
  | told events _ inductionHypothesis => exact inductionHypothesis.told events
  | counted _ inductionHypothesis => exact inductionHypothesis.counted
  | collected drawn _ inductionHypothesis => exact inductionHypothesis.collected drawn

theorem Becomes.log (earlier : Becomes renderer first second) (event : Event) :
    Becomes renderer first (second.log event) :=
  earlier.told [event]

theorem Becomes.expansions_le (becomes : Becomes renderer first second) :
    first.expansions ≤ second.expansions := by
  induction becomes with
  | same => exact Nat.le_refl _
  | told _ _ inductionHypothesis => exact inductionHypothesis
  | counted _ inductionHypothesis => exact Nat.le_succ_of_le inductionHypothesis
  | collected _ _ inductionHypothesis =>
      rw [Machine.expansions_collect]
      exact inductionHypothesis

/-- A file is collected as the only one of a text. -/
theorem collect_file (run : Run) (asset : FileAsset) :
    run.collect (.file asset) = { run with assets := FileAsset.merged run.assets [asset] } := by
  by_cases known : asset.path ∈ FileAsset.paths run.assets
  · have found : (run.assets.any fun known => known.path = asset.path) = true := by
      simpa [FileAsset.paths] using known
    simp [collect, found, FileAsset.merged, known]
  · have found : ¬ (run.assets.any fun known => known.path = asset.path) = true := by
      simpa [FileAsset.paths] using known
    simp [collect, found, FileAsset.merged, known]

/-- What has happened stays known. -/
theorem Becomes.mem_events (becomes : Becomes renderer first second) {event : Event}
    (member : event ∈ first.events) : event ∈ second.events := by
  induction becomes with
  | same => exact member
  | told _ _ inductionHypothesis => exact List.mem_append_right _ inductionHypothesis
  | counted _ inductionHypothesis => exact inductionHypothesis
  | @collected run _ asset _ _ inductionHypothesis =>
      cases asset with
      | markdown text => exact inductionHypothesis
      | file asset =>
          rw [collect_file]
          exact inductionHypothesis

/-- No two files of a run have one path. -/
theorem Becomes.nodup (becomes : Becomes renderer first second)
    (apart : (FileAsset.paths first.assets).Nodup) :
    (FileAsset.paths second.assets).Nodup := by
  induction becomes with
  | same => exact apart
  | told _ _ inductionHypothesis => exact inductionHypothesis
  | counted _ inductionHypothesis => exact inductionHypothesis
  | @collected run _ asset _ _ inductionHypothesis =>
      cases asset with
      | markdown text => exact inductionHypothesis
      | file asset =>
          rw [collect_file]
          exact FileAsset.nodup_merged inductionHypothesis (List.nodup_cons.mpr ⟨by simp, .nil⟩)

/-- The files of a run are those of the run before and files that the backend has drawn. -/
theorem Becomes.drawn (becomes : Becomes renderer first second) {asset : FileAsset}
    (member : asset ∈ second.assets) :
    asset ∈ first.assets ∨ ∃ primitive, renderer primitive = .ok (.file asset) := by
  induction becomes with
  | same => exact Or.inl member
  | told _ _ inductionHypothesis => exact inductionHypothesis member
  | counted _ inductionHypothesis => exact inductionHypothesis member
  | @collected run primitive found drawn _ inductionHypothesis =>
      cases found with
      | markdown text => exact inductionHypothesis member
      | file new =>
          rw [collect_file] at member
          obtain known | added := List.mem_append.mp member
          · exact inductionHypothesis known
          · rw [List.mem_singleton.mp (List.mem_filter.mp added).1]
            exact Or.inr ⟨primitive, drawn⟩

/-- The run that goes on after another one as a run does from the start. -/
def continued (earlier own : Run) : Run :=
  ⟨FileAsset.merged earlier.assets own.assets, earlier.expansions + own.expansions,
    own.events ++ earlier.events⟩

@[simp] theorem continued_start (earlier : Run) : earlier.continued start = earlier := by
  simp [continued, start]

theorem continued_collect (earlier own : Run) (asset : Asset) :
    earlier.continued (own.collect asset) = (earlier.continued own).collect asset := by
  cases asset with
  | markdown text => rfl
  | file asset =>
      rw [collect_file, collect_file]
      simp only [continued, FileAsset.merged_assoc]

end Run

/-- The run that a step leads to. -/
def Step.run : Step → Run
  | .next machine => machine.run
  | .done _ run => run
  | .stopped _ run => run

namespace Machine

variable {processor : Processor} {machine next : Machine} {opening : Opening} {extent : Extent}
  {tail : Text}

theorem push_becomes {first : Run} {text : Text} {starts : List Nat} {ending : Finish}
    (earlier : first.Becomes processor.renderer machine.run) :
    first.Becomes processor.renderer
      (push processor machine opening extent tail text starts ending).run := by
  simp only [push]
  split
  · exact earlier
  · exact earlier.log _

theorem act_becomes (processor : Processor) (machine : Machine) (opening : Opening)
    (extent : Extent) (tail : Text) (move : Move) :
    machine.run.Becomes processor.renderer (act processor machine opening extent tail move).run := by
  cases move with
  | write text => exact .same
  | draw primitive =>
      simp only [act, draw]
      split
      · exact Run.Becomes.same.log _
      · exact Run.Becomes.same.log _
      · next asset drawn => exact .collected drawn (Run.Becomes.same.log _)
  | expandContent ending => exact push_becomes .same
  | expandTemplate text starts ending =>
      simp only [act, pushTemplate]
      split
      · exact .counted .same
      · exact push_becomes (.counted .same)

/-- A step does nothing to the run but what may become of a run. -/
theorem step_becomes (processor : Processor) (machine : Machine) :
    machine.run.Becomes processor.renderer (step processor machine).run := by
  simp only [step]
  split
  · simp only [finishTop]
    split
    · exact .same
    · split <;> exact Run.Becomes.same.log _
  · split
    · exact .same
    · exact .same
    · exact .same
    · next tail _ _ opening _ =>
      simp only [handle]
      split
      · exact (Run.Becomes.same.log _).told _
      · next extent move _ =>
          let dispatched := machine.run.log
            (.dispatched opening.tag.displayName (machine.top.offsetOf machine.top.position))
          let run := { dispatched with
            events := (Dispatch.decide processor opening tail).events.reverse ++ dispatched.events }
          have logged : machine.run.Becomes processor.renderer run := (Run.Becomes.same.log _).told _
          exact logged.trans
            (act_becomes processor { machine with run := run } opening extent tail move)
  · exact .same

theorem step_finish_becomes (processor : Processor) (machine : Machine) :
    (step processor machine).run.Becomes processor.renderer (finish processor machine).run := by
  fun_induction finish processor machine with
  | case1 machine text run stepped => rw [stepped]; exact .same
  | case2 machine stop run stepped => rw [stepped]; exact .same
  | case3 machine next stepped _ inductionHypothesis =>
      rw [stepped]
      exact (step_becomes processor next).trans inductionHypothesis

theorem finish_becomes (processor : Processor) (machine : Machine) :
    machine.run.Becomes processor.renderer (finish processor machine).run :=
  (step_becomes processor machine).trans (step_finish_becomes processor machine)

/-- The state with the same jobs in a run that goes on after another one. -/
def continued (earlier : Run) (machine : Machine) : Machine :=
  { machine with run := earlier.continued machine.run }

end Machine

/-- The step in a run that goes on after another one. -/
def Step.continued (earlier : Run) : Step → Step
  | .next machine => .next (machine.continued earlier)
  | .done text run => .done text (earlier.continued run)
  | .stopped stop run => .stopped stop (earlier.continued run)

/-- Two steps to runs that have counted more templates than there may be, the first of them after
those of an earlier run. -/
def Step.Overdrawn (processor : Processor) (earlier : Run) (own later : Step) : Prop :=
  processor.settings.maxExpansions < earlier.expansions + own.run.expansions ∧
    processor.settings.maxExpansions < later.run.expansions

namespace Machine

variable {processor : Processor} {machine next : Machine} {opening : Opening} {extent : Extent}
  {tail : Text} {earlier : Run}

theorem push_continued {text : Text} {starts : List Nat} {ending : Finish} :
    push processor (machine.continued earlier) opening extent tail text starts ending =
      (push processor machine opening extent tail text starts ending).continued earlier := by
  have same : (machine.continued earlier).top = machine.top := rfl
  simp only [push, same]
  split <;> rfl

theorem draw_continued {primitive : Primitive} :
    draw processor (machine.continued earlier) primitive extent tail =
      (draw processor machine primitive extent tail).continued earlier := by
  cases drawn : processor.renderer primitive with
  | error fault => cases fault <;> simp only [draw, drawn] <;> rfl
  | ok asset =>
      simp only [draw, drawn, Step.continued, continued, Run.continued_collect]
      rfl

theorem pushTemplate_continued {text : Text} {starts : List Nat} {ending : Finish} :
    pushTemplate processor (machine.continued earlier) opening extent tail text starts ending =
        (pushTemplate processor machine opening extent tail text starts ending).continued earlier ∨
      Step.Overdrawn processor earlier
        (pushTemplate processor machine opening extent tail text starts ending)
        (pushTemplate processor (machine.continued earlier) opening extent tail text starts
          ending) := by
  let counted (machine : Machine) : Machine :=
    { machine with run := { machine.run with expansions := machine.run.expansions + 1 } }
  have counts (machine : Machine) : machine.run.expansions + 1 ≤
      (pushTemplate processor machine opening extent tail text starts ending).run.expansions := by
    simp only [pushTemplate]
    split
    · exact Nat.le_refl _
    · have pushed : (counted machine).run.Becomes processor.renderer
          (push processor (counted machine) opening extent tail text starts ending).run :=
        push_becomes .same
      exact pushed.expansions_le
  by_cases full : processor.settings.maxExpansions <
      earlier.expansions + machine.run.expansions + 1
  · right
    have own := counts machine
    have later := counts (machine.continued earlier)
    have both : (machine.continued earlier).run.expansions =
        earlier.expansions + machine.run.expansions := rfl
    exact ⟨by omega, by omega⟩
  · left
    have few : ¬ processor.settings.maxExpansions < machine.run.expansions + 1 := by omega
    have begun : pushTemplate processor machine opening extent tail text starts ending =
        push processor (counted machine) opening extent tail text starts ending := by
      rw [pushTemplate]
      exact if_neg few
    have later : pushTemplate processor (machine.continued earlier) opening extent tail text
        starts ending =
          push processor ((counted machine).continued earlier) opening extent tail text starts
            ending := by
      rw [pushTemplate]
      exact if_neg full
    rw [begun, later, push_continued]

theorem act_continued (processor : Processor) (earlier : Run) (machine : Machine)
    (opening : Opening) (extent : Extent) (tail : Text) (move : Move) :
    act processor (machine.continued earlier) opening extent tail move =
        (act processor machine opening extent tail move).continued earlier ∨
      Step.Overdrawn processor earlier (act processor machine opening extent tail move)
        (act processor (machine.continued earlier) opening extent tail move) := by
  cases move with
  | write text => exact Or.inl rfl
  | draw primitive => exact Or.inl draw_continued
  | expandContent ending => exact Or.inl push_continued
  | expandTemplate text starts ending => exact pushTemplate_continued

theorem handle_continued :
    handle processor (machine.continued earlier) opening tail =
        (handle processor machine opening tail).continued earlier ∨
      Step.Overdrawn processor earlier (handle processor machine opening tail)
        (handle processor (machine.continued earlier) opening tail) := by
  let told (run : Run) : Run :=
    let dispatched := run.log
      (.dispatched opening.tag.displayName (machine.top.offsetOf machine.top.position))
    { dispatched with
      events := (Dispatch.decide processor opening tail).events.reverse ++ dispatched.events }
  have both : told (earlier.continued machine.run) = earlier.continued (told machine.run) := by
    simp only [told, Run.log, Run.continued, List.append_assoc, List.cons_append]
  have begun : Machine.continued earlier { machine with run := told machine.run } =
      { machine.continued earlier with run := told (earlier.continued machine.run) } := by
    rw [both]
    rfl
  cases decided : (Dispatch.decide processor opening tail).outcome with
  | error stop =>
      left
      simp only [handle, decided]
      exact congrArg _ both
  | ok decision =>
      have acted := act_continued processor earlier { machine with run := told machine.run }
        opening decision.1 tail decision.2
      rw [begun] at acted
      simp only [handle, decided]
      exact acted

/-- A step in a run that goes on after another one is the step of the run on its own, if there are
templates left for both. -/
theorem step_continued (processor : Processor) (earlier : Run) (machine : Machine) :
    step processor (machine.continued earlier) = (step processor machine).continued earlier ∨
      Step.Overdrawn processor earlier (step processor machine)
        (step processor (machine.continued earlier)) := by
  have same : (machine.continued earlier).top = machine.top := rfl
  simp only [step, same]
  split
  · left
    cases applied : machine.top.finish.apply machine.top.produced.reverse with
    | error failure => simp only [finishTop, same, applied]; rfl
    | ok text =>
        have waiting : (machine.continued earlier).below = machine.below := rfl
        simp only [finishTop, same, applied, waiting]
        split <;> rfl
  · split
    · exact Or.inl rfl
    · exact Or.inl rfl
    · exact Or.inl rfl
    · exact handle_continued
  · exact Or.inl rfl

/-- A step in a run that goes on after another one is the step of the run on its own, if there are
templates left for both up to their ends, counted either way. -/
theorem step_continued_of_few
    (few : earlier.expansions + (finish processor machine).run.expansions ≤
        processor.settings.maxExpansions ∨
      (finish processor (machine.continued earlier)).run.expansions ≤
        processor.settings.maxExpansions) :
    step processor (machine.continued earlier) = (step processor machine).continued earlier := by
  apply (step_continued processor earlier machine).resolve_right
  -- Runs that have counted too many templates count no fewer of them later on.
  rintro ⟨own, later⟩
  have ownEnd := (step_finish_becomes processor machine).expansions_le
  have laterEnd := (step_finish_becomes processor (machine.continued earlier)).expansions_le
  omega

/-- A run that goes on after another one does what it does on its own, if there are templates left
for both, counted either way. -/
theorem finish_continued
    (few : earlier.expansions + (finish processor machine).run.expansions ≤
        processor.settings.maxExpansions ∨
      (finish processor (machine.continued earlier)).run.expansions ≤
        processor.settings.maxExpansions) :
    finish processor (machine.continued earlier) =
      ⟨(finish processor machine).result,
        earlier.continued (finish processor machine).run⟩ := by
  have stepped := step_continued_of_few few
  fun_induction finish processor machine with
  | case1 machine text run ended =>
      rw [ended] at stepped
      exact finish_done stepped
  | case2 machine stop run ended =>
      rw [ended] at stepped
      exact finish_stopped stepped
  | case3 machine next led _ inductionHypothesis =>
      rw [led] at stepped
      rw [finish_next stepped] at few ⊢
      exact inductionHypothesis few (step_continued_of_few few)

end Machine
end Flourish
