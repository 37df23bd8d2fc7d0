/-
This file follows the expansion of a document from span to span and from step to step. Main
statement: the expansion of every document ends, with no more jobs and templates on the way than the
limits allow.
-/

import Flourish.Processor.Run
import Flourish.Proofs.Expansion.Bound
import Flourish.Proofs.Expansion.Recursion

namespace Flourish

/-- Where the expansion of a document stands: before its next span, or in a state of the machine.
The spans that are done come newest first, and the text is what is left behind the span in hand. -/
inductive Stage where
  | between (done : List Text) (spans : List Span) (text : Text) (run : Run)
  | within (machine : Machine) (done : List Text) (spans : List Span) (text : Text)

namespace Stage

open Machine (Leveled Shallow CallsTemplate)

/-- Before the first span of a document. -/
def ofDocument (processor : Processor) (document : Text) : Stage :=
  let spans := Span.scan processor.settings.codeMarks document
  .between [] spans document (Run.start.log (.scanned document.length spans.length))

/-- Code is copied, and so is text that opens no tag. -/
def Copied (span : Span) (text : Text) : Prop :=
  span.kind = .code ∨ Text.firstIndex [.of '{', .of '{'] text = none

/-- One move of the expansion of a document: a span is copied, the machine begins with a span, takes
a step, or is done with its span. -/
inductive Leads (processor : Processor) : Stage → Stage → Prop
  | copied {done : List Text} {span : Span} {rest : List Span} {text : Text} {run : Run}
      (plain : Copied span (text.take span.length)) :
      Leads processor (.between done (span :: rest) text run)
        (.between (text.take span.length :: done) rest (text.drop span.length) run)
  | opened {done : List Text} {span : Span} {rest : List Span} {text : Text} {run : Run}
      (read : ¬ Copied span (text.take span.length)) :
      Leads processor (.between done (span :: rest) text run)
        (.within (Machine.ofDocument (text.take span.length) span.start run) done rest
          (text.drop span.length))
  | stepped {machine next : Machine} {done : List Text} {spans : List Span} {text : Text}
      (stepped : Machine.step processor machine = .next next) :
      Leads processor (.within machine done spans text) (.within next done spans text)
  | closed {machine : Machine} {done : List Text} {spans : List Span} {text piece : Text}
      {run : Run} (stepped : Machine.step processor machine = .done piece run) :
      Leads processor (.within machine done spans text) (.between (piece :: done) spans text run)

/-- The expansion goes no further: all spans are done, or a step stops it. -/
inductive Ends (processor : Processor) : Stage → Except Stop Output → Prop
  | output {done : List Text} {text : Text} {run : Run} :
      Ends processor (.between done [] text run) (.ok ⟨done.reverse.flatten, run.assets⟩)
  | stopped {machine : Machine} {done : List Text} {spans : List Span} {text : Text}
      {stop : Stop} {run : Run} (stepped : Machine.step processor machine = .stopped stop run) :
      Ends processor (.within machine done spans text) (.error stop)

/-- The next move begins a template, if there is one left. -/
def BeginsTemplate (processor : Processor) : Stage → Prop
  | .between .. => False
  | .within machine .. => CallsTemplate processor machine

/-- The expansion of a document passes a stage, after it began this number of templates. -/
inductive Passes (processor : Processor) (document : Text) : Nat → Stage → Prop
  | begun : Passes processor document 0 (ofDocument processor document)
  | template {count : Nat} {stage next : Stage} (earlier : Passes processor document count stage)
      (begins : BeginsTemplate processor stage) (leads : Leads processor stage next) :
      Passes processor document (count + 1) next
  | other {count : Nat} {stage next : Stage} (earlier : Passes processor document count stage)
      (begins : ¬ BeginsTemplate processor stage) (leads : Leads processor stage next) :
      Passes processor document count next

variable {processor : Processor} {document : Text} {stage next : Stage} {count : Nat}

/-- The spans that are left, whether the machine is at work, and what that has left to do. -/
def rank (processor : Processor) : Stage → Nat × Nat × Nat
  | .between _ spans _ _ => (2 * spans.length, 0, 0)
  | .within machine _ spans _ =>
      (2 * spans.length + 1, processor.settings.maxExpansions - machine.run.expansions,
        machine.weight)

/-- No expansion of a document goes on forever. -/
theorem leads_wellFounded (processor : Processor) :
    WellFounded fun next stage => Leads processor stage next := by
  have lower : WellFounded (InvImage (Prod.Lex (· < ·) (Prod.Lex (· < ·) (· < ·)))
      (rank processor)) :=
    InvImage.wf _ (Prod.lex Nat.lt_wfRel (Prod.lex Nat.lt_wfRel Nat.lt_wfRel)).wf
  refine Subrelation.wf ?_ lower
  intro next stage leads
  cases leads with
  | copied plain =>
      apply Prod.Lex.left
      simp only [List.length_cons]
      omega
  | opened read =>
      apply Prod.Lex.left
      simp only [List.length_cons]
      omega
  | stepped stepped =>
      apply Prod.Lex.right
      rcases Machine.step_lower stepped with fewer | ⟨same, less⟩
      · exact Prod.Lex.left _ _ fewer
      · rw [same]
        exact Prod.Lex.right _ less
  | closed stepped => exact Prod.Lex.left _ _ (Nat.lt_succ_self _)

/-- What the expansion of a document comes to from a stage on. -/
def answer (processor : Processor) : Stage → Except Stop (List Text) × Run
  | .between done spans text run => processor.expandSpans done spans text run
  | .within machine done spans text =>
      let outcome := Machine.finish processor machine
      match outcome.result with
      | .error stop => (.error stop, outcome.run)
      | .ok piece => processor.expandSpans (piece :: done) spans text outcome.run

theorem expandSpan_copied {span : Span} {text : Text} (plain : Copied span text) (run : Run) :
    processor.expandSpan span text run = ⟨.ok text, run⟩ := by
  have copied : (span.kind = .code || (Text.firstIndex [.of '{', .of '{'] text).isNone) = true := by
    simpa [Copied] using plain
  rw [Processor.expandSpan, if_pos copied]

theorem expandSpan_read {span : Span} {text : Text} (read : ¬ Copied span text) (run : Run) :
    processor.expandSpan span text run =
      Machine.finish processor (Machine.ofDocument text span.start run) := by
  have copied : ¬ (span.kind = .code || (Text.firstIndex [.of '{', .of '{'] text).isNone) = true := by
    simpa [Copied] using read
  rw [Processor.expandSpan, if_neg copied]

/-- A move changes nothing about what the expansion comes to. -/
theorem answer_of_leads (leads : Leads processor stage next) :
    answer processor next = answer processor stage := by
  cases leads with
  | copied plain => simp only [answer, Processor.expandSpans, expandSpan_copied plain]
  | @opened done span rest text run read =>
      cases ended : (Machine.finish processor (Machine.ofDocument (text.take span.length) span.start
          run)).result <;>
        simp only [answer, Processor.expandSpans, expandSpan_read read, ended]
  | stepped stepped => simp only [answer, Machine.finish_next stepped]
  | closed stepped => simp only [answer, Machine.finish_done stepped]

theorem answer_of_passes (passes : Passes processor document count stage) :
    answer processor stage = answer processor (ofDocument processor document) := by
  induction passes with
  | begun => rfl
  | template _ _ leads inductionHypothesis => rw [answer_of_leads leads, inductionHypothesis]
  | other _ _ leads inductionHypothesis => rw [answer_of_leads leads, inductionHypothesis]

/-- A document is processed to what its expansion comes to. -/
theorem process_answer (processor : Processor) (document : Text) :
    (processor.process document).result =
      let (result, run) := answer processor (ofDocument processor document)
      result.map fun pieces => ⟨pieces.reverse.flatten, run.assets⟩ := by
  simp only [Processor.process, answer, ofDocument]
  split <;>
    next same =>
      simp only [same]
      rfl

/-- A stage leads on, or the expansion ends there with what the document is processed to. -/
theorem leads_or_ends (passes : Passes processor document count stage) :
    (∃ next, Leads processor stage next) ∨
      Ends processor stage (processor.process document).result := by
  have same := answer_of_passes passes
  rw [process_answer, ← same]
  cases stage with
  | between done spans text run =>
      cases spans with
      | nil => exact Or.inr .output
      | cons span rest =>
          left
          by_cases plain : Copied span (text.take span.length)
          · exact ⟨_, .copied plain⟩
          · exact ⟨_, .opened plain⟩
  | within machine done spans text =>
      cases stepped : Machine.step processor machine with
      | next later => exact Or.inl ⟨_, .stepped stepped⟩
      | done piece run => exact Or.inl ⟨_, .closed stepped⟩
      | stopped stop run =>
          right
          simp only [answer, Machine.finish_stopped stepped]
          exact .stopped stepped

theorem passes_next (passes : Passes processor document count stage)
    (leads : Leads processor stage next) : ∃ later, Passes processor document later next := by
  by_cases begins : BeginsTemplate processor stage
  · exact ⟨_, .template passes begins leads⟩
  · exact ⟨_, .other passes begins leads⟩

/-- From every stage the expansion comes to its end. -/
theorem ends_of_passes (passes : Passes processor document count stage) :
    ∃ total last, Passes processor document total last ∧
      Ends processor last (processor.process document).result := by
  induction stage using (leads_wellFounded processor).induction generalizing count with
  | _ stage inductionHypothesis =>
      rcases leads_or_ends passes with ⟨next, leads⟩ | ends
      · obtain ⟨later, passes⟩ := passes_next passes leads
        exact inductionHypothesis next leads passes
      · exact ⟨count, stage, passes, ends⟩

/-- The number of templates that the run of a stage has counted. -/
def counted : Stage → Nat
  | .between _ _ _ run => run.expansions
  | .within machine _ _ _ => machine.run.expansions

/-- The stack of a stage is leveled and no higher than the limit of depth allows. -/
def Bounded (processor : Processor) : Stage → Prop
  | .between .. => True
  | .within machine .. => Shallow processor machine

theorem Bounded.leads (bounded : stage.Bounded processor) (leads : Leads processor stage next) :
    next.Bounded processor := by
  cases leads with
  | copied plain => trivial
  | opened read => exact ⟨⟨rfl, trivial⟩, Nat.zero_le _⟩
  | stepped stepped => exact Shallow.step bounded stepped
  | closed stepped => trivial

theorem bounded_of_passes (passes : Passes processor document count stage) :
    stage.Bounded processor := by
  induction passes with
  | begun => trivial
  | template _ _ leads inductionHypothesis => exact inductionHypothesis.leads leads
  | other _ _ leads inductionHypothesis => exact inductionHypothesis.leads leads

/-- A move that begins a template counts it, and there was one left. -/
theorem counted_template (begins : BeginsTemplate processor stage)
    (leads : Leads processor stage next) :
    next.counted = stage.counted + 1 ∧ stage.counted < processor.settings.maxExpansions := by
  cases leads with
  | copied plain => exact begins.elim
  | opened read => exact begins.elim
  | stepped stepped =>
      obtain ⟨more, left, _⟩ := Machine.step_template begins stepped
      exact ⟨more, left⟩
  | closed stepped =>
      obtain ⟨_, _, _, _, _, _, tag, _⟩ := begins
      cases tag.unread.symm.trans (Machine.step_done stepped).1

/-- A move that begins no template leaves their count as it is. -/
theorem counted_other (begins : ¬ BeginsTemplate processor stage)
    (leads : Leads processor stage next) : next.counted = stage.counted := by
  cases leads with
  | copied plain => rfl
  | opened read => rfl
  | stepped stepped => exact (Machine.step_frugal begins stepped).1
  | closed stepped => exact (Machine.step_done stepped).2

/-- The run of a stage has counted the templates that were begun before it. -/
theorem counted_of_passes (passes : Passes processor document count stage) :
    stage.counted = count := by
  induction passes with
  | begun => rfl
  | template _ begins leads inductionHypothesis =>
      rw [(counted_template begins leads).1, inductionHypothesis]
  | other _ begins leads inductionHypothesis =>
      rw [counted_other begins leads, inductionHypothesis]

theorem count_le_of_passes (passes : Passes processor document count stage) :
    count ≤ processor.settings.maxExpansions := by
  induction passes with
  | begun => exact Nat.zero_le _
  | template earlier begins leads _ =>
      have left := (counted_template begins leads).2
      rw [counted_of_passes earlier] at left
      exact left
  | other _ _ _ inductionHypothesis => exact inductionHypothesis

/-- The expansion of every document ends, with an output or with a stop. At no time have more
templates begun than their limit allows, and one more exceeds the limit. At no time are there more
jobs than the limit of depth allows besides that of the document, and each is as deep as its place on
the stack. -/
theorem ends_within_limits (processor : Processor) (document : Text) :
    WellFounded (fun next stage => Leads processor stage next) ∧
    (∃ total last, Passes processor document total last ∧
      Ends processor last (processor.process document).result) ∧
    ∀ count stage, Passes processor document count stage →
      count ≤ processor.settings.maxExpansions ∧
      ∀ machine done spans text, stage = .within machine done spans text →
        machine.jobs.length ≤ processor.settings.maxExpansionDepth + 1 ∧
        (∀ (level : Nat) (job : Job), machine.jobs.reverse[level]? = some job →
          job.depth = level) ∧
        (CallsTemplate processor machine → count = processor.settings.maxExpansions →
          ∃ run, Machine.step processor machine = .stopped (.failure (machine.top.placed
            (Cause.limitExceeded processor.settings.maxExpansions .count).unplaced)) run) := by
  refine ⟨leads_wellFounded processor, ends_of_passes .begun, ?_⟩
  intro count stage passes
  refine ⟨count_le_of_passes passes, ?_⟩
  intro machine done spans text same
  subst same
  obtain ⟨leveled, height⟩ := bounded_of_passes passes
  refine ⟨Nat.succ_le_succ height, fun level job => leveled.depth_eq, ?_⟩
  intro calls full
  apply Machine.step_template_stopped calls
  rw [← full, ← counted_of_passes passes]
  exact Nat.le_refl _

end Stage
end Flourish
