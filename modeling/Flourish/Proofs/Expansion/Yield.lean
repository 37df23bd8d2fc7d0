/-
This file says what the spans of a document come to, each in a run of its own. Main statement: a
document comes to what its spans come to one after another, if there are templates left for all.
-/

import Flourish.Proofs.Expansion.Run
import Flourish.Proofs.Expansion.Stage
import Flourish.Proofs.Expansion.Tree
import Flourish.Proofs.Expansion.Unfold
import Flourish.Proofs.Span.Scan
import Mathlib.Algebra.GroupWithZero.Nat

namespace Flourish

/-- What an expansion comes to: the text or why there is none, the files, and the number of
templates. -/
@[ext]
structure Yield where
  result : Except Stop Text
  assets : List FileAsset
  expansions : Nat

namespace Yield

/-- The yield of text that is copied. -/
def copied (text : Text) : Yield :=
  ⟨.ok text, [], 0⟩

/-- One yield and then another, unless the first is a stop. -/
def andThen (first second : Yield) : Yield :=
  match first.result with
  | .error _ => first
  | .ok text =>
      ⟨second.result.map (text ++ ·), FileAsset.merged first.assets second.assets,
        first.expansions + second.expansions⟩

/-- Yields one after another up to the first stop. -/
def total (yields : List Yield) : Yield :=
  yields.foldr andThen (copied [])

variable {first second third yield : Yield} {text : Text} {stop : Stop}

theorem andThen_ok (ended : first.result = .ok text) :
    first.andThen second =
      ⟨second.result.map (text ++ ·), FileAsset.merged first.assets second.assets,
        first.expansions + second.expansions⟩ := by
  simp only [andThen, ended]

theorem andThen_error (ended : first.result = .error stop) : first.andThen second = first := by
  simp only [andThen, ended]

theorem expansions_le_andThen (first second : Yield) :
    first.expansions ≤ (first.andThen second).expansions := by
  unfold andThen
  split
  · exact Nat.le_refl _
  · exact Nat.le_add_right _ _

theorem andThen_assoc (first second third : Yield) :
    (first.andThen second).andThen third = first.andThen (second.andThen third) := by
  cases begun : first.result with
  | error stop => rw [andThen_error begun, andThen_error begun, andThen_error begun]
  | ok before =>
      rw [andThen_ok begun, andThen_ok begun]
      cases ended : second.result with
      | error stop =>
          have stopped : second.andThen third = second := andThen_error ended
          rw [stopped]
          simp only [andThen, ended, Except.map]
      | ok text =>
          have joined : second.andThen third = _ := andThen_ok ended
          rw [joined]
          simp only [andThen, Except.map, FileAsset.merged_assoc, Nat.add_assoc]
          cases third.result <;> simp only [List.append_assoc]

theorem result_map_nil (yield : Yield) :
    yield.result.map (([] : Text) ++ ·) = yield.result := by
  cases yield.result <;> rfl

@[simp] theorem copied_nil_andThen (yield : Yield) : (copied []).andThen yield = yield := by
  rcases yield with ⟨result, assets, expansions⟩
  cases result <;> simp [andThen, copied, Except.map]

@[simp] theorem andThen_copied_nil (yield : Yield) : yield.andThen (copied []) = yield := by
  rcases yield with ⟨result, assets, expansions⟩
  cases result <;> simp [andThen, copied, Except.map]

@[simp] theorem copied_andThen_copied (before after : Text) :
    (copied before).andThen (copied after) = copied (before ++ after) := by
  simp [andThen, copied, Except.map]

@[simp] theorem total_nil : total [] = copied [] :=
  rfl

@[simp] theorem total_cons (yield : Yield) (rest : List Yield) :
    total (yield :: rest) = yield.andThen (total rest) :=
  rfl

theorem total_append (before after : List Yield) :
    total (before ++ after) = (total before).andThen (total after) := by
  induction before with
  | nil => rw [List.nil_append, total_nil, copied_nil_andThen]
  | cons yield rest inductionHypothesis =>
      rw [List.cons_append, total_cons, inductionHypothesis, total_cons, andThen_assoc]

/-- Yields that are no stops come to all their texts, to the first file of each path, and to the
sum of their templates. -/
theorem total_ok {Item : Type} {items : List Item} {yieldOf : Item → Yield} {own : Item → Text}
    (ended : ∀ item ∈ items, (yieldOf item).result = .ok (own item))
    (apart : ∀ item ∈ items, (FileAsset.paths (yieldOf item).assets).Nodup) :
    total (items.map yieldOf) =
      ⟨.ok (items.flatMap own),
        FileAsset.distinct (items.flatMap fun item => (yieldOf item).assets),
        (items.map fun item => (yieldOf item).expansions).sum⟩ := by
  induction items with
  | nil => rfl
  | cons item rest inductionHypothesis =>
      obtain ⟨first, others⟩ := List.forall_mem_cons.mp ended
      obtain ⟨firstApart, othersApart⟩ := List.forall_mem_cons.mp apart
      rw [List.map_cons, total_cons, andThen_ok first, inductionHypothesis others othersApart,
        List.flatMap_cons, List.flatMap_cons, List.map_cons, List.sum_cons,
        FileAsset.distinct_append, FileAsset.distinct_eq_self firstApart]
      rfl

theorem expansions_total {yields : List Yield}
    (ended : ∀ yield ∈ yields, ∃ text, yield.result = .ok text) :
    (total yields).expansions = (yields.map Yield.expansions).sum := by
  induction yields with
  | nil => rfl
  | cons first rest inductionHypothesis =>
      obtain ⟨⟨text, begun⟩, others⟩ := List.forall_mem_cons.mp ended
      rw [total_cons, andThen_ok begun, inductionHypothesis others, List.map_cons, List.sum_cons]

/-- If two yields one after the other come to a text then so does each of them. -/
theorem ok_of_andThen (ended : (first.andThen second).result = .ok text) :
    (∃ before, first.result = .ok before) ∧ ∃ after, second.result = .ok after := by
  cases begun : first.result with
  | error stop =>
      rw [andThen_error begun, begun] at ended
      cases ended
  | ok before =>
      rw [andThen_ok begun] at ended
      obtain ⟨after, ended, _⟩ := exists_of_map_ok ended
      exact ⟨⟨before, rfl⟩, after, ended⟩

/-- No yield of a total that comes to a text is a stop. -/
theorem ok_of_total_ok {yields : List Yield} (ended : (total yields).result = .ok text) :
    ∀ yield ∈ yields, ∃ own, yield.result = .ok own := by
  induction yields generalizing text with
  | nil =>
      intro yield member
      cases member
  | cons first rest inductionHypothesis =>
      rw [total_cons] at ended
      obtain ⟨begun, after, later⟩ := ok_of_andThen ended
      exact List.forall_mem_cons.mpr ⟨begun, inductionHypothesis later⟩

/-- The first of some yields that is a stop stops them all. -/
theorem total_error {Item : Type} {before : List Item} {item : Item} (after : List Item)
    (yieldOf : Item → Yield)
    (ended : ∀ earlier ∈ before, ∃ text, (yieldOf earlier).result = .ok text)
    (failed : (yieldOf item).result = .error stop) :
    (total ((before ++ item :: after).map yieldOf)).result = .error stop ∧
      (total ((before ++ item :: after).map yieldOf)).expansions =
        ((before ++ [item]).map fun item => (yieldOf item).expansions).sum := by
  induction before with
  | nil =>
      rw [List.nil_append, List.map_cons, total_cons, andThen_error failed]
      exact ⟨failed, by simp⟩
  | cons earlier rest inductionHypothesis =>
      obtain ⟨⟨text, first⟩, others⟩ := List.forall_mem_cons.mp ended
      obtain ⟨stopped, counted⟩ := inductionHypothesis others
      rw [List.cons_append, List.map_cons, total_cons, andThen_ok first, List.cons_append,
        List.map_cons, List.sum_cons, ← counted, stopped]
      exact ⟨rfl, rfl⟩

end Yield

/-- The yield of a run that has come to a text. -/
def Run.yield (run : Run) (text : Text) : Yield :=
  ⟨.ok text, run.assets, run.expansions⟩

theorem Run.yield_andThen (run : Run) (text : Text) (next : Yield) :
    (run.yield text).andThen next = ⟨next.result.map (text ++ ·),
      FileAsset.merged run.assets next.assets, run.expansions + next.expansions⟩ :=
  rfl

/-- The text of a run may be copied before it. -/
theorem Yield.copied_andThen_run (before : Text) (between : Text) (run : Run) (next : Yield) :
    (copied before).andThen ((copied between).andThen ((run.yield []).andThen next)) =
      (run.yield before).andThen ((copied between).andThen next) := by
  rcases next with ⟨result, assets, expansions⟩
  cases result <;> simp [andThen, copied, Run.yield, Except.map]

namespace Machine.Outcome

def yield (outcome : Outcome) : Yield :=
  ⟨outcome.result, outcome.run.assets, outcome.run.expansions⟩

theorem yield_after (text : Text) (outcome : Outcome) :
    (outcome.after text).yield = (Yield.copied text).andThen outcome.yield := by
  rcases outcome with ⟨result, run⟩
  cases result <;> simp [after, yield, Yield.andThen, Yield.copied, Except.map]

/-- A run that goes on after another one comes to what it comes to on its own behind that. -/
theorem yield_continued (run : Run) (outcome : Outcome) :
    yield ⟨outcome.result, run.continued outcome.run⟩ = (run.yield []).andThen outcome.yield := by
  rcases outcome with ⟨result, own⟩
  cases result <;> rfl

end Machine.Outcome

/-- Keeping an expanded text changes nothing about what it comes to. -/
theorem Machine.Outcome.yield_finished_keep (site : Site) (outcome : Outcome) :
    (outcome.finished site .keep).yield = outcome.yield := by
  rcases outcome with ⟨result, run⟩
  cases result <;> rfl

theorem Machine.yield_finish (processor : Processor) (text : Text) (base : Nat) (run : Run) :
    (finish processor (ofDocument text base run)).yield =
      (Recursion.expand processor (Site.ofDocument text base) 0 text run).yield := by
  rw [finish_stretch, Outcome.yield_finished_keep]

/-- What expanded spans come to. -/
def Yield.ofSpans (expanded : Except Stop (List Text) × Run) : Yield :=
  ⟨expanded.1.map fun pieces => pieces.reverse.flatten, expanded.2.assets,
    expanded.2.expansions⟩

namespace Processor

variable {processor : Processor} {document text : Text} {span : Span} {run : Run}

/-- The expansion of a span of a document in a run of its own. -/
def alone (processor : Processor) (document : Text) (span : Span) : Machine.Outcome :=
  Machine.finish processor (Machine.ofDocument (span.textIn document) span.start Run.start)

/-- What a span of a document comes to on its own. Code is copied. -/
def spanYield (processor : Processor) (document : Text) (span : Span) : Yield :=
  if span.kind = .code then .copied (span.textIn document)
  else (processor.alone document span).yield

/-- What the spans of a document come to on their own, one after another. -/
def spansYield (processor : Processor) (document : Text) : Yield :=
  .total ((Span.scan processor.settings.codeMarks document).map (processor.spanYield document))

/-- What a document comes to. -/
def yield (processor : Processor) (document : Text) : Yield :=
  let spans := Span.scan processor.settings.codeMarks document
  .ofSpans (processor.expandSpans [] spans document
    (Run.start.log (.scanned document.length spans.length)))

theorem process_yield (processor : Processor) (document : Text) :
    (processor.process document).result =
      (processor.yield document).result.map fun text =>
        ⟨text, (processor.yield document).assets⟩ := by
  simp only [process, yield, Yield.ofSpans]
  split <;>
    next same =>
      simp only [same]
      rfl

/-- A document that is one literal span comes to what the recursion makes of it. -/
theorem yield_literal (scanned : Span.scan processor.settings.codeMarks document =
      [⟨.literal, 0, document.length⟩]) :
    processor.yield document =
      (Recursion.expand processor (Site.ofDocument document 0) 0 document
        (Run.start.log (.scanned document.length 1))).yield := by
  let start := Run.start.log (.scanned document.length 1)
  have whole : document.take (Span.length ⟨.literal, 0, document.length⟩) = document :=
    List.take_length
  have span : (processor.expandSpan ⟨.literal, 0, document.length⟩ document start).yield =
      (Recursion.expand processor (Site.ofDocument document 0) 0 document start).yield := by
    by_cases plain : Stage.Copied ⟨.literal, 0, document.length⟩ document
    · rw [Stage.expandSpan_copied plain,
        Recursion.expand_plain (plain.resolve_left SpanKind.noConfusion)]
    · rw [Stage.expandSpan_read plain, Machine.yield_finish]
  simp only [yield, scanned, expandSpans, List.length_singleton, whole]
  rw [← span]
  generalize processor.expandSpan _ _ _ = outcome
  rcases outcome with ⟨result, run⟩
  cases result with
  | error stop => rfl
  | ok text => simp [Yield.ofSpans, Machine.Outcome.yield, Except.map]

/-- A row of trees comes to what it stands for, if it is not nested too deep and holds not too many
components. -/
theorem yield_render {meaning : Meaning} {forest : Forest} (wellFormed : forest.WellFormed)
    (resolved : forest.Resolved processor meaning)
    (scanned : Span.scan processor.settings.codeMarks forest.render =
      [⟨.literal, 0, forest.render.length⟩])
    (shallow : forest.height ≤ processor.settings.maxExpansionDepth)
    (few : forest.components ≤ processor.settings.maxExpansions) :
    (processor.yield forest.render).result = (forest.eval meaning).mapError .defect ∧
      (processor.yield forest.render).assets = [] ∧
      (processor.yield forest.render).expansions ≤ forest.components := by
  obtain ⟨result, counted, assets⟩ := (Forest.expands_render wellFormed resolved).whole
    (Site.ofDocument forest.render 0) (Run.start.log (.scanned forest.render.length 1))
    (by rwa [show (Site.ofDocument forest.render 0).depth = 0 from rfl, Nat.zero_add])
    (by rwa [show (Run.start.log (.scanned forest.render.length 1)).expansions = 0 from rfl,
      Nat.zero_add])
  rw [yield_literal scanned]
  exact ⟨result, assets, Nat.le_trans counted (Nat.le_of_eq (Nat.zero_add _))⟩

/-- A letter in the frame of the processor that knows just one. -/
def framed (letter : Letter) : Forest :=
  .frame "f" (.text [letter] .nil) .nil

theorem framed_wellFormed {letter : Letter} (plain : letter ≠ '{') : (framed letter).WellFormed :=
  ⟨by decide, trivial, ⟨by simpa using plain.symm, trivial⟩, trivial⟩

/-- Text that opens no tag comes to itself. -/
theorem yield_finish_plain (plain : Text.firstIndex [.of '{', .of '{'] text = none) (base : Nat) :
    (Machine.finish processor (Machine.ofDocument text base Run.start)).yield = .copied text := by
  rw [Machine.finish_stretch, Recursion.expand_plain plain]
  rfl

/-- A stretch of a document comes to what it comes to in a run of its own, if there are templates
left for it, counted either way. -/
theorem yield_finish_continued {base : Nat}
    (few : run.expansions + (Machine.finish processor
          (Machine.ofDocument text base Run.start)).run.expansions ≤
        processor.settings.maxExpansions ∨
      (Machine.finish processor (Machine.ofDocument text base run)).run.expansions ≤
        processor.settings.maxExpansions) :
    (Machine.finish processor (Machine.ofDocument text base run)).yield =
      (run.yield []).andThen
        (Machine.finish processor (Machine.ofDocument text base Run.start)).yield := by
  have begun : Machine.ofDocument text base run =
      (Machine.ofDocument text base Run.start).continued run := by
    rw [Machine.continued, Machine.ofDocument, Machine.ofDocument, Run.continued_start]
  rw [begun] at few ⊢
  rw [Machine.finish_continued few]
  exact Machine.Outcome.yield_continued run _

/-- A span comes to what it comes to on its own, if there are templates left for it, counted either
way. -/
theorem yield_expandSpan
    (few : run.expansions + (processor.spanYield document span).expansions ≤
        processor.settings.maxExpansions ∨
      (processor.expandSpan span (span.textIn document) run).run.expansions ≤
        processor.settings.maxExpansions) :
    (processor.expandSpan span (span.textIn document) run).yield =
      (run.yield []).andThen (processor.spanYield document span) := by
  by_cases plain : Stage.Copied span (span.textIn document)
  · have own : processor.spanYield document span = .copied (span.textIn document) := by
      rw [spanYield]
      split
      · rfl
      · next literal =>
          exact yield_finish_plain (plain.resolve_left literal) span.start
    rw [Stage.expandSpan_copied plain, own]
    simp [Yield.andThen, Run.yield, Yield.copied, Machine.Outcome.yield, Except.map]
  · have literal : span.kind ≠ .code := fun code => plain (Or.inl code)
    rw [Stage.expandSpan_read plain] at few ⊢
    rw [spanYield, if_neg literal] at few ⊢
    exact yield_finish_continued few

theorem expandSpan_expansions_le (processor : Processor) (span : Span) (text : Text) (run : Run) :
    run.expansions ≤ (processor.expandSpan span text run).run.expansions := by
  unfold expandSpan
  split
  · exact Nat.le_refl _
  · exact (Machine.finish_becomes processor (Machine.ofDocument text span.start run)).expansions_le

theorem expandSpans_expansions_le (processor : Processor) (done : List Text) (spans : List Span)
    (text : Text) (run : Run) :
    run.expansions ≤ (processor.expandSpans done spans text run).2.expansions := by
  induction spans generalizing done text run with
  | nil => exact Nat.le_refl _
  | cons span rest inductionHypothesis =>
      have first := processor.expandSpan_expansions_le span (text.take span.length) run
      simp only [expandSpans]
      split
      · exact first
      · exact Nat.le_trans first (inductionHypothesis _ _ _)

/-- Spans that follow one another come to what they come to on their own, one after another. -/
theorem yield_expandSpans (processor : Processor) (document : Text) (done : List Text) (run : Run)
    {position : Nat} {spans : List Span} (follow : Span.Follow position spans)
    (few : run.expansions + (Yield.total (spans.map (processor.spanYield document))).expansions ≤
        processor.settings.maxExpansions ∨
      (processor.expandSpans done spans (document.drop position) run).2.expansions ≤
        processor.settings.maxExpansions) :
    Yield.ofSpans (processor.expandSpans done spans (document.drop position) run) =
      (run.yield done.reverse.flatten).andThen
        (Yield.total (spans.map (processor.spanYield document))) := by
  induction spans generalizing done position run with
  | nil => exact (Yield.andThen_copied_nil _).symm
  | cons span rest inductionHypothesis =>
      obtain ⟨begins, ordered, follow⟩ := follow
      have here : (document.drop position).take span.length = span.textIn document := by
        rw [← begins, Span.textIn, Text.slice_eq_take, Span.length]
      have behind : (document.drop position).drop span.length = document.drop span.stop := by
        rw [List.drop_drop, ← begins, Span.length, Nat.add_sub_cancel' ordered]
      rw [List.map_cons, Yield.total_cons] at few ⊢
      simp only [expandSpans, here, behind] at few ⊢
      let outcome := processor.expandSpan span (span.textIn document) run
      have own : outcome.yield = (run.yield []).andThen (processor.spanYield document span) := by
        refine yield_expandSpan (few.imp (fun few => ?_) fun few => ?_)
        · exact Nat.le_trans (Nat.add_le_add_left
            (Yield.expansions_le_andThen (processor.spanYield document span) _) _) few
        · refine Nat.le_trans ?_ few
          split
          · exact Nat.le_refl _
          · exact processor.expandSpans_expansions_le _ _ _ _
      have result : outcome.result = (processor.spanYield document span).result :=
        (congrArg Yield.result own).trans (Yield.result_map_nil _)
      have after : outcome.run.expansions =
          run.expansions + (processor.spanYield document span).expansions :=
        congrArg Yield.expansions own
      cases ended : (processor.spanYield document span).result with
      | error stop =>
          rw [ended] at result
          have stopped : Yield.ofSpans (.error stop, outcome.run) =
              ⟨.error stop, outcome.yield.assets, outcome.yield.expansions⟩ := rfl
          simp only [outcome] at result stopped own
          rw [Yield.andThen_error ended]
          simp only [result, stopped, own, Run.yield_andThen, ended, Except.map]
      | ok text =>
          rw [ended] at result
          rw [Yield.andThen_ok ended] at few
          simp only [outcome] at result after own
          simp only [result] at few ⊢
          rw [inductionHypothesis _ _ follow (by rwa [after, Nat.add_assoc]), ← Yield.andThen_assoc]
          congr 1
          have files := congrArg Yield.assets own
          simp only [Run.yield_andThen, Machine.Outcome.yield] at files
          rw [Run.yield_andThen, ended, Run.yield, files, after, List.reverse_cons,
            List.flatten_append, List.flatten_singleton]
          rfl

/-- A document comes to what its spans come to, if there are templates left for all of them, counted
either way. -/
theorem yield_eq_spansYield
    (few : (processor.spansYield document).expansions ≤ processor.settings.maxExpansions ∨
      (processor.yield document).expansions ≤ processor.settings.maxExpansions) :
    processor.yield document = processor.spansYield document := by
  let spans := Span.scan processor.settings.codeMarks document
  let start := Run.start.log (.scanned document.length spans.length)
  have none : start.expansions = 0 := rfl
  have total := yield_expandSpans processor document [] start
    (Span.scan_follow processor.settings.codeMarks document)
    (few.imp_left fun few => by rw [none, Nat.zero_add]; exact few)
  rw [List.drop_zero] at total
  exact total.trans (Yield.copied_nil_andThen _)

/-- A processor whose backend refuses every drawing and says where, in letters of the literal text
that is being read. -/
def pointing (place : Nat) : Processor :=
  { framing with renderer := fun _ => .error (.refused ((Cause.stated "no").placed place)) }

/-- The head of a tag that is drawn. -/
def blackHead : Head :=
  ⟨some .shields, "block", ["color=000000"], true⟩

/-- A tag that cannot be drawn stops the expansion. -/
theorem expand_blackHead (place : Nat) (site : Site) (position : Nat) (run : Run) :
    ∃ ending, Recursion.expand (pointing place) site position blackHead.written run =
        .stopped (site.placed position (.failure ((Cause.stated "no").placed place))) ending ∧
      ending.assets = run.assets ∧ ending.expansions = run.expansions := by
  let opening : Opening := ⟨blackHead.tag, position, position + 31⟩
  let tail := blackHead.written.drop 2
  have read : Token.read position blackHead.written = .ok (some (.opening opening)) :=
    Token.read_opening_iff.mpr ⟨blackHead, by decide, List.prefix_refl _, rfl⟩
  have closed : blackHead.tag.selfClosing = true := rfl
  have sized : Dispatch.extent opening tail = .ok ⟨29, none⟩ := by
    have size : position + 31 - position - 2 = 29 := by omega
    simp only [Dispatch.extent, opening, closed, if_true, size]
  have built : Shield.build (pointing place).registry (pointing place).palette blackHead.tag =
      .ok (.swatch "000000" [] none) := by with_unfolding_all rfl
  have decision : (Dispatch.decide (pointing place) opening tail).outcome =
      .ok (⟨29, none⟩, .draw (.swatch "000000" [] none)) := by
    have kind : blackHead.tag.kind = .shields := rfl
    simp only [Dispatch.decide, opening, kind, Dispatch.shield, closed, if_true, built]
    rw [sized]
    rfl
  have begins : blackHead.written = .of '{' :: .of '{' :: tail := rfl
  rw [begins] at read ⊢
  rw [Recursion.expand_tag read decision]
  generalize Dispatch.decide (pointing place) opening tail = decision
  exact ⟨_, rfl, rfl, rfl⟩

/-- A place that a backend names is taken as one in the whole text, wherever the tag stands in it. -/
theorem yield_blackHead {front : Text} {place : Nat} (plain : .of '{' ∉ front)
    (scanned : Span.scan (pointing place).settings.codeMarks (front ++ blackHead.written) =
      [⟨.literal, 0, (front ++ blackHead.written).length⟩])
    (within : place < (front ++ blackHead.written).length) :
    (pointing place).yield (front ++ blackHead.written) =
      ⟨.error (.failure ((Cause.stated "no").placed place)), [], 0⟩ := by
  have offset : (Site.ofDocument (front ++ blackHead.written) 0).offsetOf place = place := by
    have covered : (place : Int) < front.length + blackHead.written.length := by
      rw [List.length_append] at within
      omega
    simp [Site.offsetOf, Site.ofDocument, Segment.sourceOf?, covered]
  obtain ⟨ending, expanded, assets, expansions⟩ :=
    expand_blackHead place (.ofDocument (front ++ blackHead.written) 0) (0 + front.length)
      (Run.start.log (.scanned (front ++ blackHead.written).length 1))
  rw [yield_literal scanned, Recursion.expand_append plain, expanded]
  simp only [Machine.Outcome.yield, Machine.Outcome.stopped, Machine.Outcome.after, assets,
    expansions, Site.placed, Cause.placed, Option.getD_some, offset]
  rfl

end Processor
end Flourish
