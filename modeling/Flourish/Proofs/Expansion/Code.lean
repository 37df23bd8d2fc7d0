/-
This file says that code has nothing to do with the expansion of a document. Main statement: code is
copied, and literal text comes to what each of its spans comes to on its own.
-/

import Flourish.Proofs.Expansion.Moved
import Flourish.Proofs.Span.Cover

namespace Flourish

/-- The text that a yield comes to, if any. -/
def Yield.text (yield : Yield) : Text :=
  match yield.result with
  | .error _ => []
  | .ok text => text

namespace Site

/-- The letters of a stretch of the document stand there one after another. -/
theorem sourceOf_ofDocument (text : Text) (base index : Nat) (within : index < text.length) :
    Segment.sourceOf? (ofDocument text base).segments (index : Nat) =
      some ((base + index : Nat) : Int) := by
  have inside : (0 : Int) ≤ index ∧ (index : Int) < text.length := by omega
  rw [ofDocument, Segment.sourceOf_cons, if_pos inside]
  simp only [Option.some.injEq]
  omega

/-- A stretch of a document moves with all its letters, also into a longer one. -/
theorem ofDocument_moves {text whole : Text} {letters : Nat}
    (fits : letters + text.length ≤ whole.length) (base other : Nat) :
    (ofDocument text base).Moves (other + letters - base) letters 0 text.length
      (ofDocument whole other) := by
  have source (index : Nat) (within : index < text.length) :=
    sourceOf_ofDocument whole other (0 + letters + index) (by omega)
  have own (index : Nat) (within : index < text.length) :=
    sourceOf_ofDocument text base (0 + index) (by omega)
  refine ⟨rfl, ?_, ?_⟩
  · intro index within
    rw [source index within, own index within, Option.map_some]
    exact congrArg some (by omega)
  · intro index within
    rw [Site.offsetOf, Site.offsetOf, source index within, own index within, Option.getD_some,
      Option.getD_some]
    omega

end Site

/-- A stretch of a document comes to the same anywhere, also within a longer one. -/
theorem Recursion.stretch_moves {processor : Processor} {text whole : Text} {letters : Nat}
    {run later : Run} (fits : letters + text.length ≤ whole.length) (base other : Nat)
    (matching : run.Matches later) :
    Yield.Moves processor (other + letters - base)
      (expand processor (Site.ofDocument text base) 0 text run).yield
      (expand processor (Site.ofDocument whole other) letters text later).yield := by
  have moves : Yield.Moves processor (other + letters - base) _ _ :=
    expand_moves (Site.ofDocument_moves fits base other) matching
  rwa [Nat.zero_add] at moves

/-- A stretch of a document in a run of its own comes to the same anywhere. -/
theorem Machine.yield_finish_moves (processor : Processor) (text : Text) (base other : Nat) :
    Yield.Moves processor (other - base : Int)
      (finish processor (ofDocument text base Run.start)).yield
      (finish processor (ofDocument text other Run.start)).yield := by
  rw [yield_finish, yield_finish]
  have fits : 0 + text.length ≤ text.length := Nat.le_of_eq (Nat.zero_add _)
  have same : Run.start.Matches Run.start := ⟨rfl, rfl⟩
  have moves : Yield.Moves processor (other + (0 : Nat) - base) _ _ :=
    Recursion.stretch_moves fits base other same
  rwa [Int.natCast_zero, Int.add_zero] at moves

namespace Processor

variable {processor : Processor} {document other : Text} {span : Span} {spans : List Span}
  {run : Run}

/-- The literal spans of a document. -/
def literals (processor : Processor) (document : Text) : List Span :=
  (Span.scan processor.settings.codeMarks document).filter fun span => span.kind = .literal

/-- A document with other texts in place of its literal spans. -/
def rebuilt (processor : Processor) (document : Text) (expanded : Span → Text) : Text :=
  (Span.scan processor.settings.codeMarks document).flatMap fun span =>
    if span.kind = .literal then expanded span else span.textIn document

/-- With the texts of its own literal spans a document is rebuilt as it was. -/
theorem rebuilt_textIn (processor : Processor) (document : Text) :
    processor.rebuilt document (·.textIn document) = document := by
  simp only [rebuilt, ite_self]
  exact Span.flatMap_textIn_scan _ _

theorem spanYield_literal (literal : span.kind = .literal) :
    processor.spanYield document span = (processor.alone document span).yield := by
  rw [spanYield, if_neg (by rw [literal]; exact SpanKind.noConfusion)]

theorem spanYield_code (code : span.kind = .code) :
    processor.spanYield document span = .copied (span.textIn document) := by
  rw [spanYield, if_pos code]

/-- The files of a run of its own have different paths. -/
theorem alone_nodup (processor : Processor) (document : Text) (span : Span) :
    (FileAsset.paths (processor.alone document span).yield.assets).Nodup :=
  (Machine.finish_becomes processor (Machine.ofDocument (span.textIn document) span.start
    Run.start)).nodup List.nodup_nil

theorem spanYield_nodup (processor : Processor) (document : Text) (span : Span) :
    (FileAsset.paths (processor.spanYield document span).assets).Nodup := by
  unfold spanYield
  split
  · exact List.nodup_nil
  · exact processor.alone_nodup document span

/-- Code adds no files and no templates, and stops nothing. -/
theorem total_literals (processor : Processor) (document : Text)
    (all : ∀ span ∈ spans, span.kind = .literal ∨ span.kind = .code) :
    let whole := Yield.total (spans.map (processor.spanYield document))
    let own := Yield.total ((spans.filter fun span => span.kind = .literal).map
      (processor.spanYield document))
    whole.assets = own.assets ∧ whole.expansions = own.expansions ∧
      ∀ stop, own.result = .error stop → whole.result = .error stop := by
  induction spans with
  | nil => exact ⟨rfl, rfl, fun _ same => same⟩
  | cons span rest inductionHypothesis =>
      obtain ⟨first, others⟩ := List.forall_mem_cons.mp all
      obtain ⟨assets, expansions, stops⟩ := inductionHypothesis others
      rcases first with literal | code
      · rw [List.filter_cons_of_pos (by simpa using literal), List.map_cons, List.map_cons,
          Yield.total_cons, Yield.total_cons]
        cases ended : (processor.spanYield document span).result with
        | error stop =>
            rw [Yield.andThen_error ended, Yield.andThen_error ended]
            exact ⟨rfl, rfl, fun _ same => same⟩
        | ok text =>
            rw [Yield.andThen_ok ended, Yield.andThen_ok ended, assets, expansions]
            refine ⟨rfl, rfl, ?_⟩
            intro stop failed
            cases later : (Yield.total ((rest.filter fun span => span.kind = .literal).map
                (processor.spanYield document))).result with
            | ok output => rw [later] at failed; cases failed
            | error other =>
                rw [later] at failed
                cases failed
                rw [stops stop later]
                rfl
      · rw [List.filter_cons_of_neg (by simp [code]), List.map_cons, Yield.total_cons,
          spanYield_code code, Yield.andThen_ok rfl]
        refine ⟨(FileAsset.nil_merged _).trans assets, (Nat.zero_add _).trans expansions, ?_⟩
        intro stop failed
        rw [stops stop failed]
        rfl

theorem mem_literals :
    span ∈ processor.literals document ↔
      span ∈ Span.scan processor.settings.codeMarks document ∧ span.kind = .literal := by
  rw [literals, List.mem_filter, decide_eq_true_iff]

/-- The spans of a document come to the files and the templates that its literal spans come to, and
are stopped by what stops these. -/
theorem spansYield_literals (processor : Processor) (document : Text) :
    let own := Yield.total ((processor.literals document).map fun span =>
      (processor.alone document span).yield)
    (processor.spansYield document).assets = own.assets ∧
      (processor.spansYield document).expansions = own.expansions ∧
      ∀ stop, own.result = .error stop → (processor.spansYield document).result = .error stop := by
  have yields : (processor.literals document).map (processor.spanYield document) =
      (processor.literals document).map fun span => (processor.alone document span).yield :=
    List.map_congr_left fun span member => spanYield_literal (mem_literals.mp member).2
  rw [← yields]
  apply processor.total_literals document
  intro span member
  exact Span.scan_kind member

/-- If each literal span succeeds on its own, and there are templates left for all, the document is
rebuilt with what they come to. -/
theorem process_of_alone {expanded : Span → Text}
    (each : ∀ span ∈ processor.literals document,
      (processor.alone document span).result = .ok (expanded span))
    (few : ((processor.literals document).map fun span =>
      (processor.alone document span).run.expansions).sum ≤ processor.settings.maxExpansions) :
    (processor.process document).result = .ok ⟨processor.rebuilt document expanded,
      FileAsset.distinct ((processor.literals document).flatMap fun span =>
        (processor.alone document span).run.assets)⟩ := by
  have ended : ∀ span ∈ Span.scan processor.settings.codeMarks document,
      (processor.spanYield document span).result =
        .ok (if span.kind = .literal then expanded span else span.textIn document) := by
    intro span member
    rcases Span.scan_kind member with literal | code
    · rw [spanYield_literal literal, if_pos literal]
      exact each span (mem_literals.mpr ⟨member, literal⟩)
    · rw [spanYield_code code, if_neg (by rw [code]; exact SpanKind.noConfusion)]
      rfl
  have text : (processor.spansYield document).result =
      .ok (processor.rebuilt document expanded) := by
    rw [spansYield, Yield.total_ok ended fun span _ => processor.spanYield_nodup document span]
    rfl
  have own := Yield.total_ok each fun span _ => processor.alone_nodup document span
  obtain ⟨assets, expansions, _⟩ := processor.spansYield_literals document
  rw [own] at assets expansions
  have same : processor.yield document = processor.spansYield document := by
    apply yield_eq_spansYield
    left
    rw [expansions]
    exact few
  rw [process_yield, same, text, assets]
  rfl

/-- If a literal span fails on its own and no earlier one does, and there are templates left for
these, the document fails as that span does. -/
theorem process_of_failed {before after : List Span} {stop : Stop}
    (split : processor.literals document = before ++ span :: after)
    (earlier : ∀ earlier ∈ before, ∃ text, (processor.alone document earlier).result = .ok text)
    (failed : (processor.alone document span).result = .error stop)
    (few : ((before ++ [span]).map fun span =>
      (processor.alone document span).run.expansions).sum ≤ processor.settings.maxExpansions) :
    (processor.process document).result = .error stop := by
  obtain ⟨stopped, counted⟩ := Yield.total_error after
    (fun span => (processor.alone document span).yield) earlier failed
  obtain ⟨_, expansions, stops⟩ := processor.spansYield_literals document
  rw [split] at expansions stops
  have same : processor.yield document = processor.spansYield document := by
    apply yield_eq_spansYield
    left
    rw [expansions, counted]
    exact few
  rw [process_yield, same, stops stop stopped]
  rfl

/-- What a text comes to on its own, wherever it stands. -/
def textYield (processor : Processor) (text : Text) : Yield :=
  (Machine.finish processor (Machine.ofDocument text 0 Run.start)).yield

/-- A span comes to what its text does, but for the place of a failure. -/
theorem textYield_moves (processor : Processor) (document : Text) (span : Span) :
    Yield.Moves processor (0 - span.start) (processor.alone document span).yield
      (processor.textYield (span.textIn document)) :=
  Machine.yield_finish_moves processor (span.textIn document) span.start 0

/-- Spans with one text come to the same if one of them succeeds. -/
theorem alone_yield_of_ok {text : Text}
    (ended : (processor.textYield (span.textIn document)).result = .ok text) :
    (processor.alone document span).yield = processor.textYield (span.textIn document) := by
  have moves := processor.textYield_moves document span
  have result : (processor.alone document span).result = .ok text := by
    cases own : (processor.alone document span).result with
    | error stop =>
        obtain ⟨_, failed, _⟩ := moves.stop stop own
        cases ended.symm.trans failed
    | ok other =>
        cases ended.symm.trans (moves.text other own)
        rfl
  exact Yield.ext (result.trans ended.symm) moves.assets.symm moves.expansions.symm

/-- Spans that succeed have not counted more templates than there may be. -/
theorem expandSpans_within {done pieces : List Text} {text : Text}
    (begun : run.expansions ≤ processor.settings.maxExpansions)
    (ended : (processor.expandSpans done spans text run).1 = .ok pieces) :
    (processor.expandSpans done spans text run).2.expansions ≤
      processor.settings.maxExpansions := by
  induction spans generalizing done text run with
  | nil => exact begun
  | cons span rest inductionHypothesis =>
      simp only [expandSpans] at ended ⊢
      cases own : (processor.expandSpan span (text.take span.length) run).result with
      | error stop =>
          simp only [own] at ended
          cases ended
      | ok expanded =>
          simp only [own] at ended ⊢
          refine inductionHypothesis ?_ ended
          unfold expandSpan at own ⊢
          split
          · exact begun
          · next read =>
              rw [if_neg read] at own
              exact Machine.finish_within begun own

/-- A document whose literal spans have texts that succeed is rebuilt with what these come to. -/
theorem process_of_texts (expanded : Text → Text)
    (each : ∀ span ∈ processor.literals document,
      (processor.textYield (span.textIn document)).result = .ok (expanded (span.textIn document)))
    (few : (((processor.literals document).map (·.textIn document)).map fun text =>
      (processor.textYield text).expansions).sum ≤ processor.settings.maxExpansions) :
    (processor.process document).result =
      .ok ⟨processor.rebuilt document fun span => expanded (span.textIn document),
        FileAsset.distinct (((processor.literals document).map (·.textIn document)).flatMap
          fun text => (processor.textYield text).assets)⟩ := by
  have same : ∀ span ∈ processor.literals document,
      (processor.alone document span).yield = processor.textYield (span.textIn document) :=
    fun span member => alone_yield_of_ok (each span member)
  have counts : ((processor.literals document).map fun span =>
      (processor.alone document span).run.expansions) =
        ((processor.literals document).map (·.textIn document)).map fun text =>
          (processor.textYield text).expansions := by
    rw [List.map_map]
    exact List.map_congr_left fun span member => congrArg Yield.expansions (same span member)
  have files : ((processor.literals document).flatMap fun span =>
      (processor.alone document span).run.assets) =
        ((processor.literals document).map (·.textIn document)).flatMap fun text =>
          (processor.textYield text).assets := by
    rw [List.flatMap_map, List.flatMap_def, List.flatMap_def]
    exact congrArg List.flatten (List.map_congr_left fun span member =>
      congrArg Yield.assets (same span member))
  rw [← files]
  refine process_of_alone (fun span member => ?_) (by rw [counts]; exact few)
  exact (congrArg Yield.result (same span member)).trans (each span member)

/-- If a document succeeds then so do the texts of its literal spans, and there were templates left
for all of them. -/
theorem texts_of_process {output : Output}
    (ended : (processor.process document).result = .ok output) :
    (∀ span ∈ processor.literals document,
      ∃ text, (processor.textYield (span.textIn document)).result = .ok text) ∧
    (((processor.literals document).map (·.textIn document)).map fun text =>
      (processor.textYield text).expansions).sum ≤ processor.settings.maxExpansions := by
  let start := Run.start.log (.scanned document.length
    (Span.scan processor.settings.codeMarks document).length)
  have begun : start.expansions ≤ processor.settings.maxExpansions := Nat.zero_le _
  rw [process_yield] at ended
  obtain ⟨text, succeeded, _⟩ := exists_of_map_ok ended
  obtain ⟨pieces, expanded, _⟩ := exists_of_map_ok succeeded
  have within : (processor.yield document).expansions ≤ processor.settings.maxExpansions :=
    expandSpans_within begun expanded
  rw [yield_eq_spansYield (Or.inr within)] at succeeded within
  have each : ∀ span ∈ processor.literals document,
      ∃ own, (processor.textYield (span.textIn document)).result = .ok own := by
    intro span member
    obtain ⟨inScan, literal⟩ := mem_literals.mp member
    obtain ⟨own, result⟩ := Yield.ok_of_total_ok succeeded _ (List.mem_map_of_mem inScan)
    rw [spanYield_literal literal] at result
    exact ⟨own, (processor.textYield_moves document span).text own result⟩
  refine ⟨each, ?_⟩
  have yields : ((processor.literals document).map fun span =>
      (processor.alone document span).yield) =
        ((processor.literals document).map (·.textIn document)).map processor.textYield := by
    rw [List.map_map]
    apply List.map_congr_left
    intro span member
    obtain ⟨own, result⟩ := each span member
    exact alone_yield_of_ok result
  obtain ⟨_, expansions, _⟩ := processor.spansYield_literals document
  rw [yields, Yield.expansions_total, List.map_map] at expansions
  · exact Nat.le_trans (Nat.le_of_eq expansions.symm) within
  · intro yield inYields
    obtain ⟨text, inTexts, rfl⟩ := List.mem_map.mp inYields
    obtain ⟨span, member, rfl⟩ := List.mem_map.mp inTexts
    exact each span member

/-- Documents with the same texts in their literal spans are rebuilt with the same texts in place of
those. -/
theorem process_alike {output : Output}
    (same : (processor.literals other).map (·.textIn other) =
      (processor.literals document).map (·.textIn document))
    (ended : (processor.process document).result = .ok output) :
    ∃ expanded : Text → Text,
      output.text = processor.rebuilt document (fun span => expanded (span.textIn document)) ∧
      (processor.process other).result =
        .ok ⟨processor.rebuilt other fun span => expanded (span.textIn other), output.assets⟩ := by
  obtain ⟨each, few⟩ := texts_of_process ended
  have known : ∀ text ∈ (processor.literals document).map (·.textIn document),
      (processor.textYield text).result = .ok (processor.textYield text).text := by
    intro text inTexts
    obtain ⟨span, member, rfl⟩ := List.mem_map.mp inTexts
    obtain ⟨text, result⟩ := each span member
    rw [Yield.text, result]
  have first := process_of_texts (fun text => (processor.textYield text).text)
    (fun span member => known _ (List.mem_map_of_mem member)) few
  rw [← same] at known few
  have second := process_of_texts (fun text => (processor.textYield text).text)
    (fun span member => known _ (List.mem_map_of_mem member)) few
  rw [ended, Except.ok.injEq] at first
  refine ⟨fun text => (processor.textYield text).text, congrArg Output.text first, ?_⟩
  rw [second, first, same]

/-- Code is copied and has nothing to do with the rest. A document is rebuilt with what its literal
spans come to on their own, and has the first file of each path. If one of them fails on its own
then the document fails as the first of them does. Documents that differ only in their code come to
texts that differ only in their code. -/
theorem process_spans (processor : Processor) (document : Text) :
    processor.rebuilt document (·.textIn document) = document ∧
    (∀ expanded : Span → Text,
      (∀ span ∈ processor.literals document,
        (processor.alone document span).result = .ok (expanded span)) →
      ((processor.literals document).map fun span =>
        (processor.alone document span).run.expansions).sum ≤ processor.settings.maxExpansions →
      (processor.process document).result = .ok ⟨processor.rebuilt document expanded,
        FileAsset.distinct ((processor.literals document).flatMap fun span =>
          (processor.alone document span).run.assets)⟩) ∧
    (∀ before span after stop, processor.literals document = before ++ span :: after →
      (∀ earlier ∈ before, ∃ text, (processor.alone document earlier).result = .ok text) →
      (processor.alone document span).result = .error stop →
      ((before ++ [span]).map fun span =>
        (processor.alone document span).run.expansions).sum ≤ processor.settings.maxExpansions →
      (processor.process document).result = .error stop) ∧
    ∀ other output,
      (processor.literals other).map (·.textIn other) =
        (processor.literals document).map (·.textIn document) →
      (processor.process document).result = .ok output →
      ∃ expanded : Text → Text,
        output.text = processor.rebuilt document (fun span => expanded (span.textIn document)) ∧
        (processor.process other).result =
          .ok ⟨processor.rebuilt other fun span => expanded (span.textIn other), output.assets⟩ :=
  ⟨processor.rebuilt_textIn document, fun _ => process_of_alone,
    fun _ _ _ _ => process_of_failed, fun _ _ => process_alike⟩

/-- A frame and then code, which would be a stray closer if it were literal text. -/
def framedBeforeCode : Text :=
  (framed 'a').render ++ "\x60{{/x}}\x60"

theorem process_framedBeforeCode :
    (framing.process framedBeforeCode).result = .ok ⟨"<a>\x60{{/x}}\x60", []⟩ := by
  have scanned : Span.scan framing.settings.codeMarks framedBeforeCode =
      [⟨.literal, 0, 22⟩, ⟨.code, 22, 30⟩] := by with_unfolding_all rfl
  have literals : framing.literals framedBeforeCode = [⟨.literal, 0, 22⟩] := by
    rw [literals, scanned]
    rfl
  have resolved : (framed 'a').Resolved framing brackets := ⟨⟨_, rfl, rfl⟩, trivial, trivial⟩
  have alone : (framing.alone framedBeforeCode ⟨.literal, 0, 22⟩).yield =
      (Recursion.expand framing (Site.ofDocument (framed 'a').render 0) 0 (framed 'a').render
        Run.start).yield := by
    rw [← Machine.yield_finish]
    rfl
  obtain ⟨result, counted, assets⟩ := (Forest.expands_render (framed_wellFormed (by decide))
    resolved).whole (Site.ofDocument (framed 'a').render 0) Run.start (by decide) (by decide)
  have rebuilt : framing.rebuilt framedBeforeCode (fun _ => "<a>") = "<a>\x60{{/x}}\x60" := by
    rw [rebuilt, scanned]
    rfl
  have own : (framing.alone framedBeforeCode ⟨.literal, 0, 22⟩).result = .ok "<a>" :=
    (congrArg Yield.result alone).trans result
  have count : (framing.alone framedBeforeCode ⟨.literal, 0, 22⟩).run.expansions ≤ 0 :=
    Nat.le_trans (Nat.le_of_eq (congrArg Yield.expansions alone)) counted
  have files : (framing.alone framedBeforeCode ⟨.literal, 0, 22⟩).run.assets = [] :=
    (congrArg Yield.assets alone).trans assets
  have whole := (process_spans framing framedBeforeCode).2.1 (fun _ => "<a>")
  rw [literals, rebuilt] at whole
  simp only [List.map_singleton, List.sum_singleton, List.flatMap_singleton,
    List.forall_mem_singleton, files] at whole
  exact whole own (Nat.le_trans count (Nat.zero_le _))

end Processor
end Flourish
