/-
This file evaluates documents that are written as trees of tags. Main statements: the expanded form
of a tree is put together from those of its branches, and a document is processed to what its trees
stand for.
-/

import Flourish.Proofs.Expansion.Element
import Flourish.Proofs.Expansion.Forest
import Flourish.Proofs.Expansion.Recursion
import Flourish.Proofs.Expansion.Step
import Flourish.Proofs.Expansion.Unfold
import Flourish.Processor.Run

namespace Flourish

namespace Recursion

open Machine (Outcome)

/-- Letters expand to a result, whatever comes after them, if that many levels and templates are
left. They add no files. -/
def Expands (processor : Processor) (letters : Text) (result : Except Defect Text)
    (height count : Nat) : Prop :=
  ∀ site position rest run, site.depth + height ≤ processor.settings.maxExpansionDepth →
    run.expansions + count ≤ processor.settings.maxExpansions →
      ∃ outcome : Outcome, outcome.result = result.mapError .defect ∧
        outcome.run.expansions ≤ run.expansions + count ∧ outcome.run.assets = run.assets ∧
        expand processor site position (letters ++ rest) run =
          outcome.andThen fun run => expand processor site (position + letters.length) rest run

/-- The results of two texts one after the other. -/
def joined (first second : Except Defect Text) : Except Defect Text := do
  let before ← first
  let after ← second
  pure (before ++ after)

variable {processor : Processor} {letters first second : Text}
  {result firstResult secondResult : Except Defect Text} {height higher count more : Nat}

namespace Expands

theorem nil (processor : Processor) : Expands processor [] (.ok []) 0 0 := by
  intro site position rest run _ _
  exact ⟨⟨.ok [], run⟩, rfl, Nat.le_refl _, rfl, (Outcome.after_nil _).symm⟩

theorem append (before : Expands processor first firstResult height count)
    (after : Expands processor second secondResult higher more) :
    Expands processor (first ++ second) (joined firstResult secondResult) (max height higher)
      (count + more) := by
  intro site position rest run shallow few
  rw [List.append_assoc]
  obtain ⟨outcome, same, counted, assets, expanded⟩ :=
    before site position (second ++ rest) run (by omega) (by omega)
  cases firstResult with
  | error defect =>
      have failed : outcome.result = .error (.defect defect) := same
      refine ⟨outcome, same, by omega, assets, ?_⟩
      simp only [expanded, Outcome.andThen, failed]
  | ok text =>
      have succeeded : outcome.result = .ok text := same
      obtain ⟨later, laterSame, laterCounted, laterAssets, laterExpanded⟩ :=
        after site (position + first.length) rest outcome.run (by omega) (by omega)
      refine ⟨later.after text, ?_, ?_, laterAssets.trans assets, ?_⟩
      · rw [Outcome.after, laterSame]
        cases secondResult <;> rfl
      · show later.run.expansions ≤ _
        omega
      · rw [expanded, Outcome.andThen, succeeded]
        simp only [laterExpanded, andThen_after, List.length_append, Nat.add_assoc]

/-- Letters without a brace that opens are copied. -/
theorem of_letters (letterOnly : .of '{' ∉ letters) :
    Expands processor letters (.ok letters) 0 0 := by
  induction letters with
  | nil => exact nil processor
  | cons letter others inductionHypothesis =>
      have later := inductionHypothesis fun member => letterOnly (List.mem_cons_of_mem _ member)
      have one : Expands processor [letter] (.ok [letter]) 0 0 := by
        intro site position rest run _ _
        refine ⟨⟨.ok [letter], run⟩, rfl, Nat.le_refl _, rfl, ?_⟩
        rw [List.singleton_append, expand]
        · rfl
        · intro tail same _
          exact letterOnly (same ▸ List.mem_cons_self)
      exact one.append later

/-- A text that stands alone. -/
theorem whole (expands : Expands processor letters result height count) (site : Site) (run : Run)
    (shallow : site.depth + height ≤ processor.settings.maxExpansionDepth)
    (few : run.expansions + count ≤ processor.settings.maxExpansions) :
    (expand processor site 0 letters run).result = result.mapError .defect ∧
      (expand processor site 0 letters run).run.expansions ≤ run.expansions + count ∧
      (expand processor site 0 letters run).run.assets = run.assets := by
  obtain ⟨outcome, same, counted, assets, expanded⟩ := expands site 0 [] run shallow few
  have alone : expand processor site 0 letters run = outcome := by
    rw [List.append_nil] at expanded
    rw [expanded]
    refine Eq.trans ?_ (andThen_nil outcome)
    congr 1
    funext run
    rw [expand]
  rw [alone]
  exact ⟨same, counted, assets⟩

end Expands

/-- A finish that always succeeds changes the text and nothing else that counts. -/
theorem finished_of_apply {outcome : Outcome} (finish : Finish) {change : Text → Text}
    (applied : ∀ text, finish.apply text = .ok (change text))
    (same : outcome.result = result.mapError .defect) (site : Site) :
    (outcome.finished site finish).result = (result.map change).mapError .defect ∧
      (outcome.finished site finish).run.expansions = outcome.run.expansions ∧
      (outcome.finished site finish).run.assets = outcome.run.assets := by
  rcases outcome with ⟨found, run⟩
  cases same
  cases result with
  | error defect => exact ⟨rfl, rfl, rfl⟩
  | ok text =>
      simp only [Outcome.finished, applied]
      exact ⟨rfl, rfl, rfl⟩

/-- A plain tag ends behind the closer after its content, whatever comes after it. -/
def Closed (space : Option TagKind) (name content : Text) : Prop :=
  ∀ position rest, Dispatch.extent (Tag.opened space name position)
    (Tag.elementTail space name content rest) = .ok (Tag.elementExtent space name content)

theorem expansions_counted (site : Site) (position : Nat) (opening : Opening)
    (decision : Decision) (run : Run) :
    (counted (decided site position opening decision run)).expansions = run.expansions + 1 := rfl

/-- The run after it was decided what becomes of a plain tag. -/
def elementRun (processor : Processor) (site : Site) (position : Nat) (space : Option TagKind)
    (name content rest : Text) (run : Run) : Run :=
  decided site position (Tag.opened space name position)
    (Dispatch.decide processor (Tag.opened space name position)
      (Tag.elementTail space name content rest)) run

namespace Expands

variable {name content : Text}

theorem style {entry : Entry StyleBody} (isName : Tag.IsName name)
    (closed : Closed none name content)
    (resolved : Registry.resolveIn processor.registry.styles name processor.context =
      .ok (some entry)) :
    Expands processor (Tag.element none name content)
      (Conversion.convert entry.body content) 0 0 := by
  intro site position rest run _ _
  have read := Tag.read_element isName Forest.none_reserved position content rest
  have decided := Dispatch.style_element resolved (closed position rest)
  rw [Tag.element_append]
  refine ⟨⟨(Conversion.convert entry.body content).mapError .defect,
    elementRun processor site position none name content rest run⟩, rfl, Nat.le_refl _, rfl, ?_⟩
  rw [expand]
  cases converted : Conversion.convert entry.body content with
  | error defect =>
      simp only [converted] at decided
      simp only [read, decided]
      rfl
  | ok glyphs =>
      simp only [converted] at decided
      simp only [read, decided, Tag.drop_element, Tag.size_element]
      rfl

theorem frame {entry : Entry FrameBody} (isName : Tag.IsName name)
    (closed : Closed (some .frame) name content)
    (resolved : Registry.require .frame processor.registry.frames name processor.context =
      .ok entry)
    (expands : Expands processor content result height count) :
    Expands processor (Tag.element (some .frame) name content)
      (result.map fun text => entry.body.before ++ text ++ entry.body.after) (height + 1)
      count := by
  intro site position rest run shallow few
  have read := Tag.read_element isName Forest.frame_reserved position content rest
  have decided := Dispatch.frame_element resolved (closed position rest)
  let inner := site.child position (Tag.elementExtent (some .frame) name content)
    (Tag.opened (some .frame) name position).headStop [0]
  let later := entered site (Tag.opened (some .frame) name position)
    (elementRun processor site position (some .frame) name content rest run)
  have depth : inner.depth = site.depth + 1 := rfl
  have first : later.expansions = run.expansions := rfl
  obtain ⟨same, counted, assets⟩ := expands.whole inner later (by omega) few
  obtain ⟨finished, countedLater, assetsLater⟩ :=
    finished_of_apply (.surround entry.body.before entry.body.after) (fun _ => rfl) same inner
  rw [Tag.element_append]
  refine ⟨(expand processor inner 0 content later).finished inner
    (.surround entry.body.before entry.body.after), finished, by omega,
    assetsLater.trans assets, ?_⟩
  rw [expand]
  simp only [read, decided, Tag.drop_element, Tag.size_element, Tag.contentIn_element]
  rw [if_neg (by omega)]
  rfl

theorem component {entry : Entry ComponentBody} {around : Text × Text} (isName : Tag.IsName name)
    (closed : Closed (some .ui) name content)
    (resolved : Registry.require .component processor.registry.components name
      processor.context = .ok entry)
    (wraps : entry.body.Wraps around) (expands : Expands processor content result height count) :
    Expands processor (Tag.element (some .ui) name content)
      (joined (.ok around.1) (joined result (.ok around.2))) (height + 1) (count + 1) := by
  intro site position rest run shallow few
  have read := Tag.read_element isName Forest.ui_reserved position content rest
  obtain ⟨starts, decided⟩ := Dispatch.component_element resolved wraps (closed position rest)
  let inner := site.child position (Tag.elementExtent (some .ui) name content)
    (Tag.opened (some .ui) name position).headStop starts
  let later := entered site (Tag.opened (some .ui) name position)
    (counted (elementRun processor site position (some .ui) name content rest run))
  have depth : inner.depth = site.depth + 1 := rfl
  have first : later.expansions = run.expansions + 1 := rfl
  have before : Expands processor around.1 (.ok around.1) 0 0 :=
    of_letters fun member => (wraps.before _ member).1 rfl
  have after : Expands processor around.2 (.ok around.2) 0 0 :=
    of_letters fun member => (wraps.after _ member).1 rfl
  obtain ⟨same, counted, assets⟩ :=
    (before.append (expands.append after)).whole inner later (by omega) (by omega)
  obtain ⟨finished, countedLater, assetsLater⟩ :=
    finished_of_apply .keep (fun _ => rfl) same inner
  rw [Tag.element_append]
  refine ⟨(expand processor inner 0 (around.1 ++ (content ++ around.2)) later).finished inner
    .keep, finished.trans ?_, by omega, assetsLater.trans assets, ?_⟩
  · cases joined (.ok around.1) (joined result (.ok around.2)) <;> rfl
  · rw [expand]
    simp only [read, decided, Tag.drop_element, Tag.size_element, expansions_counted]
    rw [if_neg (by omega), if_neg (by omega)]
    rfl

end Expands

end Recursion

namespace Forest

open Recursion (Closed Expands expand joined)

variable {processor : Processor} {meaning : Meaning} {forest : Forest}

theorem closed_of_passes {space : Option TagKind} {name content : Text}
    (policy : (Tag.plain space name).closerPolicy = .specific)
    (passes : Closer.Passes (Tag.plain space name).closerName content) :
    Closed space name content := by
  intro position rest
  refine Tag.extent_element ?_
  rw [policy]
  exact Closer.findSpecific_found (Tag.opened space name position) passes rest

/-- A component tag around a row of trees ends behind its own closer. -/
theorem closed_component (wellFormed : forest.WellFormed) (name : Text) :
    Closed (some .ui) name forest.render := by
  intro position rest
  refine Tag.extent_element ?_
  refine (findGenericFrom_render wellFormed [] _ _).trans ?_
  exact Closer.findGenericFrom_end (Tag.isName_kind .ui)

/-- The names of a row of trees have their meaning in the context of a processor. -/
def Resolved (processor : Processor) (meaning : Meaning) : Forest → Prop
  | .nil => True
  | .text _ rest => rest.Resolved processor meaning
  | .style name _ rest =>
      (∃ entry, Registry.resolveIn processor.registry.styles name processor.context =
        .ok (some entry) ∧ entry.body = meaning.style name) ∧
      rest.Resolved processor meaning
  | .component name children rest =>
      (∃ entry, Registry.require .component processor.registry.components name
        processor.context = .ok entry ∧ entry.body.Wraps (meaning.component name)) ∧
      children.Resolved processor meaning ∧ rest.Resolved processor meaning
  | .frame name children rest =>
      (∃ entry, Registry.require .frame processor.registry.frames name processor.context =
        .ok entry ∧ entry.body = meaning.frame name) ∧
      children.Resolved processor meaning ∧ rest.Resolved processor meaning

theorem render_style (name letters : Text) (rest : Forest) :
    (Forest.style name letters rest).render = Tag.element none name letters ++ rest.render := by
  simp only [render, Tag.element, bare_displayName, bare_closerName, List.append_assoc]

theorem render_component (name : Text) (children rest : Forest) :
    (Forest.component name children rest).render =
      Tag.element (some .ui) name children.render ++ rest.render := by
  simp only [render, Tag.element, kind_displayName, kind_closerName, List.append_assoc]

theorem render_frame (name : Text) (children rest : Forest) :
    (Forest.frame name children rest).render =
      Tag.element (some .frame) name children.render ++ rest.render := by
  simp only [render, Tag.element, kind_displayName, kind_closerName, List.append_assoc]

theorem eval_component (meaning : Meaning) (name : Text) (children rest : Forest) :
    (Forest.component name children rest).eval meaning =
      joined (joined (.ok (meaning.component name).1)
        (joined (children.eval meaning) (.ok (meaning.component name).2)))
        (rest.eval meaning) := by
  rw [eval]
  cases children.eval meaning with
  | error defect => rfl
  | ok content =>
      cases rest.eval meaning with
      | error defect => rfl
      | ok others =>
          exact congrArg Except.ok (by simp only [List.append_assoc])

theorem eval_frame (meaning : Meaning) (name : Text) (children rest : Forest) :
    (Forest.frame name children rest).eval meaning =
      joined ((children.eval meaning).map fun text =>
        (meaning.frame name).before ++ text ++ (meaning.frame name).after)
        (rest.eval meaning) := by
  rw [eval]
  cases children.eval meaning <;> rfl

/-- A row of trees expands to what it stands for. -/
theorem expands_render (wellFormed : forest.WellFormed)
    (resolved : forest.Resolved processor meaning) :
    Expands processor forest.render (forest.eval meaning) forest.height forest.components := by
  induction forest with
  | nil => exact .nil processor
  | text letters rest inductionHypothesis =>
      have whole := (Expands.of_letters wellFormed.1).append
        (inductionHypothesis wellFormed.2 resolved)
      rw [Nat.zero_max, Nat.zero_add] at whole
      exact whole
  | style name letters rest inductionHypothesis =>
      obtain ⟨isName, _, letterOnly, wellFormed⟩ := wellFormed
      obtain ⟨⟨entry, found, same⟩, resolved⟩ := resolved
      have closed : Closed none name letters :=
        closed_of_passes rfl (Closer.Passes.of_letters letterOnly)
      have whole := (Expands.style isName closed found).append
        (inductionHypothesis wellFormed resolved)
      rw [Nat.zero_max, Nat.zero_add, same] at whole
      rw [render_style]
      exact whole
  | component name children rest first second =>
      obtain ⟨isName, content, wellFormed⟩ := wellFormed
      obtain ⟨⟨entry, found, wraps⟩, inner, resolved⟩ := resolved
      rw [render_component, eval_component]
      exact (Expands.component isName (closed_component content name) found wraps
        (first content inner)).append (second wellFormed resolved)
  | frame name children rest first second =>
      obtain ⟨isName, frameless, content, wellFormed⟩ := wellFormed
      obtain ⟨⟨entry, found, same⟩, inner, resolved⟩ := resolved
      have closed : Closed (some .frame) name children.render :=
        closed_of_passes rfl (passes_render content frameless)
      rw [render_frame, eval_frame, ← same]
      exact (Expands.frame isName closed found (first content inner)).append
        (second wellFormed resolved)

end Forest

namespace Processor

open Recursion (Expands expand expand_plain)

variable {processor : Processor} {meaning : Meaning} {forest : Forest}

/-- A literal span is expanded as the recursion expands it. -/
theorem expandSpan_literal (processor : Processor) (text : Text) (size : Nat) (run : Run) :
    (processor.expandSpan ⟨.literal, 0, size⟩ text run).result =
        (expand processor (Site.ofDocument text 0) 0 text run).result ∧
      (processor.expandSpan ⟨.literal, 0, size⟩ text run).run.assets =
        (expand processor (Site.ofDocument text 0) 0 text run).run.assets := by
  unfold expandSpan
  split
  · next copied =>
      have plain : Text.firstIndex [.of '{', .of '{'] text = none := by simpa using copied
      rw [expand_plain plain]
      exact ⟨rfl, rfl⟩
  · rw [Machine.finish_stretch]
    generalize expand processor (Site.ofDocument text 0) 0 text run = outcome
    rcases outcome with ⟨result, run⟩
    cases result <;> exact ⟨rfl, rfl⟩

/-- A document that is one literal span is processed to what the recursion makes of it. -/
theorem process_literal {document : Text}
    (scanned : Span.scan processor.settings.codeMarks document =
      [⟨.literal, 0, document.length⟩]) :
    (processor.process document).result =
      let expanded := expand processor (Site.ofDocument document 0) 0 document
        (Run.start.log (.scanned document.length 1))
      expanded.result.map fun text => ⟨text, expanded.run.assets⟩ := by
  obtain ⟨result, files⟩ := expandSpan_literal processor document document.length
    (Run.start.log (.scanned document.length 1))
  have all : document.take (Span.length ⟨.literal, 0, document.length⟩) = document :=
    List.take_length
  simp only [process, scanned, expandSpans, List.length_singleton, all]
  rw [← result, ← files]
  generalize processor.expandSpan _ _ _ = outcome
  rcases outcome with ⟨found, run⟩
  cases found with
  | error stop => rfl
  | ok text => simp [Except.map, Run.log]

/-- A document that is one literal span and is written as a row of trees is processed to what the
trees stand for, if they are not nested too deep and hold not too many components. -/
theorem process_render (wellFormed : forest.WellFormed)
    (resolved : forest.Resolved processor meaning)
    (scanned : Span.scan processor.settings.codeMarks forest.render =
      [⟨.literal, 0, forest.render.length⟩])
    (shallow : forest.height ≤ processor.settings.maxExpansionDepth)
    (few : forest.components ≤ processor.settings.maxExpansions) :
    (processor.process forest.render).result =
      match forest.eval meaning with
      | .ok text => .ok ⟨text, []⟩
      | .error defect => .error (.defect defect) := by
  let start := Run.start.log (.scanned forest.render.length 1)
  have levels : (Site.ofDocument forest.render 0).depth + forest.height ≤
      processor.settings.maxExpansionDepth := by
    rwa [show (Site.ofDocument forest.render 0).depth = 0 from rfl, Nat.zero_add]
  have templates : start.expansions + forest.components ≤ processor.settings.maxExpansions := by
    rwa [show start.expansions = 0 from rfl, Nat.zero_add]
  obtain ⟨same, _, assets⟩ := (Forest.expands_render wellFormed resolved).whole
    (Site.ofDocument forest.render 0) start levels templates
  rw [process_literal scanned]
  simp only [start] at same assets
  simp only [same, assets]
  cases forest.eval meaning <;> rfl

/-- What the names of a processor with one style, one frame and one component mean. -/
def brackets : Meaning where
  style _ := ⟨.absent, [("A", .text "𝐀")], [], [], []⟩
  component _ := ("(", ")")
  frame _ := ⟨"<", ">"⟩

/-- The component that puts its content in round brackets. -/
def roundBrackets : ComponentBody :=
  ⟨false, false, "($content)", [], [], [], none⟩

def bracketing : Processor :=
  { framing with
    registry := {
      framing.registry with
      styles := [⟨"b", [], [.inline], .absent, brackets.style "b"⟩]
      components := [⟨"w", [], [.inline], .absent, roundBrackets⟩] } }

/-- A component within itself and a frame after it. -/
def bracketed : Forest :=
  .component "w" (.component "w" (.style "b" "A" .nil) (.text "!" .nil))
    (.frame "f" (.text "x" .nil) .nil)

theorem process_bracketed :
    (bracketing.process bracketed.render).result = .ok ⟨"((𝐀)!)<x>", []⟩ := by
  have wraps : roundBrackets.Wraps ("(", ")") :=
    ⟨rfl, rfl, rfl, rfl, List.forall_mem_singleton.mpr (by decide),
      List.forall_mem_singleton.mpr (by decide)⟩
  have wellFormed : bracketed.WellFormed :=
    ⟨by decide, ⟨by decide, ⟨by decide, by decide, by decide, trivial⟩, by decide, trivial⟩,
      by decide, trivial, ⟨by decide, trivial⟩, trivial⟩
  have resolved : bracketed.Resolved bracketing brackets :=
    ⟨⟨_, rfl, wraps⟩, ⟨⟨_, rfl, wraps⟩, ⟨⟨_, rfl, rfl⟩, trivial⟩, trivial⟩, ⟨_, rfl, rfl⟩,
      trivial, trivial⟩
  exact process_render wellFormed resolved (by with_unfolding_all rfl) (by decide) (by decide)

/-- Every style makes one letter large. -/
def enlarging : Meaning where
  style _ := ⟨.absent, [], [], [], [("x", .text "X")]⟩
  component _ := ([], [])
  frame _ := ⟨[], []⟩

/-- A processor with a style whose name has a space. -/
def spacing : Processor :=
  { framing with
    registry := {
      framing.registry with
      styles := [⟨"a b", [], [.inline], .absent, enlarging.style "a b"⟩] } }

/-- A style tag with a space in its name. -/
def spaced : Forest :=
  .style "a b" "x" .nil

/-- No head bears a name with a space, so a tag of a style with such a name is malformed although
the name is known. -/
theorem process_spaced :
    spaced.Resolved spacing enlarging ∧ spaced.eval enlarging = .ok "X" ∧
    TagKind.reserved? "a b" = none ∧
    spaced.render = "{{a b}}x{{/a b}}" ∧
    Span.scan spacing.settings.codeMarks spaced.render = [⟨.literal, 0, spaced.render.length⟩] ∧
    spaced.height ≤ spacing.settings.maxExpansionDepth ∧
    spaced.components ≤ spacing.settings.maxExpansions ∧
    (spacing.process spaced.render).result =
      .error (.failure ((Cause.malformedTag (.unfinished "a")).placed 0)) := by
  have scanned : Span.scan spacing.settings.codeMarks spaced.render =
      [⟨.literal, 0, spaced.render.length⟩] := by with_unfolding_all rfl
  have stopped (run : Run) : Machine.step spacing (Machine.ofDocument spaced.render 0 run) =
      .stopped (.failure ((Cause.malformedTag (.unfinished "a")).placed 0)) run := by
    with_unfolding_all rfl
  have expanded (run : Run) : (spacing.expandSpan ⟨.literal, 0, 16⟩ spaced.render run).result =
      .error (.failure ((Cause.malformedTag (.unfinished "a")).placed 0)) := by
    rw [expandSpan, if_neg (by with_unfolding_all decide), Machine.finish_stopped (stopped run)]
    rfl
  have resolved : spaced.Resolved spacing enlarging := ⟨⟨_, rfl, rfl⟩, trivial⟩
  refine ⟨resolved, rfl, by decide, rfl, scanned, by decide, by decide, ?_⟩
  simp only [process, scanned, expandSpans]
  rw [show List.take (Span.length ⟨.literal, 0, spaced.render.length⟩) spaced.render =
    spaced.render from rfl, show spaced.render.length = 16 from rfl, expanded]

end Processor
end Flourish
