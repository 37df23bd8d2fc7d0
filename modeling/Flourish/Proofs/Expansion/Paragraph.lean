/-
This file expands documents that are put together from paragraphs. Main statement: two paragraphs
with a newline between them come to what they come to one after the other.
-/

import Flourish.Proofs.Expansion.Ahead
import Flourish.Proofs.Expansion.Code
import Flourish.Proofs.Expansion.Offset
import Flourish.Proofs.Span.Join
import Flourish.Proofs.Renderer

namespace Flourish

/-- The backends that the library offers never fail. -/
theorem Processor.plain_of_backend {processor : Processor} (backend : Backend) (folder : Text)
    (drawn : processor.renderer = backend.renderer folder) : processor.Plain := by
  intro primitive failure refused
  rw [drawn] at refused
  exact absurd refused (Backend.renderer_ne_refused failure)

namespace Yield

variable {processor : Processor} {shift : Int} {first second later other yield : Yield}

theorem Moves.refl_ok {text : Text} (ended : yield.result = .ok text) :
    Moves processor shift yield yield where
  text _ same := same
  stop _ failed := by cases ended.symm.trans failed
  assets := rfl
  expansions := rfl

/-- Yields move one after another. -/
theorem Moves.andThen (before : Moves processor shift first second)
    (after : Moves processor shift later other) :
    Moves processor shift (first.andThen later) (second.andThen other) := by
  cases begun : first.result with
  | error stop =>
      obtain ⟨moved, failed, _⟩ := before.stop stop begun
      rw [andThen_error begun, andThen_error failed]
      exact before
  | ok text =>
      rw [andThen_ok begun, andThen_ok (before.text text begun)]
      have assets : FileAsset.merged second.assets other.assets =
          FileAsset.merged first.assets later.assets := by rw [before.assets, after.assets]
      have expansions : second.expansions + other.expansions =
          first.expansions + later.expansions := by rw [before.expansions, after.expansions]
      cases ended : later.result with
      | ok own =>
          rw [after.text own ended]
          exact ⟨fun _ same => same, (fun _ failed => nomatch failed), assets, expansions⟩
      | error stop =>
          obtain ⟨moved, failed, same⟩ := after.stop stop ended
          rw [failed]
          refine ⟨(fun _ ended => nomatch ended), fun _ failed => ?_, assets, expansions⟩
          cases failed
          exact ⟨moved, rfl, same⟩

theorem Moves.total {Item : Type} {items : List Item} {here there : Item → Yield}
    (each : ∀ item ∈ items, Moves processor shift (here item) (there item)) :
    Moves processor shift (total (items.map here)) (total (items.map there)) := by
  induction items with
  | nil => exact Moves.refl_ok rfl
  | cons item rest inductionHypothesis =>
      obtain ⟨first, others⟩ := List.forall_mem_cons.mp each
      exact first.andThen (inductionHypothesis others)

/-- What moves behind a run moves on its own. -/
theorem Moves.behind {run : Run}
    (moves : Moves processor shift ((run.yield []).andThen later) other) :
    ∃ moved, Moves processor shift later moved ∧ other = (run.yield []).andThen moved := by
  rw [Run.yield_andThen, result_map_nil] at moves
  refine ⟨⟨other.result, later.assets, later.expansions⟩,
    ⟨moves.text, moves.stop, rfl, rfl⟩, ?_⟩
  rw [Run.yield_andThen, result_map_nil]
  exact Yield.ext rfl moves.assets moves.expansions

end Yield

namespace Processor

variable {processor : Processor} {first second : Text} {shift : Int} {start stop : Nat}

/-- An empty span comes to nothing. -/
theorem spanYield_empty (processor : Processor) (document : Text) {span : Span}
    (empty : span.textIn document = []) : processor.spanYield document span = .copied [] := by
  rw [spanYield, alone, empty]
  split
  · rfl
  · exact yield_finish_plain rfl span.start

/-- What a span that may be empty comes to. -/
theorem total_nonempty (processor : Processor) (document : Text) (kind : SpanKind)
    (ordered : start ≤ stop) :
    Yield.total ((Span.nonempty kind start stop).map (processor.spanYield document)) =
      processor.spanYield document ⟨kind, start, stop⟩ := by
  rcases Nat.lt_or_eq_of_le ordered with some_ | rfl
  · rw [Span.nonempty_of_lt kind some_, List.map_singleton, Yield.total_cons, Yield.total_nil,
      Yield.andThen_copied_nil]
  · have empty : Span.textIn ⟨kind, start, start⟩ document = [] := by
      rw [Span.textIn, Text.slice_eq_take, Nat.sub_self, List.take_zero]
    rw [Span.nonempty_self, processor.spanYield_empty document empty]
    rfl

/-- A span of the second paragraph comes to what it does there, but for the place of a failure. -/
theorem spanYield_moved (processor : Processor) (before text : Text) (span : Span) :
    Yield.Moves processor before.length (processor.spanYield text span)
      (processor.spanYield (before ++ text) (span.moved before.length)) := by
  have letters := Span.textIn_moved span before text
  have kind : (span.moved before.length).kind = span.kind := rfl
  rw [spanYield, spanYield, alone, alone, letters, kind]
  by_cases code : span.kind = .code
  · rw [if_pos code, if_pos code]
    exact Yield.Moves.refl_ok rfl
  · rw [if_neg code, if_neg code]
    have moves := Machine.yield_finish_moves processor (span.textIn text) span.start
      (span.moved before.length).start
    rwa [show ((span.moved before.length).start : Int) - span.start = before.length by
      simp only [Span.moved]; omega] at moves

/-- A literal span that ends a line and goes on behind it comes to what its two parts come to, if
the first of them succeeds and there are templates left for both. -/
theorem yield_region {before after output : Text} (base : Nat)
    (ended : (Machine.finish processor (Machine.ofDocument before base Run.start)).result =
      .ok output)
    (few : (Machine.finish processor (Machine.ofDocument before base Run.start)).run.expansions +
      (Machine.finish processor (Machine.ofDocument after 0 Run.start)).run.expansions ≤
        processor.settings.maxExpansions) :
    ∃ moved, Yield.Moves processor (base + (before.length + 1) : Nat)
        (Machine.finish processor (Machine.ofDocument after 0 Run.start)).yield moved ∧
      (Machine.finish processor
          (Machine.ofDocument (before ++ nextLine after) base Run.start)).yield =
        ((Machine.finish processor (Machine.ofDocument before base Run.start)).yield.andThen
          (.copied [.of '\n'])).andThen moved := by
  let whole := before ++ nextLine after
  let site := Site.ofDocument whole base
  let own := Machine.finish processor (Machine.ofDocument before base Run.start)
  let begun := Recursion.expand processor site 0 before Run.start
  let next := Recursion.expand processor site (0 + before.length + 1) after begun.run
  have length : whole.length = before.length + (after.length + 1) := List.length_append
  -- The first part comes to the same within the whole.
  have first : Yield.Moves processor (base + (0 : Nat) - base) own.yield begun.yield := by
    rw [Machine.yield_finish]
    exact Recursion.stretch_moves (by omega) base base ⟨rfl, rfl⟩
  have result : begun.result = .ok output := first.text output ended
  have same : own.yield = begun.run.yield output :=
    Yield.ext ended first.assets.symm first.expansions.symm
  -- The second part comes to the same behind it.
  have second : Yield.Moves processor (base + (before.length + 1) : Nat)
      ((begun.run.yield []).andThen
        (Machine.finish processor (Machine.ofDocument after 0 Run.start)).yield) next.yield := by
    have counted : begun.run.expansions = own.run.expansions := first.expansions
    have fits : before.length + 1 + after.length ≤ whole.length := by omega
    rw [← yield_finish_continued (Or.inl (by rw [counted]; exact few)), Machine.yield_finish,
      show ((base + (before.length + 1) : Nat) : Int) =
        base + (before.length + 1 : Nat) - (0 : Nat) by omega]
    simp only [next, Nat.zero_add]
    exact Recursion.stretch_moves fits 0 base ⟨rfl, rfl⟩
  obtain ⟨moved, moves, behind⟩ := second.behind
  have expanded : Recursion.expand processor site 0 whole Run.start =
      (next.after [.of '\n']).after output := Recursion.expand_line after result
  refine ⟨moved, moves, ?_⟩
  calc (Machine.finish processor (Machine.ofDocument whole base Run.start)).yield
      = (Yield.copied output).andThen ((Yield.copied [.of '\n']).andThen next.yield) := by
        rw [Machine.yield_finish, expanded, Machine.Outcome.yield_after,
          Machine.Outcome.yield_after]
    _ = (begun.run.yield output).andThen ((Yield.copied [.of '\n']).andThen moved) := by
        rw [behind]
        exact Yield.copied_andThen_run _ _ _ _
    _ = (own.yield.andThen (.copied [.of '\n'])).andThen moved := by
        rw [same, Yield.andThen_assoc]

/-- A span that ends a paragraph and goes on in the next one comes to what its two parts come to. -/
theorem spanYield_nextLine {kind : SpanKind} {output : Text} (bound : start ≤ first.length)
    (ended : (processor.spanYield first ⟨kind, start, first.length⟩).result = .ok output)
    (few : (processor.spanYield first ⟨kind, start, first.length⟩).expansions +
      (processor.spanYield second ⟨kind, 0, stop⟩).expansions ≤
        processor.settings.maxExpansions) :
    ∃ moved, Yield.Moves processor (first.length + 1 : Nat)
        (processor.spanYield second ⟨kind, 0, stop⟩) moved ∧
      processor.spanYield (first ++ nextLine second)
          ⟨kind, start, stop + (first.length + 1)⟩ =
        ((processor.spanYield first ⟨kind, start, first.length⟩).andThen
          (.copied [.of '\n'])).andThen moved := by
  have letters := Span.textIn_nextLine kind bound second stop
  by_cases code : kind = .code
  · have copied : (processor.spanYield second ⟨kind, 0, stop⟩).result =
        .ok (Span.textIn ⟨kind, 0, stop⟩ second) := by
      rw [spanYield_code code]
      rfl
    refine ⟨_, Yield.Moves.refl_ok copied, ?_⟩
    rw [spanYield_code code, spanYield_code code, spanYield_code code, letters,
      Yield.copied_andThen_copied, Yield.copied_andThen_copied]
    simp [nextLine]
  · have own (document : Text) (start stop : Nat) :
        processor.spanYield document ⟨kind, start, stop⟩ =
          (Machine.finish processor (Machine.ofDocument
            (Span.textIn ⟨kind, start, stop⟩ document) start Run.start)).yield :=
      if_neg code
    have size : (Span.textIn ⟨kind, start, first.length⟩ first).length = first.length - start :=
      Text.length_slice (Nat.le_refl _)
    rw [own] at ended few
    rw [own] at few
    obtain ⟨moved, moves, whole⟩ := yield_region start ended few
    rw [size, show start + (first.length - start + 1) = first.length + 1 by omega] at moves
    refine ⟨moved, by rw [own]; exact moves, ?_⟩
    rw [own, own, letters]
    exact whole

variable {output : Text}

/-- A span within a document comes to the same if more follows the document. -/
theorem spanYield_append {document : Text} {span : Span} (within : span.stop ≤ document.length)
    (more : Text) :
    processor.spanYield (document ++ more) span = processor.spanYield document span := by
  rw [spanYield, spanYield, alone, alone, Span.textIn_append within]

/-- The spans of a second paragraph come to what they do there, but for the place of a failure. -/
theorem total_moved (processor : Processor) (first second : Text) (spans : List Span) :
    Yield.Moves processor (first.length + 1 : Nat)
      (Yield.total (spans.map (processor.spanYield second)))
      (Yield.total ((spans.map (Span.moved (first.length + 1))).map
        (processor.spanYield (first ++ nextLine second)))) := by
  rw [List.map_map]
  apply Yield.Moves.total
  intro span _
  have moves := processor.spanYield_moved (first ++ [.of '\n']) second span
  rw [List.append_assoc, List.length_append, List.length_singleton] at moves
  exact moves

/-- What the spans of two paragraphs come to with a newline between them. -/
theorem spansYield_nextLine (standard : processor.settings.codeMarks = CodeMarks.standard)
    (closed : Span.openFence CodeMarks.standard none (Text.lines first) = none)
    (ended : (processor.spansYield first).result = .ok output)
    (few : (processor.spansYield first).expansions + (processor.spansYield second).expansions ≤
      processor.settings.maxExpansions) :
    ∃ moved, Yield.Moves processor (first.length + 1 : Nat) (processor.spansYield second) moved ∧
      processor.spansYield (first ++ nextLine second) =
        ((processor.spansYield first).andThen (.copied [.of '\n'])).andThen moved := by
  obtain ⟨before, kind, start, stop, after, bound, firstSpans, secondSpans, joined⟩ :=
    Span.scan_nextLine second closed
  have own : processor.spansYield first =
      (Yield.total (before.map (processor.spanYield first))).andThen
        (processor.spanYield first ⟨kind, start, first.length⟩) := by
    rw [spansYield, standard, firstSpans, List.map_append, Yield.total_append,
      processor.total_nonempty first kind bound]
  have other : processor.spansYield second =
      (processor.spanYield second ⟨kind, 0, stop⟩).andThen
        (Yield.total (after.map (processor.spanYield second))) := by
    rw [spansYield, standard, secondSpans, List.map_append, Yield.total_append,
      processor.total_nonempty second kind (Nat.zero_le stop)]
  have unchanged : before.map (processor.spanYield (first ++ nextLine second)) =
      before.map (processor.spanYield first) := by
    apply List.map_congr_left
    intro span member
    have inScan : span ∈ Span.scan CodeMarks.standard first :=
      firstSpans ▸ List.mem_append_left _ member
    exact spanYield_append (Span.stop_le_of_mem_scan inScan) (nextLine second)
  rw [own] at ended few ⊢
  rw [other] at few ⊢
  obtain ⟨⟨early, begun⟩, late, ends⟩ := Yield.ok_of_andThen ended
  have enough : (processor.spanYield first ⟨kind, start, first.length⟩).expansions +
      (processor.spanYield second ⟨kind, 0, stop⟩).expansions ≤
        processor.settings.maxExpansions := by
    have := (processor.spanYield second ⟨kind, 0, stop⟩).expansions_le_andThen
      (Yield.total (after.map (processor.spanYield second)))
    rw [Yield.andThen_ok begun] at few
    simp only at few
    omega
  obtain ⟨moved, moves, region⟩ := spanYield_nextLine bound ends enough
  refine ⟨moved.andThen _, moves.andThen (processor.total_moved first second after), ?_⟩
  rw [spansYield, standard, joined, List.map_append, List.map_cons, Yield.total_append,
    Yield.total_cons, unchanged, region]
  simp only [Yield.andThen_assoc]

/-- Two paragraphs with a newline between them come to what they come to one after the other, if
there are templates left for both. -/
theorem yield_nextLine (standard : processor.settings.codeMarks = CodeMarks.standard)
    (closed : Span.openFence CodeMarks.standard none (Text.lines first) = none)
    (ended : (processor.yield first).result = .ok output)
    (few : (processor.yield first).expansions + (processor.yield second).expansions ≤
      processor.settings.maxExpansions) :
    ∃ moved, Yield.Moves processor (first.length + 1 : Nat) (processor.yield second) moved ∧
      processor.yield (first ++ nextLine second) =
        ((processor.yield first).andThen (.copied [.of '\n'])).andThen moved := by
  have own : processor.yield first = processor.spansYield first :=
    yield_eq_spansYield (Or.inr (Nat.le_trans (Nat.le_add_right _ _) few))
  have other : processor.yield second = processor.spansYield second :=
    yield_eq_spansYield (Or.inr (Nat.le_trans (Nat.le_add_left _ _) few))
  rw [own] at ended few ⊢
  rw [other] at few ⊢
  obtain ⟨moved, moves, joined⟩ := spansYield_nextLine standard closed ended few
  refine ⟨moved, moves, ?_⟩
  rw [← joined]
  apply yield_eq_spansYield
  left
  have lineEnded : ((processor.spansYield first).andThen (.copied [.of '\n'])).result =
      .ok (output ++ [.of '\n']) := by
    rw [Yield.andThen_ok ended]
    rfl
  rw [joined, Yield.andThen_ok lineEnded, Yield.andThen_ok ended]
  simp only [moves.expansions, Yield.copied]
  exact few

/-- Paragraphs compose. If a first paragraph succeeds, leaves no fence open, and there are templates
left for a second one, then both with a newline between them come to what they come to on their own:
to the two texts with the newline between them and the first file of each path, or to the stop of
the second paragraph, as far further on as the first one and the newline are long. -/
theorem process_paragraphs {output : Output}
    (standard : processor.settings.codeMarks = CodeMarks.standard)
    (closed : Span.openFence CodeMarks.standard none (Text.lines first) = none)
    (ended : (processor.process first).result = .ok output)
    (few : (processor.yield first).expansions + (processor.yield second).expansions ≤
      processor.settings.maxExpansions) :
    (∀ later, (processor.process second).result = .ok later →
      (processor.process (first ++ .of '\n' :: second)).result =
        .ok ⟨output.text ++ .of '\n' :: later.text,
          FileAsset.merged output.assets later.assets⟩) ∧
    (processor.Plain → ∀ stop, (processor.process second).result = .error stop →
      (processor.process (first ++ .of '\n' :: second)).result =
        .error (stop.moved (first.length + 1 : Nat))) := by
  rw [process_yield] at ended
  obtain ⟨text, succeeded, rfl⟩ := exists_of_map_ok ended
  obtain ⟨moved, moves, joined⟩ := yield_nextLine standard closed succeeded few
  have begun : ((processor.yield first).andThen (.copied [.of '\n'])).result =
      .ok (text ++ [.of '\n']) := by
    rw [Yield.andThen_ok succeeded]
    rfl
  have whole : (processor.process (first ++ .of '\n' :: second)).result = _ :=
    process_yield processor (first ++ nextLine second)
  rw [joined, Yield.andThen_ok begun, Yield.andThen_ok succeeded] at whole
  constructor
  · intro later ended
    rw [process_yield] at ended
    obtain ⟨others, result, rfl⟩ := exists_of_map_ok ended
    rw [whole, moves.text others result, moves.assets]
    simp [Except.map, Yield.copied]
  · intro plain stop failed
    have result : (processor.yield second).result = .error stop := by
      rw [process_yield] at failed
      cases found : (processor.yield second).result with
      | ok text => rw [found] at failed; cases failed
      | error other => rw [found] at failed; cases failed; rfl
    obtain ⟨later, stopped, same⟩ := moves.stop stop result
    rw [whole, stopped, same plain]
    rfl

/-- A frame in a paragraph of its own. -/
theorem yield_framed (letter : Letter) (plain : letter ≠ '{')
    (scanned : Span.scan framing.settings.codeMarks (framed letter).render =
      [⟨.literal, 0, (framed letter).render.length⟩]) :
    (framing.yield (framed letter).render).result = .ok ['<', letter, '>'] ∧
      (framing.yield (framed letter).render).assets = [] ∧
      (framing.yield (framed letter).render).expansions ≤ 0 := by
  have resolved : (framed letter).Resolved framing brackets := ⟨⟨_, rfl, rfl⟩, trivial, trivial⟩
  have shallow : (framed letter).height ≤ framing.settings.maxExpansionDepth :=
    show 1 ≤ 64 by omega
  exact yield_render (framed_wellFormed plain) resolved scanned shallow (Nat.zero_le _)

/-- Two frames in paragraphs of their own, and a stray closer in a paragraph behind a frame. -/
theorem process_framedParagraphs :
    (framing.process ((framed 'a').render ++ .of '\n' :: (framed 'b').render)).result =
        .ok ⟨"<a>\n<b>", []⟩ ∧
      (framing.process ((framed 'a').render ++ .of '\n' :: closerForm "x")).result =
        .error (.failure ((Cause.mismatchedCloser none "x").placed 23)) := by
  have closed : Span.openFence CodeMarks.standard none (Text.lines (framed 'a').render) = none := by
    with_unfolding_all rfl
  obtain ⟨first, firstFiles, firstCount⟩ := yield_framed 'a' (by decide)
    (by with_unfolding_all rfl)
  obtain ⟨second, secondFiles, secondCount⟩ := yield_framed 'b' (by decide)
    (by with_unfolding_all rfl)
  have begun : (framing.process (framed 'a').render).result = .ok ⟨"<a>", []⟩ := by
    rw [process_yield, first, firstFiles]
    rfl
  have ended : (framing.process (framed 'b').render).result = .ok ⟨"<b>", []⟩ := by
    rw [process_yield, second, secondFiles]
    rfl
  have stray : framing.yield (closerForm "x") =
      ⟨.error (.failure ((Cause.mismatchedCloser none "x").placed 0)), [], 0⟩ := by
    have scanned : Span.scan framing.settings.codeMarks (closerForm "x") =
        [⟨.literal, 0, (closerForm "x").length⟩] := by with_unfolding_all rfl
    have read : Token.read 0 (closerForm "x") = .ok (some (.closer (Closer.named "x" 0))) := by
      with_unfolding_all rfl
    rw [yield_literal scanned]
    apply (congrArg Machine.Outcome.yield (Recursion.expand_closer read)).trans
    rfl
  constructor
  · exact (process_paragraphs rfl closed begun (Nat.le_trans (Nat.add_le_add firstCount secondCount)
      (Nat.zero_le _))).1 _ ended
  · have failed : (framing.process (closerForm "x")).result =
        .error (.failure ((Cause.mismatchedCloser none "x").placed 0)) := by
      rw [process_yield, stray]
      rfl
    have few : (framing.yield (framed 'a').render).expansions +
        (framing.yield (closerForm "x")).expansions ≤ framing.settings.maxExpansions := by
      rw [stray]
      exact Nat.le_trans firstCount (Nat.zero_le _)
    exact (process_paragraphs rfl closed begun few).2 framing_plain _ failed

/-- A backend that says itself where a drawing stands does not know of the paragraph before. -/
theorem process_pointingParagraphs :
    let processor := pointing 0
    let second := blackHead.written
    let stop : Stop := .failure ((Cause.stated "no").placed 0)
    processor.settings.codeMarks = CodeMarks.standard ∧
      Span.openFence CodeMarks.standard none (Text.lines [.of 'a']) = none ∧
      (processor.process [.of 'a']).result = .ok ⟨[.of 'a'], []⟩ ∧
      (processor.yield [.of 'a']).expansions + (processor.yield second).expansions ≤
        processor.settings.maxExpansions ∧
      (processor.process second).result = .error stop ∧
      (processor.process ([.of 'a'] ++ .of '\n' :: second)).result = .error stop ∧
      stop.moved (([.of 'a'] : Text).length + 1 : Nat) ≠ stop := by
  intro processor second stop
  have copied : processor.yield [.of 'a'] = .copied [.of 'a'] := by
    rw [yield_literal (by with_unfolding_all rfl), Recursion.expand_plain (by decide)]
    rfl
  have alone : processor.yield second = ⟨.error stop, [], 0⟩ :=
    yield_blackHead List.not_mem_nil (by with_unfolding_all rfl) (by decide)
  have behind : processor.yield ([.of 'a', .of '\n'] ++ second) = ⟨.error stop, [], 0⟩ :=
    yield_blackHead (by decide) (by with_unfolding_all rfl) (by decide)
  refine ⟨rfl, by with_unfolding_all rfl, ?_, ?_, ?_, ?_, by decide⟩
  · rw [process_yield, copied]
    rfl
  · rw [copied, alone]
    exact Nat.zero_le _
  · rw [process_yield, alone]
    rfl
  · show (processor.process ([.of 'a', .of '\n'] ++ second)).result = _
    rw [process_yield, behind]
    rfl

end Processor
end Flourish
