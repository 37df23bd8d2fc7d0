/-
This file expands a text at two places. Main statement: a text comes to the same wherever it stands,
and a failure moves along with it.
-/

import Flourish.Proofs.Expansion.Reads
import Flourish.Proofs.Expansion.Segment
import Flourish.Proofs.Expansion.Unfold
import Flourish.Proofs.Expansion.Yield

namespace Flourish

def Stop.moved (shift : Int) : Stop → Stop
  | .failure found => .failure (found.moved shift)
  | .defect found => .defect found

/-- Two yields that differ in nothing but the place of a failure. -/
structure Yield.Moves (processor : Processor) (shift : Int) (yield other : Yield) : Prop where
  text : ∀ text, yield.result = .ok text → other.result = .ok text
  stop : ∀ stop, yield.result = .error stop →
    ∃ later, other.result = .error later ∧ (processor.Plain → later = stop.moved shift)
  assets : other.assets = yield.assets
  expansions : other.expansions = yield.expansions

/-- Two runs that have the same files and have counted as many templates. -/
structure Run.Matches (run other : Run) : Prop where
  assets : other.assets = run.assets
  expansions : other.expansions = run.expansions

/-- The letters of a stretch have moved by `shift` in the document, by `letters` in their text. -/
structure Site.Moves (shift : Int) (letters position size : Nat) (site other : Site) : Prop where
  depth : other.depth = site.depth
  source : ∀ index < size, Segment.sourceOf? other.segments (position + letters + index : Nat) =
    (Segment.sourceOf? site.segments (position + index : Nat)).map (· + shift)
  offset : ∀ index < size,
    other.offsetOf (position + letters + index : Nat) =
      site.offsetOf (position + index : Nat) + shift

namespace Dispatch

variable {processor : Processor} {opening : Opening} {tail : Text}

/-- What is decided about a tag moves along with it. -/
theorem decide_moved (processor : Processor) (opening : Opening) (tail : Text) (letters : Nat) :
    (decide processor (opening.moved letters) tail = decide processor opening tail ∧
      ∀ stop, (decide processor opening tail).outcome = .error stop → stop.offset? = none) ∨
    ∃ failure, extent opening tail = .error failure ∧
      decide processor opening tail = .failed failure ∧
      decide processor (opening.moved letters) tail = .failed (failure.moved letters) := by
  cases decide_reads processor opening.tag with
  | refused stop unplaced same =>
      left
      rw [same opening tail rfl, same (opening.moved letters) tail rfl]
      refine ⟨rfl, ?_⟩
      intro other outcome
      cases outcome
      exact unplaced
  | chosen choose same =>
      have sound := decide_sound processor opening tail
      have here := same opening tail rfl
      have there := same (opening.moved letters) tail rfl
      rw [extent_moved] at there
      cases sized : extent opening tail with
      | error failure =>
          rw [sized] at here there
          exact Or.inr ⟨failure, rfl, here, there⟩
      | ok size =>
          left
          rw [sized] at here there
          refine ⟨there.trans here.symm, ?_⟩
          intro stop outcome
          simp only [Decision.Sound, outcome] at sound
          rcases sound with unplaced | ⟨failure, _, unsized⟩
          · exact unplaced
          · cases unsized.symm.trans sized

end Dispatch

namespace Site.Moves

variable {shift : Int} {letters position size : Nat} {site other : Site}

theorem drop (moves : Moves shift letters position size site other) {count rest : Nat}
    (fits : count + rest ≤ size) : Moves shift letters (position + count) rest site other := by
  refine ⟨moves.depth, ?_, ?_⟩
  · intro index within
    have there := moves.source (count + index) (by omega)
    rwa [show position + letters + (count + index) = position + count + letters + index by omega,
      ← Nat.add_assoc] at there
  · intro index within
    have there := moves.offset (count + index) (by omega)
    rwa [show position + letters + (count + index) = position + count + letters + index by omega,
      ← Nat.add_assoc] at there

/-- A stop that stands at no known place moves along with its tag. -/
theorem placed (moves : Moves shift letters position size site other) (here : 0 < size)
    {stop : Stop} (unplaced : stop.offset? = none) :
    other.placed (position + letters) stop = (site.placed position stop).moved shift := by
  cases stop with
  | defect defect => rfl
  | failure failure =>
      have nowhere : failure.offset = none := unplaced
      have offset := moves.offset 0 here
      rw [Nat.add_zero, Nat.add_zero] at offset
      simp only [Site.placed, nowhere, Option.getD_none, offset]
      rfl

/-- A failure that stands at a letter moves along with it. -/
theorem placed_at (moves : Moves shift letters position size site other) {failure : Failure}
    {index : Nat} (within : index < size)
    (placed : failure.offset = some ((position + index : Nat) : Int)) :
    other.placed (position + letters) (.failure (failure.moved letters)) =
      (site.placed position (.failure failure)).moved shift := by
  have offset := moves.offset index within
  have later : (failure.moved letters).offset =
      some ((position + letters + index : Nat) : Int) := by
    simp only [Failure.moved, placed, Option.map_some, Option.some.injEq]
    omega
  simp only [Site.placed, placed, later, Option.getD_some, offset]
  rfl

theorem sourceOf_copies_moved {segments others : List Segment} {bodyStart size : Nat}
    (source : ∀ index < size, Segment.sourceOf? others (bodyStart + letters + index : Nat) =
      (Segment.sourceOf? segments (bodyStart + index : Nat)).map (· + shift))
    (starts : List Nat) (place : Int) :
    Segment.sourceOf? (Segment.copies others (bodyStart + letters) size starts) place =
      (Segment.sourceOf? (Segment.copies segments bodyStart size starts) place).map
        (· + shift) := by
  induction starts with
  | nil => rfl
  | cons copy rest inductionHypothesis =>
      rw [Segment.sourceOf_copies_cons, Segment.sourceOf_copies_cons, inductionHypothesis,
        Option.map_or]
      congr 1
      by_cases inside : (copy : Int) ≤ place ∧ place < copy + size
      · rw [if_pos inside, if_pos inside]
        have there := source (place - copy).toNat (by omega)
        rwa [show ((bodyStart + letters + (place - copy).toNat : Nat) : Int) =
            place - copy + ((bodyStart + letters : Nat) : Int) by omega,
          show ((bodyStart + (place - copy).toNat : Nat) : Int) = place - copy + bodyStart
            by omega] at there
      · rw [if_neg inside, if_neg inside]
        rfl

/-- A text that a tag gives rise to does not move in its own place. -/
theorem child (moves : Moves shift letters position size site other) {opening : Opening}
    {extent : Extent} {tail : Text} (fits : extent.Fits opening position tail)
    (whole : tail.length + 2 ≤ size) (starts : List Nat) (later : Nat) :
    Moves shift 0 0 later (site.child position extent opening.headStop starts)
      (other.child (position + letters) extent (opening.moved letters).headStop starts) := by
  have within := fits.size_le
  have headStop := fits.headStop
  have source (place : Int) : Segment.sourceOf? (other.child (position + letters) extent
      (opening.moved letters).headStop starts).segments place =
        (Segment.sourceOf? (site.child position extent opening.headStop starts).segments place).map
          (· + shift) := by
    cases body : extent.body with
    | none => simp only [Site.child, body]; rfl
    | some content =>
        simp only [Site.child, body]
        refine sourceOf_copies_moved (fun index inContent => ?_) starts place
        simp only [Extent.size, Extent.contentSize, body, Option.map_some, Option.getD_some]
          at within
        have there := moves.source (2 + extent.head + index) (by omega)
        rwa [show position + letters + (2 + extent.head + index) =
            opening.headStop + letters + index by omega,
          show position + (2 + extent.head + index) = opening.headStop + index by omega] at there
  have origin : (other.child (position + letters) extent (opening.moved letters).headStop
      starts).origin = (site.child position extent opening.headStop starts).origin + shift := by
    have here := moves.offset 0 (by omega)
    rwa [Nat.add_zero, Nat.add_zero] at here
  refine ⟨congrArg (· + 1) moves.depth, fun index _ => source _, ?_⟩
  intro index _
  rw [Site.offsetOf, Site.offsetOf, Nat.add_zero, source, origin]
  cases Segment.sourceOf? _ _ <;> rfl

end Site.Moves

namespace Machine.Outcome

variable {processor : Processor} {shift : Int} {outcome other : Outcome} {run later : Run}

theorem stopped_moves {stop moved : Stop} (same : processor.Plain → moved = stop.moved shift)
    (matching : run.Matches later) :
    Yield.Moves processor shift (stopped stop run).yield (stopped moved later).yield where
  text _ ended := nomatch ended
  stop _ ended := ⟨moved, rfl, fun plain => by cases ended; exact same plain⟩
  assets := matching.assets
  expansions := matching.expansions

theorem ok_moves (text : Text) (matching : run.Matches later) :
    Yield.Moves processor shift (yield ⟨.ok text, run⟩) (yield ⟨.ok text, later⟩) where
  text _ ended := ended
  stop _ ended := nomatch ended
  assets := matching.assets
  expansions := matching.expansions

theorem matches_of_moves (moves : Yield.Moves processor shift outcome.yield other.yield) :
    outcome.run.Matches other.run :=
  ⟨moves.assets, moves.expansions⟩

theorem after_moves (moves : Yield.Moves processor shift outcome.yield other.yield) (text : Text) :
    Yield.Moves processor shift (outcome.after text).yield (other.after text).yield := by
  have matching := matches_of_moves moves
  rcases outcome with ⟨result, run⟩
  rcases other with ⟨moved, later⟩
  cases result with
  | error stop =>
      obtain ⟨_, rfl, same⟩ := moves.stop stop rfl
      exact stopped_moves same matching
  | ok output =>
      obtain rfl : moved = .ok output := moves.text output rfl
      exact ok_moves _ matching

theorem andThen_moves {next following : Run → Outcome}
    (moves : Yield.Moves processor shift outcome.yield other.yield)
    (rest : outcome.run.Matches other.run →
      Yield.Moves processor shift (next outcome.run).yield (following other.run).yield) :
    Yield.Moves processor shift (outcome.andThen next).yield (other.andThen following).yield := by
  have matching := matches_of_moves moves
  rcases outcome with ⟨result, run⟩
  rcases other with ⟨moved, later⟩
  cases result with
  | error stop =>
      obtain ⟨_, rfl, same⟩ := moves.stop stop rfl
      exact stopped_moves same matching
  | ok output =>
      obtain rfl : moved = .ok output := moves.text output rfl
      exact after_moves (rest matching) output

theorem finished_moves {site there : Site} (origin : there.origin = site.origin + shift)
    (finish : Finish) (moves : Yield.Moves processor shift outcome.yield other.yield) :
    Yield.Moves processor shift (outcome.finished site finish).yield
      (other.finished there finish).yield := by
  have matching := matches_of_moves moves
  rcases outcome with ⟨result, run⟩
  rcases other with ⟨moved, later⟩
  cases result with
  | error stop =>
      obtain ⟨_, rfl, same⟩ := moves.stop stop rfl
      exact stopped_moves same matching
  | ok output =>
      obtain rfl : moved = .ok output := moves.text output rfl
      cases applied : finish.apply output with
      | error failure =>
          simp only [finished, applied]
          refine stopped_moves (fun _ => ?_) matching
          rw [origin]
          rfl
      | ok text =>
          simp only [finished, applied]
          exact ok_moves text ⟨matching.assets, matching.expansions⟩

end Machine.Outcome

namespace Recursion

open Machine (Outcome)
open Machine.Outcome (stopped_moves ok_moves after_moves andThen_moves finished_moves)

variable {processor : Processor} {shift : Int} {letters position size : Nat} {site other : Site}
  {run later : Run} {opening : Opening} {extent : Extent} {tail : Text}

theorem Matches.collect (matching : run.Matches later) (asset : Asset) :
    (run.collect asset).Matches (later.collect asset) := by
  cases asset with
  | markdown text => exact matching
  | file asset =>
      rw [Run.collect_file, Run.collect_file]
      exact ⟨by simp only [matching.assets], matching.expansions⟩

theorem drawn_moves (moves : site.Moves shift letters position size other) (here : 0 < size)
    (matching : run.Matches later) (primitive : Primitive) :
    Yield.Moves processor shift (drawn processor site position primitive run).yield
      (drawn processor other (position + letters) primitive later).yield := by
  have logged : (run.log (.rendered primitive)).Matches (later.log (.rendered primitive)) :=
    ⟨matching.assets, matching.expansions⟩
  cases rendered : processor.renderer primitive with
  | error fault =>
      cases fault with
      | refused failure =>
          simp only [drawn, rendered]
          exact stopped_moves (fun plain => moves.placed here (plain _ _ rendered)) logged
      | broken kind message =>
          simp only [drawn, rendered]
          exact stopped_moves (fun _ => moves.placed here rfl) logged
  | ok asset =>
      simp only [drawn, rendered]
      exact ok_moves _ (Matches.collect logged asset)

/-- Whole texts at a depth come to the same wherever the document they were taken from stands. -/
def Steady (processor : Processor) (shift : Int) (depth : Nat) : Prop :=
  ∀ {first second : Site} (text : Text) {run later : Run}, first.depth = depth →
    first.Moves shift 0 0 text.length second → run.Matches later →
      Yield.Moves processor shift (expand processor first 0 text run).yield
        (expand processor second 0 text later).yield

/-- The texts of a tag at two places come to the same, if texts one level deeper do. -/
theorem opened_moves (moves : site.Moves shift letters position size other)
    (fits : extent.Fits opening position tail) (whole : tail.length + 2 ≤ size)
    (matching : run.Matches later) (text : Text) (starts : List Nat) (finish : Finish)
    (inner : ¬ processor.settings.maxExpansionDepth < site.depth + 1 →
      Steady processor shift (site.depth + 1)) :
    Yield.Moves processor shift
      (opened processor site position opening extent text starts finish run).yield
      (opened processor other (position + letters) (opening.moved letters) extent text starts
        finish later).yield := by
  have here : 0 < size := by omega
  by_cases deep : processor.settings.maxExpansionDepth < site.depth + 1
  · rw [opened, if_pos deep, opened, moves.depth, if_pos deep]
    exact stopped_moves (fun _ => moves.placed here rfl) matching
  · rw [opened, if_neg deep, opened, moves.depth, if_neg deep]
    have origin := moves.offset 0 here
    rw [Nat.add_zero, Nat.add_zero] at origin
    refine finished_moves origin finish
      (inner deep text rfl (moves.child fits whole starts text.length) ?_)
    exact ⟨matching.assets, matching.expansions⟩

/-- What takes the place of a tag is the same at two places, if its texts come to the same. -/
theorem replacement_moves (moves : site.Moves shift letters position size other)
    (fits : extent.Fits opening position tail) (whole : tail.length + 2 ≤ size)
    (matching : run.Matches later) (content : Text) (move : Move)
    (inner : ¬ processor.settings.maxExpansionDepth < site.depth + 1 →
      Steady processor shift (site.depth + 1)) :
    Yield.Moves processor shift
      (replacement processor site position opening extent content run move).yield
      (replacement processor other (position + letters) (opening.moved letters) extent content
        later move).yield := by
  have here : 0 < size := by omega
  cases move with
  | write output => exact ok_moves output matching
  | draw primitive => exact drawn_moves moves here matching primitive
  | expandContent finish =>
      exact opened_moves moves fits whole matching content [0] finish inner
  | expandTemplate text starts finish =>
      have same : (counted run).Matches (counted later) :=
        ⟨matching.assets, congrArg (· + 1) matching.expansions⟩
      simp only [replacement, same.expansions]
      split
      · exact stopped_moves (fun _ => moves.placed here rfl) same
      · exact opened_moves moves fits whole same text starts finish inner

/-- A tag and the text behind it come to the same at two places, if the texts of the tag and the
text behind it do. -/
theorem expand_opening_moves
    (moves : site.Moves shift letters position (.of '{' :: .of '{' :: tail).length other)
    (matching : run.Matches later)
    (read : Token.read position (.of '{' :: .of '{' :: tail) = .ok (some (.opening opening)))
    (inner : ¬ processor.settings.maxExpansionDepth < site.depth + 1 →
      Steady processor shift (site.depth + 1))
    (outer : ∀ (size : Nat) {run later : Run}, size ≤ tail.length → run.Matches later →
      Yield.Moves processor shift
        (expand processor site (position + (size + 2)) (tail.drop size) run).yield
        (expand processor other (position + letters + (size + 2)) (tail.drop size) later).yield) :
    Yield.Moves processor shift
      (expand processor site position (.of '{' :: .of '{' :: tail) run).yield
      (expand processor other (position + letters) (.of '{' :: .of '{' :: tail) later).yield := by
  have here : 0 < (.of '{' :: .of '{' :: tail).length := Nat.succ_pos _
  have moved := Token.read_moved position letters (.of '{' :: .of '{' :: tail)
  rw [read] at moved
  have known : (decided site position opening (Dispatch.decide processor opening tail) run).Matches
      (decided other (position + letters) (opening.moved letters)
        (Dispatch.decide processor (opening.moved letters) tail) later) :=
    ⟨matching.assets, matching.expansions⟩
  rcases Dispatch.decide_moved processor opening tail letters with
    ⟨same, unplaced⟩ | ⟨failure, unsized, first, second⟩
  · cases outcome : (Dispatch.decide processor opening tail).outcome with
    | error stop =>
        rw [expand_refused read outcome, expand_refused moved (same.symm ▸ outcome)]
        exact stopped_moves (fun _ => moves.placed here (unplaced stop outcome)) known
    | ok chosen =>
        have sound := Dispatch.decide_sound processor opening tail
        simp only [Decision.Sound, outcome] at sound
        have fits := Dispatch.extent_fits read sound.1
        rw [expand_tag read outcome, expand_tag moved (same.symm ▸ outcome)]
        exact andThen_moves
          (replacement_moves moves fits (Nat.le_refl _) known _ _ inner)
          (outer chosen.1.size fits.size_le)
  · have outcome : (Dispatch.decide processor opening tail).outcome =
        .error (.failure failure) := by
      rw [first]
      rfl
    have laterOutcome : (Dispatch.decide processor (opening.moved letters) tail).outcome =
        .error (.failure (failure.moved letters)) := by
      rw [second]
      rfl
    obtain ⟨index, placed, braces⟩ := Dispatch.extent_error read unsized
    have within : index < (.of '{' :: .of '{' :: tail).length := by
      have := braces.length_le
      rw [List.length_drop] at this
      simp only [List.length_cons, List.length_nil] at this ⊢
      omega
    rw [expand_refused read outcome, expand_refused moved laterOutcome]
    exact stopped_moves (fun _ => moves.placed_at within placed) known

/-- A text comes to the same at two places, and a failure moves along with it. -/
theorem expand_moves {site other : Site} {letters position : Nat} {text : Text} {run later : Run}
    (moves : site.Moves shift letters position text.length other) (matching : run.Matches later) :
    Yield.Moves processor shift (expand processor site position text run).yield
      (expand processor other (position + letters) text later).yield := by
  match whole : text, moves with
  | [], moves =>
      rw [expand, expand]
      exact ok_moves [] matching
  | letter :: rest, moves =>
      have here : 0 < (letter :: rest).length := Nat.succ_pos _
      have moved := Token.read_moved position letters (letter :: rest)
      cases read : Token.read position (letter :: rest) with
      | error failure =>
          rw [read] at moved
          rw [expand_error read, expand_error moved]
          exact stopped_moves (fun _ => moves.placed_at here (Token.read_error read).1) matching
      | ok found =>
          rw [read] at moved
          rcases found with _ | opening | closer
          · rw [expand_letter read, expand_letter moved, Nat.add_right_comm]
            refine after_moves (expand_moves (moves.drop (Nat.le_of_eq ?_)) matching) [letter]
            rw [List.length_cons, Nat.add_comm]
          · have outer (size : Nat) {run later : Run} (fits : size + 1 ≤ rest.length)
                (same : run.Matches later) : Yield.Moves processor shift
                  (expand processor site (position + (size + 2)) (rest.drop (size + 1)) run).yield
                  (expand processor other (position + letters + (size + 2))
                    (rest.drop (size + 1)) later).yield := by
              rw [Nat.add_right_comm]
              refine expand_moves (moves.drop ?_) same
              simp only [List.length_drop, List.length_cons]
              omega
            obtain ⟨tail, rfl, rfl⟩ := cons_of_braces (Token.braces_of_read read)
            refine expand_opening_moves moves matching read ?_ ?_
            · intro shallow first second text run later depth inside same
              exact expand_moves inside same
            · exact fun size _ _ fits same => outer size (Nat.succ_le_succ fits) same
          · rw [expand_closer read, expand_closer moved]
            exact stopped_moves (fun _ => moves.placed here rfl) matching
termination_by (processor.settings.maxExpansionDepth - site.depth, text.length)
decreasing_by
  · exact Prod.Lex.right _ (Nat.lt_succ_self _)
  · exact Prod.Lex.right _ (by simp only [List.length_drop, List.length_cons]; omega)
  · exact Prod.Lex.left _ _ (by omega)

end Recursion
end Flourish
