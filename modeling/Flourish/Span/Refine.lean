/-
This file marks the tags inside literal spans, for editors and other tools.
-/

import Flourish.Region.Read
import Flourish.Span.Basic

namespace Flourish.Span

/-- A literal span, unless it is empty. -/
def literalFrom (start stop : Nat) : List Span :=
  if start < stop then [⟨.literal, start, stop⟩] else []

/-- The literal and tag spans of the part of a region that begins at `start`, of which the letters
before `position` are known to begin no token. A malformed head stays literal. -/
def refineFrom (region : Region) (start position : Nat) : Except Failure (List Span) :=
  match _ : region.find? [.of '{', .of '{'] position with
  | some place =>
      match _ : region.read place with
      | .ok (some token) =>
          (refineFrom region token.stop token.stop).map fun later =>
            literalFrom start place ++ ⟨.tag, place, token.stop⟩ :: later
      | .ok none => refineFrom region start (place + 1)
      | .error ⟨.malformedTag _, _⟩ => refineFrom region start (place + 1)
      | .error failure => .error failure
  | none => .ok (literalFrom start region.limit)
termination_by region.limit - position
decreasing_by
  all_goals
    have bounds := Region.find?_bounds ‹region.find? [.of '{', .of '{'] position = some _›
    simp only [List.length_cons, List.length_nil] at bounds
  any_goals omega
  have ahead := Region.lt_stop_of_read ‹region.read _ = .ok (some _)›
  omega

/-- What one step of the search for tokens does. -/
theorem refineFrom_step (region : Region) (start position : Nat) :
    refineFrom region start position =
      match region.find? [.of '{', .of '{'] position with
      | some place =>
          match region.read place with
          | .ok (some token) =>
              (refineFrom region token.stop token.stop).map fun later =>
                literalFrom start place ++ ⟨.tag, place, token.stop⟩ :: later
          | .ok none => refineFrom region start (place + 1)
          | .error ⟨.malformedTag _, _⟩ => refineFrom region start (place + 1)
          | .error failure => .error failure
      | none => .ok (literalFrom start region.limit) := by
  rw [refineFrom]
  split
  · next place found =>
      simp only [found]
      split
      · next met => simp only [met]
      · next met => simp only [met]
      · next met => simp only [met]
      · next failure other met => simp only [met]
  · next absent => rw [absent]

/-- The spans that stand for a span: a literal one is divided where it stands in the document, and
code stays as it is. -/
def refineSpan (document : Text) (span : Span) : Except Failure (List Span) :=
  match span.kind with
  | .literal => refineFrom ⟨document, span.stop⟩ span.start span.start
  | _ => .ok [span]

/-- The spans of a document with the tags in literal spans told apart. -/
def refine (document : Text) (spans : List Span) : Except Failure (List Span) :=
  (spans.mapM (refineSpan document)).map List.flatten

end Flourish.Span
