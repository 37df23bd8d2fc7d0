/-
This file says what the decision about a tag tells. Main statements: a tag ends within its text
and its content ends before a closer, copies of the content stand where the decision says, and a
failure stands at the tag or at two braces behind it.
-/

import Flourish.Proofs.Failure.Ends
import Flourish.Proofs.Failure.Unplaced
import Flourish.Proofs.Substitution
import Flourish.Proofs.Tag.Found

namespace Flourish

/-- A tag whose head begins at `position` ends within its text, and its content ends before two
braces. -/
structure Extent.Fits (extent : Extent) (opening : Opening) (position : Nat) (tail : Text) :
    Prop where
  headStop : opening.headStop = position + 2 + extent.head
  size_le : extent.size ≤ tail.length
  closed : ∀ body, extent.body = some body → [.of '{', .of '{'] <+: tail.drop (extent.head + body.1)

namespace Dispatch

variable {opening : Opening} {tail : Text} {position : Nat} {extent : Extent} {failure : Failure}

theorem extent_fits
    (read : Token.read position (.of '{' :: .of '{' :: tail) = .ok (some (.opening opening)))
    (sized : Dispatch.extent opening tail = .ok extent) : extent.Fits opening position tail := by
  obtain ⟨start, above, below⟩ := Token.read_opening read
  simp only [List.length_cons] at below
  simp only [Dispatch.extent] at sized
  split at sized
  · cases sized
    refine ⟨?_, ?_, ?_⟩
    · show opening.headStop = position + 2 + (opening.headStop - opening.start - 2)
      omega
    · simp only [Extent.size, Extent.contentSize, Extent.closerSize, Option.map_none,
        Option.getD_none]
      omega
    · intro body same
      cases same
  · split at sized
    · cases sized
    · next closer found =>
        cases sized
        have sought := Closer.find_sought opening
          (tail.drop (opening.headStop - opening.start - 2)) opening.tag.closerPolicy
        rw [found] at sought
        obtain ⟨index, rfl, written⟩ := sought
        have fits := written.length_le
        rw [Closer.length_closerForm, List.length_drop, List.length_drop] at fits
        refine ⟨?_, ?_, ?_⟩
        · show opening.headStop = position + 2 + (opening.headStop - opening.start - 2)
          omega
        · simp only [Extent.size, Extent.contentSize, Extent.closerSize, Closer.named,
            Option.map_some, Option.getD_some]
          omega
        · intro body same
          cases same
          simp only [Closer.named, Nat.add_sub_cancel_left]
          rw [← List.drop_drop]
          exact List.IsPrefix.trans ⟨_, rfl⟩ written

/-- A tag whose closer is not found fails at its own head or at two braces behind it. -/
theorem extent_error
    (read : Token.read position (.of '{' :: .of '{' :: tail) = .ok (some (.opening opening)))
    (sized : Dispatch.extent opening tail = .error failure) :
    ∃ offset : Nat, failure.offset = some ((position + offset : Nat) : Int) ∧
      [.of '{', .of '{'] <+: (.of '{' :: .of '{' :: tail).drop offset := by
  obtain ⟨start, above, _⟩ := Token.read_opening read
  simp only [Dispatch.extent] at sized
  split at sized
  · cases sized
  · split at sized
    · next found =>
        cases sized
        have sought := Closer.find_sought opening
          (tail.drop (opening.headStop - opening.start - 2)) opening.tag.closerPolicy
        rw [found] at sought
        obtain ⟨offset, placed, rfl | ⟨index, rfl, braces⟩⟩ := sought
        · exact ⟨0, by rw [placed, start, Nat.add_zero], _, rfl⟩
        · refine ⟨opening.headStop - position + index, ?_, ?_⟩
          · rw [placed]
            congr 2
            omega
          · rw [List.drop_drop] at braces
            rw [show opening.headStop - position + index =
              (opening.headStop - opening.start - 2 + index) + 2 by omega]
            exact braces
    · cases sized

end Dispatch

/-- The text that a tag with this content gives rise to, and where the content stands in it. -/
def Move.opened? (content : Text) : Move → Option (Text × List Nat)
  | .write _ => none
  | .draw _ => none
  | .expandContent _ => some (content, [0])
  | .expandTemplate text contentStarts _ => some (text, contentStarts)

/-- A decision that knows where the tag ends and where its content goes. A failure to decide
stands at no known place, unless the closer is not found. -/
def Decision.Sound (opening : Opening) (tail : Text) (decision : Decision) : Prop :=
  match decision.outcome with
  | .ok (extent, move) =>
      Dispatch.extent opening tail = .ok extent ∧
        ∀ text starts, move.opened? (extent.contentIn tail) = some (text, starts) →
          Inserted (extent.contentIn tail) text starts
  | .error stop =>
      stop.offset? = none ∨
        ∃ failure, stop = .failure failure ∧ Dispatch.extent opening tail = .error failure

namespace Decision

variable {opening : Opening} {tail : Text} {extent : Extent} {failure : Failure}

theorem refused_sound (cause : Cause) : (refused cause).Sound opening tail :=
  Or.inl rfl

theorem failed_sound (unplaced : failure.offset = none) : (failed failure).Sound opening tail :=
  Or.inl unplaced

theorem unclosed_sound (sized : Dispatch.extent opening tail = .error failure) :
    (failed failure).Sound opening tail :=
  Or.inr ⟨failure, rfl, sized⟩

theorem written_sound (sized : Dispatch.extent opening tail = .ok extent) (text : Text) :
    (moved extent (.write text)).Sound opening tail :=
  ⟨sized, fun _ _ opened => nomatch opened⟩

end Decision

namespace Dispatch

open Decision

theorem finished_inserted {content text changed : Text} {starts places : List Nat}
    {postProcess later : Option PostProcess} {parameters others : Table Text}
    (inserted : Inserted content text starts)
    (finished : Component.finished text starts postProcess parameters =
      .ok (.template changed later others places)) : Inserted content changed places := by
  unfold Component.finished at finished
  split at finished
  · split at finished <;> cases finished
    exact Inserted.none content changed
  · cases finished
    exact inserted

/-- The content of a component stands in what its template becomes where the call says. -/
theorem call_inserted {palette : Palette} {entry : Entry ComponentBody} {tag : Tag}
    {content text : Text} {starts : List Nat} {postProcess : Option PostProcess}
    {parameters : Table Text}
    (called : Component.call palette entry tag content =
      .ok (.template text postProcess parameters starts)) : Inserted content text starts := by
  unfold Component.call at called
  split at called
  · cases called
  · split at called
    · split at called
      · cases called
      · split at called <;> cases called
    · rw [Component.substitute_eq] at called
      cases filling : Component.fill palette entry tag.arguments with
      | error stop => simp only [filling, Except.map, reduceCtorEq] at called
      | ok filled =>
          simp only [filling, Except.map] at called
          exact finished_inserted (Filled.inserted content filled) called

theorem componentMove_inserted {palette : Palette} {registry : Registry}
    {entry : Entry ComponentBody} {tag : Tag} {content text : Text} {starts : List Nat}
    {output : ComponentOutput}
    (expanded : (Component.expandEntry registry palette entry tag content).result = .ok output)
    (opened : (componentMove output).opened? content = some (text, starts)) :
    Inserted content text starts := by
  unfold Component.expandEntry at expanded
  split at expanded
  · cases expanded
  · obtain ⟨primitive, _, rfl⟩ := exists_of_map_ok expanded
    cases opened
  · next called =>
      cases expanded
      cases opened
      exact call_inserted called

theorem component_sound (processor : Processor) (opening : Opening) (tail : Text) :
    (component processor opening tail).Sound opening tail := by
  unfold component
  split
  · next failed => exact failed_sound (Component.resolve_unplaced _ _ _ _ failed)
  · split
    · next failed => exact unclosed_sound failed
    · next size sized =>
        simp only [Sound]
        split
        · next decided =>
            obtain ⟨output, expanded, same⟩ := exists_of_map_ok decided
            cases same
            exact ⟨sized, fun _ _ => componentMove_inserted expanded⟩
        · next stop decided =>
            exact Or.inl ((Component.expandEntry_unplaced _ _ _ _ _).map stop decided)

theorem frame_sound (processor : Processor) (opening : Opening) (tail : Text) :
    (frame processor opening tail).Sound opening tail := by
  simp only [frame]
  split
  · exact refused_sound _
  · split
    · next failed => exact failed_sound (Registry.require_unplaced _ _ _ _ _ failed)
    · split
      · next failed => exact unclosed_sound failed
      · next size sized =>
          refine ⟨sized, fun text starts opened => ?_⟩
          cases opened
          exact Inserted.whole _

theorem badge_sound (processor : Processor) (opening : Opening) (tail : Text) :
    (badge processor opening tail).Sound opening tail := by
  simp only [badge]
  split
  · exact refused_sound _
  · split
    · next failed => exact failed_sound (Registry.require_unplaced _ _ _ _ _ failed)
    · split
      · next failed => exact unclosed_sound failed
      · next size sized =>
          split
          · exact written_sound sized _
          · exact refused_sound _

theorem shield_sound (processor : Processor) (opening : Opening) (tail : Text) :
    (shield processor opening tail).Sound opening tail := by
  simp only [shield]
  split
  · split
    · next failed => exact Or.inl (Shield.build_unplaced _ _ _ _ failed)
    · split
      · next failed => exact unclosed_sound failed
      · next size sized => exact ⟨sized, fun _ _ opened => nomatch opened⟩
  · exact refused_sound _

theorem style_sound (processor : Processor) (opening : Opening) (tail : Text) :
    (style processor opening tail).Sound opening tail := by
  simp only [style]
  split
  · next failed => exact failed_sound (Registry.resolveIn_unplaced _ _ _ _ failed)
  · unfold unknownStyle
    split
    · exact Or.inl rfl
    · exact refused_sound _
  · split
    · exact refused_sound _
    · split
      · exact refused_sound _
      · split
        · next failed => exact failed_sound (spread_unplaced _ _ _ failed)
        · split
          · next failed => exact unclosed_sound failed
          · next size sized =>
              split
              · exact Or.inl rfl
              · exact written_sound sized _

theorem partials_sound (processor : Processor) (opening : Opening) (tail : Text) :
    (partials processor opening tail).Sound opening tail := by
  simp only [partials]
  split
  · next failed => exact failed_sound (Registry.require_unplaced _ _ _ _ _ failed)
  · split
    · next failed => exact unclosed_sound failed
    · next size sized =>
        refine ⟨sized, fun text starts opened => ?_⟩
        cases opened
        rw [Substitution.fillPartial_eq]
        exact Filled.inserted _ _

/-- What is decided about a tag is sound, whatever its kind. -/
theorem decide_sound (processor : Processor) (opening : Opening) (tail : Text) :
    (decide processor opening tail).Sound opening tail := by
  unfold decide
  split
  · exact component_sound processor opening tail
  · exact frame_sound processor opening tail
  · exact badge_sound processor opening tail
  · exact shield_sound processor opening tail
  · exact style_sound processor opening tail
  · exact partials_sound processor opening tail

end Dispatch
end Flourish
