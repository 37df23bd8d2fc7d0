/-
This file says what the decision about a tag depends on. Main statement: it depends on the head of
the tag, on its size and on its content, and on nothing else in the text.
-/

import Flourish.Proofs.Expansion.Decision
import Flourish.Proofs.Tag.Moved

namespace Flourish.Dispatch

/-- A way to decide about tags with one head: either all are refused, or what becomes of a tag is
chosen by its size and its content. -/
inductive Reads (tag : Tag) (decide : Opening → Text → Decision) : Prop
  | refused (stop : Stop) (unplaced : stop.offset? = none)
      (same : ∀ opening tail, opening.tag = tag → decide opening tail = .stopped stop)
  | chosen (choose : Extent → Text → Decision)
      (same : ∀ opening tail, opening.tag = tag → decide opening tail =
        match extent opening tail with
        | .error failure => .failed failure
        | .ok size => choose size (size.contentIn tail))

/-- Ways to decide that agree about the tags with one head depend on the same. -/
theorem Reads.congr {tag : Tag} {decide other : Opening → Text → Decision} (reads : Reads tag other)
    (same : ∀ opening tail, opening.tag = tag → decide opening tail = other opening tail) :
    Reads tag decide := by
  cases reads with
  | refused stop unplaced refused =>
      refine .refused stop unplaced ?_
      intro opening tail head
      rw [same opening tail head, refused opening tail head]
  | chosen choose chosen =>
      refine .chosen choose ?_
      intro opening tail head
      rw [same opening tail head, chosen opening tail head]

variable (processor : Processor) (tag : Tag)

theorem component_reads : Reads tag (component processor) := by
  cases resolved : Component.resolve processor.registry tag processor.context with
  | error failure =>
      refine .refused (.failure failure) (Component.resolve_unplaced _ _ _ _ resolved) ?_
      rintro opening tail rfl
      simp only [component, resolved]
      rfl
  | ok entry =>
      refine .chosen (fun size content =>
        let expansion :=
          Component.expandEntry processor.registry processor.palette entry tag content
        ⟨expansion.events, expansion.result.map fun output => (size, componentMove output)⟩) ?_
      rintro opening tail rfl
      cases sized : extent opening tail <;> simp only [component, resolved, sized]

theorem frame_reads : Reads tag (frame processor) := by
  by_cases closed : tag.selfClosing
  · refine .refused (.failure (Cause.malformedTag (.frameWithoutContent tag.name)).unplaced) rfl ?_
    rintro opening tail rfl
    simp only [frame]
    exact if_pos closed
  · cases required : Registry.require .frame processor.registry.frames tag.name
        processor.context with
    | error failure =>
        refine .refused (.failure failure) (Registry.require_unplaced _ _ _ _ _ required) ?_
        rintro opening tail rfl
        simp only [frame, required]
        exact if_neg closed
    | ok entry =>
        refine .chosen (fun size _ =>
          .moved size (.expandContent (.surround entry.body.before entry.body.after))) ?_
        rintro opening tail rfl
        cases sized : extent opening tail <;>
          simp only [frame, required, if_neg closed, sized]

theorem badge_reads : Reads tag (badge processor) := by
  by_cases closed : tag.selfClosing
  · refine .refused (.failure (Cause.malformedTag (.badgeWithoutContent tag.name)).unplaced) rfl ?_
    rintro opening tail rfl
    simp only [badge]
    exact if_pos closed
  · cases required : Registry.require .badge processor.registry.badges tag.name
        processor.context with
    | error failure =>
        refine .refused (.failure failure) (Registry.require_unplaced _ _ _ _ _ required) ?_
        rintro opening tail rfl
        simp only [badge, required]
        exact if_neg closed
    | ok entry =>
        refine .chosen (fun size content => (enclosed? entry.body content).elim
          (.refused (.unsupportedLetter (wording ["badge '", entry.id, "'"]) content))
          fun glyph => .moved size (.write [glyph])) ?_
        rintro opening tail rfl
        cases sized : extent opening tail with
        | error failure => simp only [badge, required, if_neg closed, sized]
        | ok size =>
            cases enclosed : enclosed? entry.body (size.contentIn tail) <;>
              simp only [badge, required, if_neg closed, sized, enclosed, Option.elim_none,
                Option.elim_some]

theorem shield_reads : Reads tag (shield processor) := by
  by_cases closed : tag.selfClosing
  · cases built : Shield.build processor.registry processor.palette tag with
    | error stop =>
        refine .refused stop (Shield.build_unplaced _ _ _ _ built) ?_
        rintro opening tail rfl
        simp only [shield, built]
        exact if_pos closed
    | ok primitive =>
        refine .chosen (fun size _ => .moved size (.draw primitive)) ?_
        rintro opening tail rfl
        cases sized : extent opening tail <;> simp only [shield, built, if_pos closed, sized]
  · refine .refused (.failure (Cause.malformedTag (.shieldWithContent tag.name)).unplaced) rfl ?_
    rintro opening tail rfl
    simp only [shield]
    exact if_neg closed

theorem unknownStyle_unplaced : ∃ stop : Stop, stop.offset? = none ∧
    unknownStyle processor tag = .stopped stop := by
  unfold unknownStyle
  split
  · exact ⟨_, rfl, rfl⟩
  · exact ⟨_, rfl, rfl⟩

/-- A style tag of which the name is known. -/
theorem style_known_reads {entry : Entry StyleBody}
    (known : Registry.resolveIn processor.registry.styles tag.name processor.context =
      .ok (some entry)) : Reads tag (style processor) := by
  by_cases closed : tag.selfClosing
  · refine .refused (.failure (Cause.malformedTag (.styleWithoutContent tag.name)).unplaced) rfl ?_
    rintro opening tail rfl
    simp only [style, known]
    exact if_pos closed
  · by_cases given : !tag.arguments.isEmpty
    · refine .refused (.failure (Cause.malformedTag (.styleArguments tag.name)).unplaced) rfl ?_
      rintro opening tail rfl
      simp only [style, known]
      exact (if_neg closed).trans (if_pos given)
    · cases between : spread processor tag.parameters with
      | error failure =>
          refine .refused (.failure failure) (spread_unplaced _ _ _ between) ?_
          rintro opening tail rfl
          simp only [style, known, between]
          exact (if_neg closed).trans (if_neg given)
      | ok spread =>
          refine .chosen (fun size content =>
            ⟨[], ((Conversion.spread entry.body content spread).mapError Stop.defect).map
              fun text => (size, .write text)⟩) ?_
          rintro opening tail rfl
          cases sized : extent opening tail with
          | error failure => simp only [style, known, between, if_neg closed, if_neg given, sized]
          | ok size =>
              simp only [style, known, between, if_neg closed, if_neg given, sized]
              cases Conversion.spread entry.body (size.contentIn tail) spread <;> rfl

theorem style_reads : Reads tag (style processor) := by
  cases known : Registry.resolveIn processor.registry.styles tag.name processor.context with
  | error failure =>
      refine .refused (.failure failure) (Registry.resolveIn_unplaced _ _ _ _ known) ?_
      rintro opening tail rfl
      simp only [style, known]
      rfl
  | ok found =>
      cases found with
      | none =>
          obtain ⟨stop, unplaced, same⟩ := unknownStyle_unplaced processor tag
          refine .refused stop unplaced ?_
          rintro opening tail rfl
          simp only [style, known]
          exact same
      | some entry => exact style_known_reads processor tag known

theorem partials_reads : Reads tag (partials processor) := by
  cases required : Registry.require .partials processor.registry.partials tag.name
      processor.context with
  | error failure =>
      refine .refused (.failure failure) (Registry.require_unplaced _ _ _ _ _ required) ?_
      rintro opening tail rfl
      simp only [partials, required]
      rfl
  | ok entry =>
      refine .chosen (fun size content =>
        let filled := Substitution.fillPartial entry.body.template content
        .moved size (.expandTemplate filled.1 filled.2 .keep)) ?_
      rintro opening tail rfl
      cases sized : extent opening tail <;> simp only [partials, required, sized]

/-- What is decided about tags with one head is refused, or chosen by size and content. -/
theorem decide_reads : Reads tag (decide processor) := by
  -- The kind is part of the head, so it is the same for all these tags.
  cases kind : tag.kind with
  | ui =>
      apply (component_reads processor tag).congr
      rintro opening tail rfl
      simp only [decide, kind]
  | frame =>
      apply (frame_reads processor tag).congr
      rintro opening tail rfl
      simp only [decide, kind]
  | badge =>
      apply (badge_reads processor tag).congr
      rintro opening tail rfl
      simp only [decide, kind]
  | shields =>
      apply (shield_reads processor tag).congr
      rintro opening tail rfl
      simp only [decide, kind]
  | style =>
      apply (style_reads processor tag).congr
      rintro opening tail rfl
      simp only [decide, kind]
  | partials =>
      apply (partials_reads processor tag).congr
      rintro opening tail rfl
      simp only [decide, kind]

end Flourish.Dispatch
