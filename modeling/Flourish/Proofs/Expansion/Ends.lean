/-
This file says how the decision about a tag ends. Main statement: what it draws has colors of the
palette, a failure suggests names that are known, and if the definitions of the registry are regular
it ends with no defect.
-/

import Flourish.Proofs.Failure.Advice
import Flourish.Proofs.Failure.Ends

namespace Flourish

/-- The palette knows this color by some name. -/
def Palette.Gives (palette : Palette) (color : Text) : Prop :=
  ∃ name, palette.lookup? name = some color

/-- All colors of the primitive are known to the palette. -/
def Primitive.ColoredBy (palette : Palette) (primitive : Primitive) : Prop :=
  ∀ color ∈ primitive.colors, palette.Gives color

def Move.ColoredBy (palette : Palette) (move : Move) : Prop :=
  ∀ primitive, move = .draw primitive → primitive.ColoredBy palette

/-- With regular definitions the stop is a failure, and a failure suggests names that are known. -/
structure Registry.Allows (registry : Registry) (stop : Stop) : Prop where
  failure : registry.Regular → ∃ failure, stop = .failure failure
  advises : ∀ failure, stop = .failure failure → failure.cause.Advises registry

variable {registry : Registry} {palette : Palette}

theorem Registry.allows_failure {failure : Failure} (advises : failure.cause.Advises registry) :
    registry.Allows (.failure failure) where
  failure _ := ⟨failure, rfl⟩
  advises := by
    rintro _ ⟨⟩
    exact advises

theorem Registry.allows_defect {defect : Defect} (irregular : ¬ registry.Regular) :
    registry.Allows (.defect defect) where
  failure regular := absurd regular irregular
  advises := nofun

/-- An error that is a failure is allowed. -/
theorem Ends.ofFailure {Value : Type} (result : Except Failure Value)
    (advises : ∀ failure, result = .error failure → failure.cause.Advises registry) :
    Ends (fun value => result = .ok value) registry.Allows (result.mapError .failure) := by
  cases result with
  | ok value => exact .ok rfl
  | error failure => exact .error (Registry.allows_failure (advises failure rfl))

namespace Component

theorem failed_ends {Value : Type} (good : Value → Prop) {cause : Cause}
    (advises : cause.Advises registry) : Ends good registry.Allows (failed cause) :=
  .error (Registry.allows_failure advises)

theorem argument_ends (palette : Palette) (entry : Entry ComponentBody) (arguments : List Text)
    {index : Nat} (counts : registry.Regular → index ≠ 0) :
    Ends (fun _ => True) registry.Allows (argument palette entry arguments index) := by
  unfold argument
  split
  · next zero =>
      split
      · exact .ok trivial
      · exact .error (Registry.allows_defect fun regular => counts regular zero)
  · split
    · exact .ok trivial
    · split
      · exact .ok trivial
      · exact failed_ends _ trivial

/-- As many arguments are found as are declared. -/
theorem allArguments_ends (registry : Registry) (palette : Palette)
    (entry : Entry ComponentBody) (arguments : List Text) :
    Ends (fun found => found.length = entry.body.arguments.length) registry.Allows
      (allArguments palette entry arguments) := by
  have each : ∀ index ∈ List.range' 1 entry.body.arguments.length,
      Ends (fun _ => True) registry.Allows (argument palette entry arguments index) := by
    intro index member
    have := (List.mem_range'_1.mp member).1
    exact argument_ends palette entry arguments fun _ => by omega
  refine (Ends.mapM _ each).mono fun found all => ?_
  rw [← all.length_eq, List.length_range']

theorem placeNumber_ends {digits : Text}
    (short : registry.Regular → digits.length ≤ Text.maximumDigits) :
    Ends (· = Text.decimalValue digits) registry.Allows (placeNumber digits) := by
  unfold placeNumber
  split
  · next long =>
      exact .error (Registry.allows_defect fun regular => absurd (short regular)
        (Nat.not_le_of_lt long))
  · exact .ok rfl

theorem fillPart_ends (palette : Palette) (entry : Entry ComponentBody)
    (arguments : List Text) {part : TemplatePart}
    (counts : registry.Regular → part.Counts) :
    Ends (fun _ => True) registry.Allows (fillPart palette entry arguments part) := by
  cases part with
  | letters text => exact .ok trivial
  | content => exact .ok trivial
  | argument digits =>
      refine (placeNumber_ends fun regular => (counts regular).1).bind ?_
      rintro index rfl
      exact (argument_ends palette entry arguments fun regular => (counts regular).2).bind
        fun value _ => .ok trivial

theorem substitute_ends (palette : Palette) {entry : Entry ComponentBody}
    (arguments : List Text) (content : Text) (numbered : registry.Regular → entry.body.Numbered) :
    Ends (fun _ => True) registry.Allows (substitute palette entry arguments content) := by
  have filled := Ends.mapM_all (Substitution.parts entry.body.template) fun part member =>
    fillPart_ends palette entry arguments fun regular => numbered regular part member
  rw [substitute_eq]
  exact filled.map fun _ _ => trivial

end Component

/-- A call is drawn by the handler that has the name of the component, with all its arguments. -/
def ComponentCall.Suits (entry : Entry ComponentBody) (call : ComponentCall) : Prop :=
  ∀ handler arguments parameters, call = .native handler arguments parameters →
    entry.body.native ∧ entry.id = handler.name ∧
      arguments.length = entry.body.arguments.length

namespace Component

theorem finished_ends (entry : Entry ComponentBody) (text : Text) (starts : List Nat)
    (postProcess : Option PostProcess) (parameters : Table Text) :
    Ends (ComponentCall.Suits entry) registry.Allows
      (finished text starts postProcess parameters) := by
  unfold finished
  split
  · split
    · next refused => exact .error (Registry.allows_failure (Transform.apply_advises refused))
    · exact .ok fun _ _ _ same => nomatch same
  · exact .ok fun _ _ _ same => nomatch same

theorem call_ends (palette : Palette) {entry : Entry ComponentBody} (tag : Tag) (content : Text)
    (numbered : registry.Regular → entry.body.Numbered) :
    Ends (ComponentCall.Suits entry) registry.Allows (call palette entry tag content) := by
  unfold call
  split
  · next refused => exact .error (Registry.allows_failure (mergedParameters_advises refused))
  · split
    · next native =>
        have found := allArguments_ends registry palette entry tag.arguments
        split
        · next stopped => exact .error (stopped ▸ found).fails
        · next resolved =>
            split
            · exact failed_ends _ trivial
            · next handler named =>
                refine .ok fun _ _ _ same => ?_
                cases same
                have name : handler.name = entry.id := by simpa using List.find?_some named
                exact ⟨native, name.symm, (resolved ▸ found).holds⟩
    · have filled := substitute_ends palette tag.arguments content numbered
      split
      · next stopped => exact .error (stopped ▸ filled).fails
      · exact finished_ends _ _ _ _ _

end Component

namespace NativeHandler

theorem required_ends (palette : Palette) (parameter value : Text) :
    Ends palette.Gives registry.Allows (required palette parameter value) := by
  refine (Ends.ofFailure _ fun _ => Palette.require_advises).mono fun color found => ⟨value, ?_⟩
  unfold Palette.require at found
  split at found <;> cases found
  assumption

theorem style_ends (parameters : Table Text) :
    Ends (fun _ => True) registry.Allows (style registry parameters) :=
  (Ends.ofFailure _ fun _ => Registry.shieldStyle_advises).mono fun _ _ => trivial

theorem colorList_ends (palette : Palette) (value : Text) :
    Ends (fun colors => ∀ color ∈ colors, palette.Gives color) registry.Allows
      (colorList palette value) :=
  Ends.mapM_all _ fun item _ => required_ends palette "colors" item

theorem first_ends {arguments : List Text} (given : registry.Regular → arguments ≠ []) :
    Ends (fun _ => True) registry.Allows (first arguments) := by
  cases arguments with
  | nil => exact .error (Registry.allows_defect fun regular => given regular rfl)
  | cons value rest => exact .ok trivial

theorem buildDivider_ends (parameters : Table Text) :
    Ends (Primitive.ColoredBy palette) registry.Allows
      (buildDivider registry palette parameters) := by
  refine (colorList_ends palette _).bind fun colors colored => ?_
  split
  · exact Component.failed_ends _ trivial
  · exact (style_ends parameters).bind fun style _ => .ok colored

/-- A component that is drawn takes its colors from the palette. -/
theorem build_ends (handler : NativeHandler) {arguments : List Text} (parameters : Table Text)
    (given : registry.Regular → handler ≠ .divider → arguments ≠ []) :
    Ends (Primitive.ColoredBy palette) registry.Allows
      (handler.build registry palette arguments parameters) := by
  cases handler with
  | divider => exact buildDivider_ends parameters
  | swatch =>
      exact (first_ends fun regular => given regular nofun).bind fun value _ =>
        (required_ends palette _ value).bind fun color gives =>
          (style_ends parameters).bind fun style _ => .ok (List.forall_mem_singleton.mpr gives)
  | tech =>
      exact (first_ends fun regular => given regular nofun).bind fun name _ =>
        (required_ends palette _ _).bind fun background gives =>
          (required_ends palette _ _).bind fun logo also =>
            (style_ends parameters).bind fun style _ =>
              .ok (List.forall_mem_cons.mpr ⟨gives, List.forall_mem_singleton.mpr also⟩)
  | status =>
      exact (first_ends fun regular => given regular nofun).bind fun level _ =>
        (style_ends parameters).bind fun style _ => .ok fun _ member => nomatch member

end NativeHandler

theorem Component.mem_of_resolve {tag : Tag} {context : Context} {entry : Entry ComponentBody}
    (resolved : resolve registry tag context = .ok entry) : entry ∈ registry.components := by
  unfold resolve at resolved
  split at resolved
  · cases resolved
  · next found =>
      split at resolved <;> cases resolved
      exact Registry.mem_of_require found

/-- What becomes of the call of a component has colors of the palette. -/
theorem Component.expandEntry_ends {entry : Entry ComponentBody} {tag : Tag} {content : Text}
    (member : entry ∈ registry.components) :
    Ends (fun output => (Dispatch.componentMove output).ColoredBy palette) registry.Allows
      (expandEntry registry palette entry tag content).result := by
  have called := call_ends palette tag content fun regular => regular.numbered entry member
  unfold expandEntry
  split
  · next stopped => exact .error (stopped ▸ called).fails
  · next handler arguments parameters drawn =>
      obtain ⟨native, named, count⟩ := (drawn ▸ called).holds handler arguments parameters rfl
      refine (NativeHandler.build_ends handler parameters fun regular other => ?_).map
        fun primitive colored _ same => by cases same; exact colored
      have declared := regular.supplied entry member native (by
        rw [named]
        cases handler with
        | divider => exact absurd rfl other
        | swatch => exact Or.inl rfl
        | tech => exact Or.inr (Or.inl rfl)
        | status => exact Or.inr (Or.inr rfl))
      rw [← List.length_pos_iff] at declared ⊢
      omega
  · exact .ok fun _ same => nomatch same

theorem Component.expandEntry_undrawn {entry : Entry ComponentBody} {tag : Tag} {content : Text}
    (primitive : Primitive) :
    .rendered primitive ∉ (expandEntry registry palette entry tag content).events := by
  unfold expandEntry
  split <;> simp

namespace Shield

open NativeHandler (required_ends colorList_ends)

theorem mandatory_ends (kind : ShieldKind) (given : Table Text) (name : Text) :
    Ends (fun _ => True) registry.Allows (mandatory kind given name) := by
  unfold mandatory
  split
  · exact Component.failed_ends _ trivial
  · exact .ok trivial

theorem buildStyled_ends (kind : ShieldKind) (given : Table Text) (style : Text) :
    Ends (Primitive.ColoredBy palette) registry.Allows
      (buildStyled palette kind given style) := by
  cases kind with
  | block =>
      exact (mandatory_ends _ given _).bind fun value _ =>
        (required_ends palette _ value).bind fun color gives =>
          .ok (List.forall_mem_singleton.mpr gives)
  | twoTone =>
      exact (mandatory_ends _ given _).bind fun value _ =>
        (required_ends palette _ value).bind fun left gives =>
          (mandatory_ends _ given _).bind fun value _ =>
            (required_ends palette _ value).bind fun right also =>
              .ok (List.forall_mem_cons.mpr ⟨gives, List.forall_mem_singleton.mpr also⟩)
  | bar =>
      exact (mandatory_ends _ given _).bind fun value _ =>
        (colorList_ends palette value).bind fun colors gives => .ok gives
  | icon =>
      exact (mandatory_ends _ given _).bind fun name _ =>
        (required_ends palette _ _).bind fun background gives =>
          (required_ends palette _ _).bind fun logo also =>
            .ok (List.forall_mem_cons.mpr ⟨gives, List.forall_mem_singleton.mpr also⟩)

/-- A shield takes its colors from the palette. -/
theorem build_ends (registry : Registry) (palette : Palette) (tag : Tag) :
    Ends (Primitive.ColoredBy palette) registry.Allows (build registry palette tag) := by
  unfold build
  split
  · exact Component.failed_ends _ nofun
  · split
    · exact Component.failed_ends _ trivial
    · split
      · next unknown => exact .error (Registry.allows_failure (Registry.shieldStyle_advises unknown))
      · exact buildStyled_ends _ _ _

end Shield

/-- A decision that draws nothing by itself, and ends with colors of the palette or with a stop that
is allowed. -/
structure Decision.Sane (processor : Processor) (decision : Decision) : Prop where
  undrawn : ∀ primitive, .rendered primitive ∉ decision.events
  ends : Ends (fun decided => decided.2.ColoredBy processor.palette) processor.registry.Allows
    decision.outcome

namespace Decision

variable {processor : Processor}

theorem stopped_sane {stop : Stop} (allowed : processor.registry.Allows stop) :
    (stopped stop).Sane processor :=
  ⟨fun _ => List.not_mem_nil, .error allowed⟩

theorem failed_sane {failure : Failure} (advises : failure.cause.Advises processor.registry) :
    (failed failure).Sane processor :=
  stopped_sane (Registry.allows_failure advises)

theorem refused_sane {cause : Cause} (advises : cause.Advises processor.registry) :
    (refused cause).Sane processor :=
  failed_sane advises

theorem moved_sane (extent : Extent) {move : Move} (colored : move.ColoredBy processor.palette) :
    (moved extent move).Sane processor :=
  ⟨fun _ => List.not_mem_nil, .ok colored⟩

end Decision

namespace Dispatch

open Decision

variable (processor : Processor) (opening : Opening) (tail : Text)

theorem component_sane : (component processor opening tail).Sane processor := by
  unfold component
  split
  · next unknown => exact failed_sane (Component.resolve_advises unknown)
  · next entry resolved =>
      split
      · next unclosed => exact failed_sane (extent_advises unclosed)
      · exact ⟨Component.expandEntry_undrawn,
          (Component.expandEntry_ends (Component.mem_of_resolve resolved)).map
            fun output colored => colored⟩

theorem frame_sane : (frame processor opening tail).Sane processor := by
  simp only [frame]
  split
  · exact refused_sane trivial
  · split
    · next unknown => exact failed_sane (Registry.require_advises .frame rfl unknown)
    · split
      · next unclosed => exact failed_sane (extent_advises unclosed)
      · exact moved_sane _ nofun

theorem badge_sane : (badge processor opening tail).Sane processor := by
  simp only [badge]
  split
  · exact refused_sane trivial
  · split
    · next unknown => exact failed_sane (Registry.require_advises .badge rfl unknown)
    · split
      · next unclosed => exact failed_sane (extent_advises unclosed)
      · split
        · exact moved_sane _ nofun
        · exact refused_sane trivial

theorem shield_sane : (shield processor opening tail).Sane processor := by
  have built := Shield.build_ends processor.registry processor.palette opening.tag
  simp only [shield]
  split
  · split
    · next failed => exact stopped_sane (failed ▸ built).fails
    · next primitive drawn =>
        split
        · next unclosed => exact failed_sane (extent_advises unclosed)
        · refine moved_sane _ fun _ same => ?_
          cases same
          exact (drawn ▸ built).holds
  · exact refused_sane trivial

theorem style_sane : (style processor opening tail).Sane processor := by
  simp only [style]
  split
  · next mismatched => exact failed_sane (Registry.resolveIn_advises mismatched)
  · next unknown =>
      unfold unknownStyle
      split
      · exact failed_sane
          (Registry.unknownIn_advises .style rfl (Registry.resolveIn_eq_none_iff.mp unknown))
      · exact refused_sane nofun
  · next entry resolved =>
      split
      · exact refused_sane trivial
      · split
        · exact refused_sane trivial
        · split
          · next refused => exact failed_sane (spread_advises refused)
          · split
            · next unclosed => exact failed_sane (extent_advises unclosed)
            · split
              · next broken =>
                  refine stopped_sane (Registry.allows_defect fun regular => ?_)
                  obtain ⟨written, converted⟩ := StyleBody.exists_spread
                    (regular.textual entry (Registry.mem_of_resolveIn resolved)) _ _
                  cases broken.symm.trans converted
              · exact moved_sane _ nofun

theorem partials_sane : (partials processor opening tail).Sane processor := by
  simp only [partials]
  split
  · next unknown => exact failed_sane (Registry.require_advises .partials rfl unknown)
  · split
    · next unclosed => exact failed_sane (extent_advises unclosed)
    · exact moved_sane _ nofun

/-- What is decided about a tag is drawn with colors of the palette. With regular definitions no
defect ends the decision. -/
theorem decide_sane : (decide processor opening tail).Sane processor := by
  unfold decide
  split
  · exact component_sane processor opening tail
  · exact frame_sane processor opening tail
  · exact badge_sane processor opening tail
  · exact shield_sane processor opening tail
  · exact style_sane processor opening tail
  · exact partials_sane processor opening tail

end Dispatch
end Flourish
