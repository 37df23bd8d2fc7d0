/-
This file compares the two ways to draw a bar of colors: by a shield and by a component. Main
statement: both draw one bar or both refuse the value of a parameter, except for a list of blank
items, for which the shield alone draws a bar, one without colors.
-/

import Flourish.Proofs.Color

namespace Flourish

open Component (failed)
open NativeHandler (parameter)

/-- A stop at a parameter whose value is not accepted. -/
def Stop.RefusesValue (stop : Stop) : Prop :=
  ∃ parameter value fault, stop = .failure (Cause.invalidParameter parameter value fault).unplaced

/-- A list of colors in which something is written, but no color. -/
def Text.IsBlankList (value : Text) : Prop :=
  value ≠ [] ∧ ∀ item ∈ fields ',' value, trim item = []

namespace Divider

variable {registry : Registry} {palette : Palette} {tag : Tag} {parameters : Table Text}

/-- A shield for a bar has the colors and the style of a component, and no other parameters. -/
structure SameCall (tag : Tag) (parameters : Table Text) : Prop where
  name : tag.name = ShieldKind.bar.name
  known : ∀ entry ∈ tag.parameters, entry.1 ∈ ShieldKind.bar.parameters
  colors : tag.parameters.find? "colors" = parameters.find? "colors"
  style : tag.parameters.find? "style" = parameters.find? "style"

/-- Both draw one bar, which has a color, or both refuse the value of a parameter. -/
inductive Alike : Except Stop Primitive → Except Stop Primitive → Prop
  | drawn {colors : List Text} {style : Text} (colored : colors ≠ []) :
      Alike (.ok (.divider colors style)) (.ok (.divider colors style))
  | refused {first second : Stop} (firstRefuses : first.RefusesValue)
      (secondRefuses : second.RefusesValue) : Alike (.error first) (.error second)

theorem required_refuses (parameter value : Text) :
    Ends (fun _ => True) Stop.RefusesValue (NativeHandler.required palette parameter value) := by
  unfold NativeHandler.required Palette.require
  split
  · exact .ok trivial
  · exact .error ⟨_, _, _, rfl⟩

theorem style_refuses (registry : Registry) (parameters : Table Text) :
    Ends (fun style => registry.shieldStyle (parameters.find? "style") = .ok style)
      Stop.RefusesValue (NativeHandler.style registry parameters) := by
  unfold NativeHandler.style Registry.shieldStyle
  split
  · exact .ok rfl
  · exact .ok rfl
  · split
    · exact .ok rfl
    · exact .error ⟨_, _, _, rfl⟩

/-- A list of colors is empty exactly if all its items are blank. -/
theorem colorList_refuses (palette : Palette) (value : Text) :
    Ends (fun colors => colors = [] ↔ ∀ item ∈ Text.fields ',' value, Text.trim item = [])
      Stop.RefusesValue (NativeHandler.colorList palette value) := by
  refine (Ends.mapM _ fun item _ => required_refuses "colors" item).mono fun colors found => ?_
  rw [← List.length_eq_zero_iff, ← found.length_eq, List.length_eq_zero_iff,
    List.filter_eq_nil_iff]
  simp

/-- The shield looks at the style first, and then only asks that something is written. -/
theorem build_bar (same : SameCall tag parameters) :
    Shield.build registry palette tag =
      (NativeHandler.style registry parameters).bind fun style =>
        if parameter parameters "colors" = [] then
          failed (.invalidParameter "colors" [] (.requiredByShield ShieldKind.bar.name))
        else
          (NativeHandler.colorList palette (parameter parameters "colors")).bind fun colors =>
            .ok (.divider colors style) := by
  have kind : ShieldKind.ofName? tag.name = some .bar := by
    rw [same.name]
    rfl
  have known : List.find? (fun entry => !ShieldKind.bar.parameters.contains entry.1)
      tag.parameters = none := by
    rw [List.find?_eq_none]
    intro entry member
    simpa using same.known entry member
  have colors : parameter tag.parameters "colors" = parameter parameters "colors" :=
    congrArg (·.getD []) same.colors
  rw [Shield.build, kind]
  dsimp only
  rw [known, NativeHandler.style, same.style]
  cases registry.shieldStyle (parameters.find? "style") with
  | error failure => rfl
  | ok style =>
      show Shield.buildStyled palette .bar tag.parameters style = ite _ _ _
      rw [Shield.buildStyled, Shield.mandatory, colors]
      cases parameter parameters "colors" <;> rfl

/-- The component looks at the style last, and asks for a color. -/
theorem buildDivider_eq : NativeHandler.buildDivider registry palette parameters =
    (NativeHandler.colorList palette (parameter parameters "colors")).bind fun colors =>
      if colors.isEmpty then
        failed (.invalidParameter "colors" (parameter parameters "colors") .noColors)
      else
        (NativeHandler.style registry parameters).bind fun style => .ok (.divider colors style) :=
  rfl

/-- The two ways to draw a bar agree unless a list is blank and the style is known. -/
theorem alike_of_not_blank (same : SameCall tag parameters)
    (written : (parameter parameters "colors").IsBlankList →
      ∀ style, registry.shieldStyle (parameters.find? "style") ≠ .ok style) :
    Alike (Shield.build registry palette tag)
      (NativeHandler.buildDivider registry palette parameters) := by
  have styled := style_refuses registry parameters
  have listed := colorList_refuses palette (parameter parameters "colors")
  rw [build_bar same, buildDivider_eq]
  cases styleFound : NativeHandler.style registry parameters with
  | error stop =>
      have refuses := (styleFound ▸ styled).fails
      cases colorsFound : NativeHandler.colorList palette (parameter parameters "colors") with
      | error other => exact .refused refuses (colorsFound ▸ listed).fails
      | ok colors =>
          cases colors with
          | nil => exact .refused refuses ⟨_, _, _, rfl⟩
          | cons color others => exact .refused refuses refuses
  | ok style =>
      by_cases empty : parameter parameters "colors" = []
      · rw [empty]
        exact .refused ⟨_, _, _, rfl⟩ ⟨_, _, _, rfl⟩
      · show Alike (ite _ _ _) _
        rw [if_neg empty]
        cases colorsFound : NativeHandler.colorList palette (parameter parameters "colors") with
        | error other =>
            have refuses := (colorsFound ▸ listed).fails
            exact .refused refuses refuses
        | ok colors =>
            have blank := (colorsFound ▸ listed).holds
            cases colors with
            | nil =>
                exact absurd (styleFound ▸ styled).holds (written ⟨empty, blank.mp rfl⟩ style)
            | cons color others => exact .drawn (List.cons_ne_nil _ _)

/-- A list of blank items is a bar without colors for the shield, and refused by the component. -/
theorem blank_drawn {style : Text} (same : SameCall tag parameters)
    (known : registry.shieldStyle (parameters.find? "style") = .ok style)
    (blank : (parameter parameters "colors").IsBlankList) :
    Shield.build registry palette tag = .ok (.divider [] style) ∧
      NativeHandler.buildDivider registry palette parameters =
        failed (.invalidParameter "colors" (parameter parameters "colors") .noColors) := by
  have colors : NativeHandler.colorList palette (parameter parameters "colors") = .ok [] := by
    have none : (Text.fields ',' (parameter parameters "colors")).filter
        (fun item => !(Text.trim item).isEmpty) = [] := by
      rw [List.filter_eq_nil_iff]
      simpa using blank.2
    rw [NativeHandler.colorList, none]
    rfl
  rw [build_bar same, buildDivider_eq, colors, NativeHandler.style, known]
  constructor
  · show ite _ _ _ = _
    rw [if_neg blank.1]
    rfl
  · rfl

end Divider

namespace Dispatch

variable {processor : Processor} {opening : Opening} {tail : Text} {extent : Extent}
  {primitive : Primitive}

/-- Only shield tags and components are drawn. -/
theorem undrawn (notComponent : opening.tag.kind ≠ .ui)
    (notShield : opening.tag.kind ≠ .shields) :
    (decide processor opening tail).outcome ≠ .ok (extent, .draw primitive) := by
  cases kind : opening.tag.kind with
  | ui => exact absurd kind notComponent
  | shields => exact absurd kind notShield
  | frame | badge | style | partials =>
      simp only [decide, kind, frame, badge, style, unknownStyle, partials]
      repeat' split
      all_goals exact fun drawn => by cases drawn

theorem shield_built
    (drawn : (shield processor opening tail).outcome = .ok (extent, .draw primitive)) :
    Shield.build processor.registry processor.palette opening.tag = .ok primitive := by
  simp only [shield] at drawn
  split at drawn
  · split at drawn
    · cases drawn
    · next built =>
        split at drawn <;> cases drawn
        exact built
  · cases drawn

theorem component_built
    (drawn : (component processor opening tail).outcome = .ok (extent, .draw primitive)) :
    ∃ handler : NativeHandler, ∃ arguments parameters,
      handler.build processor.registry processor.palette arguments parameters = .ok primitive := by
  unfold component at drawn
  split at drawn
  · cases drawn
  · split at drawn
    · cases drawn
    · next entry _ _ size _ =>
        dsimp only [Component.expandEntry] at drawn
        split at drawn
        · cases drawn
        · next handler arguments parameters _ =>
            refine ⟨handler, arguments, parameters, ?_⟩
            generalize handler.build processor.registry processor.palette arguments parameters =
              built at drawn ⊢
            cases built <;> cases drawn
            rfl
        · cases drawn

/-- What is drawn was built by a shield tag or by a component without a template. -/
theorem built_of_draw
    (drawn : (decide processor opening tail).outcome = .ok (extent, .draw primitive)) :
    (opening.tag.kind = .shields ∧
      Shield.build processor.registry processor.palette opening.tag = .ok primitive) ∨
    ∃ handler : NativeHandler, ∃ arguments parameters,
      handler.build processor.registry processor.palette arguments parameters = .ok primitive := by
  by_cases componentTag : opening.tag.kind = .ui
  · rw [decide, componentTag] at drawn
    exact Or.inr (component_built drawn)
  · by_cases shieldTag : opening.tag.kind = .shields
    · rw [decide, shieldTag] at drawn
      exact Or.inl ⟨shieldTag, shield_built drawn⟩
    · exact absurd drawn (undrawn componentTag shieldTag)

end Dispatch

/-- No component is drawn as a bar without colors. -/
theorem NativeHandler.build_colored (handler : NativeHandler) (registry : Registry)
    (palette : Palette) (arguments : List Text) (parameters : Table Text) :
    Ends (fun primitive => ∀ style, primitive ≠ .divider [] style) (fun _ => True)
      (handler.build registry palette arguments parameters) := by
  cases handler with
  | divider =>
      refine (Ends.self _).bind fun colors _ => ?_
      cases colors with
      | nil => exact .error trivial
      | cons color others => exact (Ends.self _).bind fun _ _ => .ok nofun
  | swatch =>
      exact (Ends.self _).bind fun _ _ => (Ends.self _).bind fun _ _ =>
        (Ends.self _).bind fun _ _ => .ok nofun
  | tech =>
      exact (Ends.self _).bind fun _ _ => (Ends.self _).bind fun _ _ =>
        (Ends.self _).bind fun _ _ => (Ends.self _).bind fun _ _ => .ok nofun
  | status =>
      exact (Ends.self _).bind fun _ _ => (Ends.self _).bind fun _ _ => .ok nofun

/-- Of the shields only the bar is drawn as a bar of colors. -/
theorem Shield.name_of_divider {registry : Registry} {palette : Palette} {tag : Tag}
    {colors : List Text} {style : Text}
    (built : build registry palette tag = .ok (.divider colors style)) :
    tag.name = ShieldKind.bar.name := by
  unfold build at built
  split at built
  · cases built
  · next kind named =>
      have name : kind.name = tag.name := by simpa using List.find?_some named
      split at built
      · cases built
      · split at built
        · cases built
        · next style _ =>
            suffices Ends (fun primitive => ∀ colors style, primitive = .divider colors style →
                kind = .bar) (fun _ => True)
                (buildStyled palette kind tag.parameters style) by
              rw [built] at this
              rw [← name, this.holds _ _ rfl]
            cases kind with
            | block =>
                exact (Ends.self _).bind fun _ _ => (Ends.self _).bind fun _ _ => .ok nofun
            | twoTone =>
                exact (Ends.self _).bind fun _ _ => (Ends.self _).bind fun _ _ =>
                  (Ends.self _).bind fun _ _ => (Ends.self _).bind fun _ _ => .ok nofun
            | bar =>
                exact (Ends.self _).mono fun _ _ _ _ _ => rfl
            | icon =>
                exact (Ends.self _).bind fun _ _ => (Ends.self _).bind fun _ _ =>
                  (Ends.self _).bind fun _ _ => .ok nofun

namespace Processor

/-- A bar without colors is drawn for a shield. -/
theorem dispatched_of_colorless {processor : Processor} {document style : Text}
    (drawn : .rendered (.divider [] style) ∈ (processor.process document).events) :
    ∃ offset, .dispatched "shields:bar" offset ∈ (processor.process document).events := by
  obtain ⟨_, offset, dispatched, opening, tail, extent, rfl, decided⟩ :=
    decided_of_process drawn
  rcases Dispatch.built_of_draw decided with ⟨shield, built⟩ |
    ⟨handler, arguments, parameters, built⟩
  · have space : opening.tag.space = some .shields := by
      rw [Tag.kind] at shield
      cases written : opening.tag.space <;> rw [written] at shield <;> cases shield
      rfl
    refine ⟨offset, ?_⟩
    rwa [Tag.displayName, space, Shield.name_of_divider built] at dispatched
  · exact absurd rfl
      ((built ▸ handler.build_colored processor.registry processor.palette arguments
        parameters).holds style)

open Divider in
/-- A shield and a component with the same colors and the same style draw one bar, which has a
color, or both refuse the value of a parameter. The exception is a list of blank items with a known
style: the component refuses it, and the shield draws a bar without colors. Nothing but such a
shield is drawn without colors. -/
theorem alike_unless_blank (processor : Processor) :
    (∀ tag parameters, SameCall tag parameters →
      let shield := Shield.build processor.registry processor.palette tag
      let component :=
        NativeHandler.buildDivider processor.registry processor.palette parameters
      let value := parameter parameters "colors"
      let style := processor.registry.shieldStyle (parameters.find? "style")
      ((∀ known, style = .ok known → ¬ value.IsBlankList) → Alike shield component) ∧
      ∀ known, style = .ok known → value.IsBlankList →
        shield = .ok (.divider [] known) ∧
          component = failed (.invalidParameter "colors" value .noColors)) ∧
    ∀ document style, .rendered (.divider [] style) ∈ (processor.process document).events →
      ∃ offset, .dispatched "shields:bar" offset ∈ (processor.process document).events := by
  refine ⟨fun tag parameters same => ⟨fun written => ?_, fun style known blank => ?_⟩,
    fun document style drawn => dispatched_of_colorless drawn⟩
  · exact alike_of_not_blank same fun blank style known => written style known blank
  · exact blank_drawn same known blank

/-- A shield tag for a bar of these colors. -/
def barTag (colors : Text) : Tag :=
  ⟨some .shields, "bar", [], [("colors", colors)], true, none⟩

/-- A document with one bar of a list of blank items. -/
def blankBar : Text :=
  selfClosingForm "shields:bar:colors=,"

theorem sameCall_barTag (colors : Text) :
    Divider.SameCall (barTag colors) [("colors", colors)] where
  name := rfl
  known := List.forall_mem_singleton.mpr List.mem_cons_self
  colors := rfl
  style := rfl

theorem process_blankBar (color : Text) : .rendered (.divider [] "flat-square") ∈
    ((accenting color).process blankBar).events := by
  have stepped (run : Run) : Machine.step (accenting color) (Machine.ofDocument blankBar 0 run) =
      .next ⟨(Job.ofDocument blankBar 0).advanced [] [] 25, [],
        (run.log (.dispatched "shields:bar" 0)).log (.rendered (.divider [] "flat-square"))⟩ := by
    with_unfolding_all rfl
  exact rendered_of_step (by with_unfolding_all rfl) (by with_unfolding_all rfl) stepped

/-- Blank items around a color are left out by both, and a bar without colors is a shield's. -/
theorem alike_accentBar :
    Divider.SameCall (barTag ",accent, ") [("colors", ",accent, ")] ∧
      ¬ Text.IsBlankList ",accent, " ∧
      Divider.Alike
        (Shield.build (accenting "F41C80").registry (accenting "F41C80").palette
          (barTag ",accent, "))
        (NativeHandler.buildDivider (accenting "F41C80").registry (accenting "F41C80").palette
          [("colors", ",accent, ")]) ∧
      ∃ offset, .dispatched "shields:bar" offset ∈
        ((accenting "F41C80").process blankBar).events := by
  have colored : ¬ Text.IsBlankList ",accent, " := by
    rintro ⟨_, blank⟩
    exact absurd (blank "accent" (by decide)) (by decide)
  have agree := alike_unless_blank (accenting "F41C80")
  exact ⟨sameCall_barTag _, colored,
    (agree.1 _ _ (sameCall_barTag ",accent, ")).1 fun _ _ => colored,
    agree.2 blankBar "flat-square" (process_blankBar "F41C80")⟩

/-- A list of one comma is a bar without colors for the shield, which the backend is asked to draw.
The component refuses it. -/
theorem not_alike_blankBar :
    Divider.SameCall (barTag ",") [("colors", ",")] ∧
      Shield.build (accenting "F41C80").registry (accenting "F41C80").palette (barTag ",") =
        .ok (.divider [] "flat-square") ∧
      NativeHandler.buildDivider (accenting "F41C80").registry (accenting "F41C80").palette
          [("colors", ",")] =
        failed (.invalidParameter "colors" "," .noColors) ∧
      .rendered (.divider [] "flat-square") ∈ ((accenting "F41C80").process blankBar).events :=
  ⟨sameCall_barTag _, by with_unfolding_all rfl, by with_unfolding_all rfl,
    process_blankBar "F41C80"⟩

end Processor
end Flourish
