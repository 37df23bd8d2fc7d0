/-
This file follows an argument through a component. Main statements: a call sees of its argument what
it is resolved to, and a component that hands its argument on becomes the call of the next one with
that.
-/

import Flourish.Proofs.Component
import Flourish.Proofs.Palette.Settled
import Flourish.Proofs.Registry.Regular
import Flourish.Proofs.Tag.Positional

namespace Flourish

/-- A component whose template calls another one with the first argument. -/
structure ComponentBody.Forwards (body : ComponentBody) (next : Text) : Prop where
  closes : body.selfClosing = true
  templated : body.native = false
  untransformed : body.postProcess = none
  template : body.template = callForm next "$1"

namespace Palette

variable {palette : Palette} {color value : Text}

theorem IsColor.isName (isColor : IsColor color) : Tag.IsName color := by
  refine ⟨?_, fun letter member => forall_isHexDigit (fun letter => Tag.isNameLetter letter)
    (by decide) (isColor.digits letter member)⟩
  rintro rfl
  exact absurd isColor.1 (by decide)

/-- What an argument is resolved to is an argument again. -/
theorem Settled.isPositional (settled : palette.Settled) (positional : Tag.IsPositional value) :
    Tag.IsPositional (palette.resolved value) := by
  rcases settled.stable.resolved_cases value with kept | isColor
  · rwa [kept]
  · exact isColor.isName.isPositional

end Palette

namespace Substitution

/-- A template with one place for the first argument has the parts around the place. -/
theorem parts_first {before after : Text} (plainBefore : .of '$' ∉ before)
    (plainAfter : .of '$' ∉ after)
    (ends : after.takeWhile Text.isDecimal = []) :
    parts (before ++ .of '$' :: .of '1' :: after) =
      [.letters before, .argument "1", .letters after] := by
  have last := partsFrom_letters plainAfter [] []
  rw [List.append_nil, List.append_nil, partsFrom] at last
  have digits : (.of '1' :: after).takeWhile Text.isDecimal = [.of '1'] := by
    rw [List.takeWhile_cons_of_pos (by decide), ends]
  have mark : contentMark.isPrefixOf (.of '$' :: .of '1' :: after) = false := by
    rw [contentMark_letters]
    rfl
  rw [parts, partsFrom_letters plainBefore, List.append_nil, partsFrom, mark]
  simp only [Bool.false_eq_true, if_false, if_true, digits, List.isEmpty_cons,
    List.length_singleton, List.drop_one, List.tail_cons, last, List.reverse_reverse]
  rfl

end Substitution

namespace Component

variable {registry : Registry} {palette : Palette} {entry : Entry ComponentBody} {next : Text}

section Resolved

variable {first second : List Text}
  (same : first.map palette.resolved = second.map palette.resolved)
include same

/-- Of its arguments a call sees what they are resolved to. -/
theorem argument_resolved : argument palette entry first = argument palette entry second := by
  have each (place : Nat) :
      first[place]?.map palette.resolved = second[place]?.map palette.resolved := by
    rw [← List.getElem?_map, same, List.getElem?_map]
  have last : first.getLast?.map palette.resolved = second.getLast?.map palette.resolved := by
    rw [← List.getLast?_map, same, List.getLast?_map]
  funext index
  unfold argument
  split
  · cases found : first.getLast? <;> cases other : second.getLast? <;> simp_all
  · have here := each (index - 1)
    cases found : first[index - 1]? <;> cases other : second[index - 1]? <;> simp_all

theorem fillPart_resolved : fillPart palette entry first = fillPart palette entry second := by
  funext part
  cases part with
  | letters text => rfl
  | content => rfl
  | argument digits => simp only [fillPart, argument_resolved same]

end Resolved

theorem expandEntry_resolved {tag other : Tag}
    (same : tag.arguments.map palette.resolved = other.arguments.map palette.resolved)
    (parameters : tag.parameters = other.parameters) (content : Text) :
    expandEntry registry palette entry tag content =
      expandEntry registry palette entry other content := by
  simp only [expandEntry, call, parameters, allArguments, argument_resolved same, substitute_eq,
    fill, fillPart_resolved same]

/-- What becomes of a call depends on what its argument is resolved to. -/
theorem expand_resolved {first second : Text}
    (same : palette.resolved first = palette.resolved second) (name content : Text)
    (context : Context) :
    expand registry palette (Tag.call name first) content context =
      expand registry palette (Tag.call name second) content context := by
  have resolved : resolve registry (Tag.call name first) context =
      resolve registry (Tag.call name second) context := rfl
  have listed : (Tag.call name first).arguments.map palette.resolved =
      (Tag.call name second).arguments.map palette.resolved := by
    simp only [Tag.call, List.map_singleton, same]
  unfold expand
  rw [resolved]
  cases resolve registry (Tag.call name second) context with
  | error failure => rfl
  | ok entry => exact expandEntry_resolved listed rfl content

/-- The template of a component that forwards becomes the call of the next one with what its
argument is resolved to. -/
theorem substitute_forwards {argument : Text} (forwards : entry.body.Forwards next)
    (isName : Tag.IsName next) (content : Text) :
    substitute palette entry [argument] content =
      .ok (callForm next (palette.resolved argument), []) := by
  let before : Text := .of '{' :: .of '{' :: (("ui:" : Text) ++ (next ++ [.of ':']))
  let after : Text := [.of '/', .of '}', .of '}']
  have form (value : Text) : callForm next value = before ++ (value ++ after) := by
    simp [callForm, selfClosingForm, before, after]
  have noPlace : .of '$' ∉ next := Tag.not_mem_of_isNameLetter isName.2 rfl
  have noParameter : .of '=' ∉ next := Tag.not_mem_of_isNameLetter isName.2 rfl
  have parts : Substitution.parts entry.body.template =
      [.letters before, .argument "1", .letters after] := by
    rw [forwards.template, form]
    exact Substitution.parts_first (by simp [before, noPlace]) (by decide) (by decide)
  have keptBefore : palette.resolvedRefs before = before :=
    palette.resolvedRefs_of_not_mem (by simp [before, noParameter])
  have keptAfter : palette.resolvedRefs after = after :=
    palette.resolvedRefs_of_not_mem (by decide)
  have filled : fill palette entry [argument] =
      .ok [.letters before, .letters (palette.resolved argument), .letters after] := by
    rw [fill, parts]
    simp only [List.mapM_cons, List.mapM_nil, fillPart, keptBefore, keptAfter]
    rfl
  rw [substitute_eq, filled, form]
  simp [Except.map, Filled.text, Filled.starts]

/-- A component that forwards becomes the call of the next one with what its argument is resolved
to. -/
theorem expand_forwards {name argument : Text} {context : Context}
    (known : Registry.require .component registry.components name context = .ok entry)
    (forwards : entry.body.Forwards next) (isName : Tag.IsName next) (content : Text) :
    (expand registry palette (Tag.call name argument) content context).result =
      .ok (.template (callForm next (palette.resolved argument)) none entry.body.parameters
        []) := by
  have resolved : resolve registry (Tag.call name argument) context = .ok entry := by
    simp only [resolve, Tag.call, known, forwards.closes, if_true]
  have called : call palette entry (Tag.call name argument) content =
      .ok (.template (callForm next (palette.resolved argument)) none entry.body.parameters
        []) := by
    have merged : mergedParameters entry (Tag.call name argument).parameters =
        .ok entry.body.parameters := rfl
    have substituted : substitute palette entry (Tag.call name argument).arguments content = _ :=
      substitute_forwards forwards isName content
    simp only [call, merged, forwards.templated, Bool.false_eq_true, if_false, substituted,
      finished, forwards.untransformed]
  simp only [expand, resolved, expandEntry, called]

theorem call_native (native : entry.body.native = true) (tag : Tag) (content : Text)
    {text : Text} {postProcess : Option PostProcess} {parameters : Table Text}
    {starts : List Nat} :
    call palette entry tag content ≠ .ok (.template text postProcess parameters starts) := by
  intro same
  simp only [call, native, if_true] at same
  split at same
  · cases same
  · split at same
    · cases same
    · split at same <;> cases same

/-- A component without a template becomes a primitive, if anything. -/
theorem expand_native {name : Text} (found : Entry.find? registry.components name = some entry)
    (native : entry.body.native = true) (argument content : Text) (context : Context)
    {output : ComponentOutput}
    (ended : (expand registry palette (Tag.call name argument) content context).result =
      .ok output) : ∃ primitive, output = .primitive primitive := by
  have resolved {other : Entry ComponentBody}
      (known : resolve registry (Tag.call name argument) context = .ok other) : other = entry := by
    unfold resolve at known
    split at known
    · cases known
    · next required =>
        split at known <;> cases known
        exact Option.some.inj ((Registry.find?_of_require required).symm.trans found)
  unfold expand at ended
  split at ended
  · cases ended
  · next other known =>
      rw [resolved known] at ended
      unfold expandEntry at ended
      split at ended
      · cases ended
      · next handler arguments parameters _ =>
          cases built : handler.build registry palette arguments parameters with
          | error stop =>
              rw [built] at ended
              cases ended
          | ok primitive =>
              rw [built] at ended
              cases ended
              exact ⟨primitive, rfl⟩
      · next called => exact absurd called (call_native native _ _)

end Component

end Flourish
