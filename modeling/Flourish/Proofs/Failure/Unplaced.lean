/-
This file shows that look-ups, calls and transforms fail at no known place. A failure is placed by
the job whose tag asked for them.
-/

import Flourish.Expansion.Dispatch

namespace Flourish

/-- Where a stop stands, if that is known. -/
def Stop.offset? : Stop → Option Int
  | .failure found => found.offset
  | .defect _ => none

/-- The errors of a computation stand at no known place. -/
def Unplaced {Error Value : Type} (offset : Error → Option Int) (result : Except Error Value) :
    Prop :=
  ∀ error, result = .error error → offset error = none

namespace Unplaced

variable {Error Value Other : Type} {offset : Error → Option Int}

theorem ok (value : Value) : Unplaced offset (.ok value) := by
  intro error same
  cases same

theorem error {error : Error} (unplaced : offset error = none) :
    Unplaced offset (.error error : Except Error Value) := by
  intro other same
  cases same
  exact unplaced

theorem bind {first : Except Error Value} {next : Value → Except Error Other}
    (before : Unplaced offset first) (after : ∀ value, Unplaced offset (next value)) :
    Unplaced offset (first >>= next) := by
  cases first with
  | error error => exact Unplaced.error (before error rfl)
  | ok value => exact after value

theorem map {first : Except Error Value} {change : Value → Other}
    (before : Unplaced offset first) : Unplaced offset (first.map change) := by
  cases first with
  | error error => exact Unplaced.error (before error rfl)
  | ok value => exact Unplaced.ok _

theorem mapM {compute : Value → Except Error Other} (values : List Value)
    (each : ∀ value, Unplaced offset (compute value)) : Unplaced offset (values.mapM compute) := by
  induction values with
  | nil => exact Unplaced.ok _
  | cons value rest inductionHypothesis =>
      rw [List.mapM_cons]
      exact (each value).bind fun first => inductionHypothesis.bind fun others => Unplaced.ok _

theorem ofFailure {result : Except Failure Value} (unplaced : Unplaced Failure.offset result) :
    Unplaced Stop.offset? (result.mapError .failure) := by
  cases result with
  | error failure => exact Unplaced.error (unplaced failure rfl)
  | ok value => exact Unplaced.ok _

end Unplaced

namespace Registry

variable {Body : Type}

theorem resolveIn_unplaced (table : List (Entry Body)) (name : Text) (context : Context) :
    Unplaced Failure.offset (resolveIn table name context) := by
  unfold resolveIn
  split
  · exact Unplaced.ok _
  · split
    · exact Unplaced.ok _
    · exact Unplaced.error rfl

theorem require_unplaced (subject : Subject) (table : List (Entry Body)) (name : Text)
    (context : Context) : Unplaced Failure.offset (require subject table name context) := by
  unfold require
  split
  · next failure failed => exact Unplaced.error (resolveIn_unplaced _ _ _ _ failed)
  · exact Unplaced.ok _
  · exact Unplaced.error rfl

theorem shieldStyle_unplaced (registry : Registry) (name : Option Text) :
    Unplaced Failure.offset (registry.shieldStyle name) := by
  unfold shieldStyle
  split
  · exact Unplaced.ok _
  · exact Unplaced.ok _
  · split
    · exact Unplaced.ok _
    · exact Unplaced.error rfl

theorem resolve_unplaced (registry : Registry) (name : Text) (context : Context) :
    Unplaced Failure.offset (registry.resolve name context) := by
  simp only [resolve]
  split
  · exact Unplaced.ok _
  · split
    · exact Unplaced.ok _
    · exact Unplaced.error rfl

theorem literalSeparator_unplaced (segment : Text → List Text) (registry : Registry)
    (value trimmed : Text) (context : Context) :
    Unplaced Failure.offset (registry.literalSeparator segment value trimmed context) := by
  simp only [literalSeparator]
  split
  · split
    · exact Unplaced.error rfl
    · exact Unplaced.ok _
  · exact Unplaced.error rfl

theorem separator_unplaced (registry : Registry) (value : Text) (context : Context) :
    Unplaced Failure.offset (registry.separator value context) := by
  simp only [separator, separatorBy]
  split
  · exact Unplaced.error rfl
  · split
    · exact Unplaced.error rfl
    · split
      · next failure failed => exact Unplaced.error (resolveIn_unplaced _ _ _ _ failed)
      · exact Unplaced.ok _
      · split
        · next failure failed => exact Unplaced.error (resolve_unplaced _ _ _ _ failed)
        · exact literalSeparator_unplaced _ registry value _ context

end Registry

theorem Palette.require_unplaced (palette : Palette) (parameter value : Text) :
    Unplaced Failure.offset (palette.require parameter value) := by
  unfold Palette.require
  split
  · exact Unplaced.ok _
  · exact Unplaced.error rfl

theorem Transform.apply_unplaced (kind : TransformKind) (text : Text)
    (parameters : Table Text) : Unplaced Failure.offset (Transform.apply kind text parameters) := by
  cases kind with
  | blockquote => exact Unplaced.ok _
  | row =>
      simp only [Transform.apply, Transform.row]
      split
      · exact Unplaced.ok _
      · exact Unplaced.error rfl

namespace Component

theorem failed_unplaced {Value : Type} (cause : Cause) :
    Unplaced Stop.offset? (failed cause : Except Stop Value) :=
  Unplaced.error rfl

theorem resolve_unplaced (registry : Registry) (tag : Tag) (context : Context) :
    Unplaced Failure.offset (resolve registry tag context) := by
  unfold resolve
  split
  · next failed => exact Unplaced.error (Registry.require_unplaced _ _ _ _ _ failed)
  · split
    · exact Unplaced.ok _
    · exact Unplaced.error rfl

theorem mergedParameters_unplaced (entry : Entry ComponentBody) (given : Table Text) :
    Unplaced Failure.offset (mergedParameters entry given) := by
  unfold mergedParameters
  split
  · exact Unplaced.error rfl
  · exact Unplaced.ok _

theorem argument_unplaced (palette : Palette) (entry : Entry ComponentBody)
    (arguments : List Text) (index : Nat) :
    Unplaced Stop.offset? (argument palette entry arguments index) := by
  unfold argument
  split
  · split
    · exact Unplaced.ok _
    · exact Unplaced.error rfl
  · split
    · exact Unplaced.ok _
    · split
      · exact Unplaced.ok _
      · exact failed_unplaced _

theorem placeNumber_unplaced (digits : Text) : Unplaced Stop.offset? (placeNumber digits) := by
  unfold placeNumber
  split
  · exact Unplaced.error rfl
  · exact Unplaced.ok _

theorem fillPart_unplaced (palette : Palette) (entry : Entry ComponentBody)
    (arguments : List Text) (part : TemplatePart) :
    Unplaced Stop.offset? (fillPart palette entry arguments part) := by
  cases part with
  | letters text => exact Unplaced.ok _
  | content => exact Unplaced.ok _
  | argument digits =>
      exact (placeNumber_unplaced digits).bind fun index =>
        (argument_unplaced palette entry arguments index).bind fun value => Unplaced.ok _

theorem substitute_unplaced (palette : Palette) (entry : Entry ComponentBody)
    (arguments : List Text) (content : Text) :
    Unplaced Stop.offset? (substitute palette entry arguments content) := by
  rw [substitute_eq]
  exact (Unplaced.mapM _ (fillPart_unplaced palette entry arguments)).map

theorem finished_unplaced (text : Text) (contentStarts : List Nat)
    (postProcess : Option PostProcess) (parameters : Table Text) :
    Unplaced Stop.offset? (finished text contentStarts postProcess parameters) := by
  unfold finished
  split
  · split
    · next failed => exact Unplaced.error (Transform.apply_unplaced _ _ _ _ failed)
    · exact Unplaced.ok _
  · exact Unplaced.ok _

theorem call_unplaced (palette : Palette) (entry : Entry ComponentBody) (tag : Tag)
    (content : Text) : Unplaced Stop.offset? (call palette entry tag content) := by
  unfold call
  split
  · next failed => exact Unplaced.error (mergedParameters_unplaced _ _ _ failed)
  · split
    · split
      · next failed =>
          exact Unplaced.error (Unplaced.mapM _ (argument_unplaced _ _ _) _ failed)
      · split
        · exact failed_unplaced _
        · exact Unplaced.ok _
    · split
      · next failed => exact Unplaced.error (substitute_unplaced _ _ _ _ _ failed)
      · exact finished_unplaced _ _ _ _

end Component

namespace NativeHandler

theorem required_unplaced (palette : Palette) (parameter value : Text) :
    Unplaced Stop.offset? (required palette parameter value) :=
  (palette.require_unplaced parameter value).ofFailure

theorem style_unplaced (registry : Registry) (parameters : Table Text) :
    Unplaced Stop.offset? (style registry parameters) :=
  (registry.shieldStyle_unplaced _).ofFailure

theorem colorList_unplaced (palette : Palette) (value : Text) :
    Unplaced Stop.offset? (colorList palette value) :=
  Unplaced.mapM _ (required_unplaced palette "colors")

theorem first_unplaced (arguments : List Text) : Unplaced Stop.offset? (first arguments) := by
  cases arguments with
  | nil => exact Unplaced.error rfl
  | cons value rest => exact Unplaced.ok _

theorem buildDivider_unplaced (registry : Registry) (palette : Palette)
    (parameters : Table Text) :
    Unplaced Stop.offset? (buildDivider registry palette parameters) := by
  refine (colorList_unplaced palette _).bind fun colors => ?_
  split
  · exact Component.failed_unplaced _
  · exact (style_unplaced registry parameters).bind fun style => Unplaced.ok _

theorem build_unplaced (handler : NativeHandler) (registry : Registry) (palette : Palette)
    (arguments : List Text) (parameters : Table Text) :
    Unplaced Stop.offset? (handler.build registry palette arguments parameters) := by
  cases handler with
  | divider => exact buildDivider_unplaced registry palette parameters
  | swatch =>
      exact (first_unplaced arguments).bind fun value =>
        (required_unplaced palette _ value).bind fun color =>
          (style_unplaced registry parameters).bind fun style => Unplaced.ok _
  | tech =>
      exact (first_unplaced arguments).bind fun name =>
        (required_unplaced palette _ _).bind fun background =>
          (required_unplaced palette _ _).bind fun logo =>
            (style_unplaced registry parameters).bind fun style => Unplaced.ok _
  | status =>
      exact (first_unplaced arguments).bind fun level =>
        (style_unplaced registry parameters).bind fun style => Unplaced.ok _

end NativeHandler

/-- What becomes of the call of a component fails at no known place. -/
theorem Component.expandEntry_unplaced (registry : Registry) (palette : Palette)
    (entry : Entry ComponentBody) (tag : Tag) (content : Text) :
    Unplaced Stop.offset? (expandEntry registry palette entry tag content).result := by
  unfold expandEntry
  split
  · next failed => exact Unplaced.error (call_unplaced _ _ _ _ _ failed)
  · exact (NativeHandler.build_unplaced _ _ _ _ _).map
  · exact Unplaced.ok _

namespace Shield

open NativeHandler (colorList_unplaced required_unplaced)

theorem mandatory_unplaced (kind : ShieldKind) (given : Table Text) (name : Text) :
    Unplaced Stop.offset? (mandatory kind given name) := by
  unfold mandatory
  split
  · exact Component.failed_unplaced _
  · exact Unplaced.ok _

theorem buildStyled_unplaced (palette : Palette) (kind : ShieldKind) (given : Table Text)
    (style : Text) : Unplaced Stop.offset? (buildStyled palette kind given style) := by
  cases kind with
  | block =>
      exact (mandatory_unplaced _ given _).bind fun value =>
        (required_unplaced palette _ value).bind fun color => Unplaced.ok _
  | twoTone =>
      exact (mandatory_unplaced _ given _).bind fun value =>
        (required_unplaced palette _ value).bind fun left =>
          (mandatory_unplaced _ given _).bind fun value =>
            (required_unplaced palette _ value).bind fun right => Unplaced.ok _
  | bar =>
      exact (mandatory_unplaced _ given _).bind fun value =>
        (colorList_unplaced palette value).bind fun colors => Unplaced.ok _
  | icon =>
      exact (mandatory_unplaced _ given _).bind fun name =>
        (required_unplaced palette _ _).bind fun background =>
          (required_unplaced palette _ _).bind fun logo => Unplaced.ok _

/-- A shield tag fails at no known place. -/
theorem build_unplaced (registry : Registry) (palette : Palette) (tag : Tag) :
    Unplaced Stop.offset? (build registry palette tag) := by
  unfold build
  split
  · exact Component.failed_unplaced _
  · split
    · exact Component.failed_unplaced _
    · split
      · next failed => exact Unplaced.error (Registry.shieldStyle_unplaced _ _ _ failed)
      · exact buildStyled_unplaced _ _ _ _

end Shield

/-- What a style tag puts between glyphs fails at no known place. -/
theorem Dispatch.spread_unplaced (processor : Processor) (parameters : Table Text) :
    Unplaced Failure.offset (spread processor parameters) := by
  unfold spread
  split
  · exact Unplaced.error rfl
  · split
    · exact Unplaced.error rfl
    · refine Unplaced.map ?_
      unfold spacing
      split
      · exact Unplaced.error rfl
      · split
        · exact Unplaced.ok _
        · exact Unplaced.error rfl
    · exact (Registry.separator_unplaced _ _ _).map
    · exact Unplaced.ok _

end Flourish
