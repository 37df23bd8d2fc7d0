/-
This file turns the call of a component into a primitive or into text to be expanded again.
-/

import Flourish.Event
import Flourish.Palette
import Flourish.Primitive
import Flourish.Registry.Basic
import Flourish.Substitution
import Flourish.Text.Numeral
import Flourish.Transform

namespace Flourish

/-- The components that are drawn without a template. -/
inductive NativeHandler where
  | divider
  | swatch
  | tech
  | status
  deriving DecidableEq, Repr

namespace NativeHandler

def name : NativeHandler → Text
  | .divider => "divider"
  | .swatch => "swatch"
  | .tech => "tech"
  | .status => "status"

def ofName? (name : Text) : Option NativeHandler :=
  [NativeHandler.divider, .swatch, .tech, .status].find? fun handler => handler.name = name

end NativeHandler

/-- A call with its arguments resolved. -/
inductive ComponentCall where
  | native (handler : NativeHandler) (arguments : List Text) (parameters : Table Text)
  | template (text : Text) (postProcess : Option PostProcess) (parameters : Table Text)
      (contentStarts : List Nat)
  deriving DecidableEq, Repr

/-- What a call becomes: a primitive, or text to be expanded in which the content stands at the
given offsets. -/
inductive ComponentOutput where
  | primitive (primitive : Primitive)
  | template (text : Text) (postProcess : Option PostProcess) (parameters : Table Text)
      (contentStarts : List Nat)
  deriving DecidableEq, Repr

/-- What became of a call, and what happened on the way. -/
structure ComponentExpansion where
  events : List Event
  result : Except Stop ComponentOutput

namespace Component

def failed {Value : Type} (cause : Cause) : Except Stop Value :=
  .error (.failure cause.unplaced)

/-- The component that a tag calls. The tag closes itself exactly if the component does. -/
def resolve (registry : Registry) (tag : Tag) (context : Context) :
    Except Failure (Entry ComponentBody) :=
  match Registry.require .component registry.components tag.name context with
  | .error failure => .error failure
  | .ok entry =>
      if tag.selfClosing = entry.body.selfClosing then .ok entry
      else .error (Cause.shapeMismatch entry.id entry.body.selfClosing).unplaced

/-- The declared parameters with the values of a call, all of which must be declared. -/
def mergedParameters (entry : Entry ComponentBody) (given : Table Text) :
    Except Failure (Table Text) :=
  match List.find? (fun parameter => !entry.body.parameters.contains parameter.1) given with
  | some (key, value) =>
      .error (Cause.invalidParameter key value (.undeclared entry.id key)).unplaced
  | none => .ok (entry.body.parameters.insertAll given)

/-- The argument at a place that counts from one, resolved as a color if it is one. A missing one
takes its declared default. Place zero is the last argument of the call. -/
def argument (palette : Palette) (entry : Entry ComponentBody) (arguments : List Text)
    (index : Nat) : Except Stop Text :=
  if index = 0 then
    match arguments.getLast? with
    | some value => .ok (palette.resolved value)
    | none => .error (.defect .noArgument)
  else
    match arguments[index - 1]? with
    | some value => .ok (palette.resolved value)
    | none =>
        match entry.body.arguments[index - 1]?.bind entry.body.defaults.find? with
        | some value => .ok (palette.resolved value)
        | none => failed (.missingArgument entry.id index)

def allArguments (palette : Palette) (entry : Entry ComponentBody) (arguments : List Text) :
    Except Stop (List Text) :=
  (List.range' 1 entry.body.arguments.length).mapM (argument palette entry arguments)

/-- The number of a numbered place, unless it has too many digits to be read. -/
def placeNumber (digits : Text) : Except Stop Nat :=
  if Text.maximumDigits < digits.length then
    .error (.defect (.badValue (wording ["Exceeds the limit (", Text.ofNat Text.maximumDigits,
      " digits) for integer string conversion: value has ", Text.ofNat digits.length,
      " digits; use sys.set_int_max_str_digits() to increase the limit"])))
  else .ok (Text.decimalValue digits)

/-- A part with its argument. Colors are resolved in the template's own letters, never in what
is put in. -/
def fillPart (palette : Palette) (entry : Entry ComponentBody) (arguments : List Text) :
    TemplatePart → Except Stop Filled
  | .letters text => .ok (.letters (palette.resolvedRefs text))
  | .content => .ok .content
  | .argument digits => do
      let index ← placeNumber digits
      let value ← argument palette entry arguments index
      pure (.letters value)

def fill (palette : Palette) (entry : Entry ComponentBody) (arguments : List Text) :
    Except Stop (List Filled) :=
  (Substitution.parts entry.body.template).mapM (fillPart palette entry arguments)

/-- A draft of a template with one more of its parts. -/
def putPart (palette : Palette) (entry : Entry ComponentBody) (arguments : List Text)
    (content : Text) (draft : Draft) (part : TemplatePart) : Except Stop Draft :=
  (fillPart palette entry arguments part).map (draft.put content)

/-- The template with arguments and content, and the offsets of the content in it. -/
def substitute (palette : Palette) (entry : Entry ComponentBody) (arguments : List Text)
    (content : Text) : Except Stop (Text × List Nat) :=
  ((Substitution.parts entry.body.template).foldlM (putPart palette entry arguments content)
    ⟨[], []⟩).map fun draft => (draft.text, draft.starts)

theorem foldlM_putPart (palette : Palette) (entry : Entry ComponentBody) (arguments : List Text)
    (content : Text) (draft : Draft) (parts : List TemplatePart) :
    parts.foldlM (putPart palette entry arguments content) draft =
      (parts.mapM (fillPart palette entry arguments)).map
        (List.foldl (Draft.put content) draft) := by
  induction parts generalizing draft with
  | nil => rfl
  | cons part rest inductionHypothesis =>
      rw [List.foldlM_cons, List.mapM_cons, putPart]
      cases fillPart palette entry arguments part with
      | error stop => rfl
      | ok filled =>
          refine (inductionHypothesis (draft.put content filled)).trans ?_
          cases rest.mapM (fillPart palette entry arguments) <;> rfl

/-- A template becomes the text of its parts, with the places of the content in it. -/
theorem substitute_eq (palette : Palette) (entry : Entry ComponentBody) (arguments : List Text)
    (content : Text) :
    substitute palette entry arguments content =
      (fill palette entry arguments).map fun filled =>
        (Filled.text content filled, Filled.starts content.length 0 filled) := by
  rw [substitute, foldlM_putPart, fill]
  cases (Substitution.parts entry.body.template).mapM (fillPart palette entry arguments) with
  | error stop => rfl
  | ok filled =>
      simp only [Except.map, Draft.foldl_put]
      rfl

/-- A transform that comes before expansion is applied, and then the places of the content are
lost. A later one is handed on. -/
def finished (text : Text) (contentStarts : List Nat) (postProcess : Option PostProcess)
    (parameters : Table Text) : Except Stop ComponentCall :=
  match postProcess with
  | some ⟨kind, .preExpand⟩ =>
      match Transform.apply kind text parameters with
      | .error failure => .error (.failure failure)
      | .ok changed => .ok (.template changed none parameters [])
  | _ => .ok (.template text postProcess parameters contentStarts)

/-- The call of a component by a tag with this content. -/
def call (palette : Palette) (entry : Entry ComponentBody) (tag : Tag) (content : Text) :
    Except Stop ComponentCall :=
  match mergedParameters entry tag.parameters with
  | .error failure => .error (.failure failure)
  | .ok parameters =>
      if entry.body.native then
        match allArguments palette entry tag.arguments with
        | .error stop => .error stop
        | .ok arguments =>
            match NativeHandler.ofName? entry.id with
            | none => failed (.configuration (.handlerMissing entry.id))
            | some handler => .ok (.native handler arguments parameters)
      else
        match substitute palette entry tag.arguments content with
        | .error stop => .error stop
        | .ok (text, starts) => finished text starts entry.body.postProcess parameters

end Component

namespace NativeHandler

open Component (failed)

/-- The value of a parameter, empty if it is not declared. -/
def parameter (parameters : Table Text) (name : Text) : Text :=
  (parameters.find? name).getD []

def required (palette : Palette) (parameter value : Text) : Except Stop Text :=
  (palette.require parameter value).mapError .failure

def style (registry : Registry) (parameters : Table Text) : Except Stop Text :=
  (registry.shieldStyle (parameters.find? "style")).mapError .failure

/-- The colors of a list with commas, of which blank items are left out. -/
def colorList (palette : Palette) (value : Text) : Except Stop (List Text) :=
  ((Text.fields ',' value).filter fun item => !(Text.trim item).isEmpty).mapM
    (required palette "colors")

def first (arguments : List Text) : Except Stop Text :=
  match arguments with
  | [] => .error (.defect .noArgument)
  | value :: _ => .ok value

/-- A text, unless it is empty. -/
def nonempty? (text : Text) : Option Text :=
  if text.isEmpty then none else some text

/-- The bar of a list of colors, of which there must be one at least. -/
def buildDivider (registry : Registry) (palette : Palette) (parameters : Table Text) :
    Except Stop Primitive := do
  let value := parameter parameters "colors"
  let colors ← colorList palette value
  if colors.isEmpty then failed (.invalidParameter "colors" value .noColors)
  else
    let shieldStyle ← style registry parameters
    pure (.divider colors shieldStyle)

def buildSwatch (registry : Registry) (palette : Palette) (arguments : List Text)
    (parameters : Table Text) : Except Stop Primitive := do
  let color ← required palette "color" (← first arguments)
  let shieldStyle ← style registry parameters
  pure (.swatch color shieldStyle (nonempty? (parameter parameters "label")))

def buildTech (registry : Registry) (palette : Palette) (arguments : List Text)
    (parameters : Table Text) : Except Stop Primitive := do
  let logoName ← first arguments
  let background ← required palette "bg" (parameter parameters "bg")
  let logo ← required palette "logo" (parameter parameters "logo")
  let shieldStyle ← style registry parameters
  pure (.tech logoName background logo shieldStyle)

def buildStatus (registry : Registry) (arguments : List Text) (parameters : Table Text) :
    Except Stop Primitive := do
  let level ← first arguments
  let shieldStyle ← style registry parameters
  pure (.status level shieldStyle)

/-- The primitive of a call. -/
def build (handler : NativeHandler) (registry : Registry) (palette : Palette)
    (arguments : List Text) (parameters : Table Text) : Except Stop Primitive :=
  match handler with
  | .divider => buildDivider registry palette parameters
  | .swatch => buildSwatch registry palette arguments parameters
  | .tech => buildTech registry palette arguments parameters
  | .status => buildStatus registry arguments parameters

end NativeHandler

namespace Component

/-- What becomes of the call of a component by a tag with this content. -/
def expandEntry (registry : Registry) (palette : Palette) (entry : Entry ComponentBody)
    (tag : Tag) (content : Text) : ComponentExpansion :=
  match call palette entry tag content with
  | .error stop => ⟨[], .error stop⟩
  | .ok (.native handler arguments parameters) =>
      ⟨[.nativeCalled entry.id arguments],
        (handler.build registry palette arguments parameters).map .primitive⟩
  | .ok (.template text postProcess parameters starts) =>
      ⟨[.substituted entry.id text.length],
        .ok (.template text postProcess parameters starts)⟩

/-- What becomes of a tag that calls a component. -/
def expand (registry : Registry) (palette : Palette) (tag : Tag) (content : Text)
    (context : Context) : ComponentExpansion :=
  match resolve registry tag context with
  | .error failure => ⟨[], .error (.failure failure)⟩
  | .ok entry => expandEntry registry palette entry tag content

end Component
end Flourish
