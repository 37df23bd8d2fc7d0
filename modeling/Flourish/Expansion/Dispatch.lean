/-
This file decides what becomes of a tag.
-/

import Flourish.Conversion
import Flourish.Event
import Flourish.Processor.Basic
import Flourish.Registry.Separator
import Flourish.Shield
import Flourish.Tag.Match

namespace Flourish

/-- The size of a tag: the letters of its head after the two braces, and, if it does not close
itself, those of its content and of its closer. -/
structure Extent where
  head : Nat
  body : Option (Nat × Nat)
  deriving DecidableEq, Repr

namespace Extent

def contentSize (extent : Extent) : Nat :=
  (extent.body.map Prod.fst).getD 0

def closerSize (extent : Extent) : Nat :=
  (extent.body.map Prod.snd).getD 0

/-- All letters of the tag after its two braces. -/
def size (extent : Extent) : Nat :=
  extent.head + extent.contentSize + extent.closerSize

/-- The content of a tag in the text after its two braces. -/
def contentIn (extent : Extent) (tail : Text) : Text :=
  (tail.drop extent.head).take extent.contentSize

end Extent

/-- What is done to an expanded text before it takes the place of its tag. -/
inductive Finish where
  | keep
  | surround (before after : Text)
  | transform (kind : TransformKind) (parameters : Table Text)
  deriving DecidableEq, Repr

namespace Finish

def apply (finish : Finish) (text : Text) : Except Failure Text :=
  match finish with
  | .keep => .ok text
  | .surround before after => .ok (before ++ text ++ after)
  | .transform kind parameters => Transform.apply kind text parameters

end Finish

/-- What becomes of a tag: a text or a drawing takes its place at once, or its content is
expanded, or a template is expanded in which the content stands at the given offsets. -/
inductive Move where
  | write (text : Text)
  | draw (primitive : Primitive)
  | expandContent (finish : Finish)
  | expandTemplate (text : Text) (contentStarts : List Nat) (finish : Finish)
  deriving DecidableEq, Repr

/-- A decision about a tag, and what happened on the way to it. -/
structure Decision where
  events : List Event
  outcome : Except Stop (Extent × Move)

namespace Decision

def failed (failure : Failure) : Decision :=
  ⟨[], .error (.failure failure)⟩

def refused (cause : Cause) : Decision :=
  failed cause.unplaced

def stopped (stop : Stop) : Decision :=
  ⟨[], .error stop⟩

def moved (extent : Extent) (move : Move) : Decision :=
  ⟨[], .ok (extent, move)⟩

end Decision

namespace Dispatch

/-- The size of the tag whose head was read, in the text after its two braces. -/
def extent (opening : Opening) (tail : Text) : Except Failure Extent :=
  let head := opening.headStop - opening.start - 2
  if opening.tag.selfClosing then .ok ⟨head, none⟩
  else
    match Closer.find opening.tag.closerPolicy opening (tail.drop head) with
    | .error failure => .error failure
    | .ok closer =>
        .ok ⟨head, some (closer.start - opening.headStop, closer.stop - closer.start)⟩

/-- The finish of a template whose transform comes after expansion. -/
def templateFinish (postProcess : Option PostProcess) (parameters : Table Text) : Finish :=
  match postProcess with
  | some post => .transform post.kind parameters
  | none => .keep

def componentMove : ComponentOutput → Move
  | .primitive primitive => .draw primitive
  | .template text postProcess parameters starts =>
      .expandTemplate text starts (templateFinish postProcess parameters)

def component (processor : Processor) (opening : Opening) (tail : Text) : Decision :=
  match Component.resolve processor.registry opening.tag processor.context with
  | .error failure => .failed failure
  | .ok entry =>
      match extent opening tail with
      | .error failure => .failed failure
      | .ok size =>
          let expansion := Component.expandEntry processor.registry processor.palette entry
            opening.tag (size.contentIn tail)
          ⟨expansion.events, expansion.result.map fun output => (size, componentMove output)⟩

def frame (processor : Processor) (opening : Opening) (tail : Text) : Decision :=
  let tag := opening.tag
  if tag.selfClosing then .refused (.malformedTag (.frameWithoutContent tag.name))
  else
    match Registry.require .frame processor.registry.frames tag.name processor.context with
    | .error failure => .failed failure
    | .ok entry =>
        match extent opening tail with
        | .error failure => .failed failure
        | .ok size =>
            .moved size (.expandContent (.surround entry.body.before entry.body.after))

/-- The enclosed form of a content that is one letter. -/
def enclosed? (badge : BadgeBody) : Text → Option Letter
  | [letter] => badge.glyphs.lookup letter
  | _ => none

def badge (processor : Processor) (opening : Opening) (tail : Text) : Decision :=
  let tag := opening.tag
  if tag.selfClosing then .refused (.malformedTag (.badgeWithoutContent tag.name))
  else
    match Registry.require .badge processor.registry.badges tag.name processor.context with
    | .error failure => .failed failure
    | .ok entry =>
        match extent opening tail with
        | .error failure => .failed failure
        | .ok size =>
            let content := size.contentIn tail
            match enclosed? entry.body content with
            | some glyph => .moved size (.write [glyph])
            | none =>
                .refused (.unsupportedLetter (wording ["badge '", entry.id, "'"]) content)

def shield (processor : Processor) (opening : Opening) (tail : Text) : Decision :=
  let tag := opening.tag
  if tag.selfClosing then
    match Shield.build processor.registry processor.palette tag with
    | .error stop => .stopped stop
    | .ok primitive =>
        match extent opening tail with
        | .error failure => .failed failure
        | .ok size => .moved size (.draw primitive)
  else .refused (.malformedTag (.shieldWithContent tag.name))

def styleParameters : List Text :=
  ["separator", "spacing"]

/-- The number of spaces that a spacing asks for. -/
def spacing (settings : Settings) (value : Text) : Except Failure Nat :=
  match Text.readInteger? value with
  | none => .error (Cause.invalidParameter "spacing" value .notInteger).unplaced
  | some count =>
      if 0 ≤ count && count ≤ settings.maxSpacing then .ok count.toNat
      else
        .error (Cause.invalidParameter "spacing" value (.outOfRange settings.maxSpacing)).unplaced

/-- What the parameters of a style tag put between glyphs. -/
def spread (processor : Processor) (parameters : Table Text) : Except Failure Spread :=
  match List.find? (fun entry => !styleParameters.contains entry.1) parameters with
  | some (key, value) => .error (Cause.invalidParameter key value .notForStyles).unplaced
  | none =>
      match parameters.find? "separator", parameters.find? "spacing" with
      | some value, some _ =>
          .error (Cause.invalidParameter "separator" value .exclusive).unplaced
      | none, some value => (spacing processor.settings value).map Spread.spaced
      | some value, none =>
          (processor.registry.separator value processor.settings.separatorContext).map
            Spread.separated
      | none, none => .ok .plain

/-- The failure of a bare name that no style has. With arguments it was meant as a namespace. -/
def unknownStyle (processor : Processor) (tag : Tag) : Decision :=
  if tag.arguments.isEmpty then
    .failed (Registry.unknownIn .style processor.registry.styles tag.name)
  else
    .refused (.unknown .space tag.name
      (Text.suggestions tag.name (TagKind.reserved.map TagKind.name) 3))

def style (processor : Processor) (opening : Opening) (tail : Text) : Decision :=
  let tag := opening.tag
  match Registry.resolveIn processor.registry.styles tag.name processor.context with
  | .error failure => .failed failure
  | .ok none => unknownStyle processor tag
  | .ok (some entry) =>
      if tag.selfClosing then .refused (.malformedTag (.styleWithoutContent tag.name))
      else if !tag.arguments.isEmpty then .refused (.malformedTag (.styleArguments tag.name))
      else
        match spread processor tag.parameters with
        | .error failure => .failed failure
        | .ok between =>
            match extent opening tail with
            | .error failure => .failed failure
            | .ok size =>
                match Conversion.spread entry.body (size.contentIn tail) between with
                | .error defect => .stopped (.defect defect)
                | .ok text => .moved size (.write text)

def partials (processor : Processor) (opening : Opening) (tail : Text) : Decision :=
  let tag := opening.tag
  match Registry.require .partials processor.registry.partials tag.name processor.context with
  | .error failure => .failed failure
  | .ok entry =>
      match extent opening tail with
      | .error failure => .failed failure
      | .ok size =>
          let (text, starts) := Substitution.fillPartial entry.body.template (size.contentIn tail)
          .moved size (.expandTemplate text starts .keep)

/-- What becomes of a tag whose head was read, given the text after its two braces. -/
def decide (processor : Processor) (opening : Opening) (tail : Text) : Decision :=
  match opening.tag.kind with
  | .ui => component processor opening tail
  | .frame => frame processor opening tail
  | .badge => badge processor opening tail
  | .shields => shield processor opening tail
  | .style => style processor opening tail
  | .partials => partials processor opening tail

end Dispatch
end Flourish
