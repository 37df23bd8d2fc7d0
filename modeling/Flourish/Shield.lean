/-
This file builds the primitives of shield tags, which name their colors themselves.
-/

import Flourish.Component

namespace Flourish

inductive ShieldKind where
  | block
  | twoTone
  | bar
  | icon
  deriving DecidableEq, Repr

namespace ShieldKind

def name : ShieldKind → Text
  | .block => "block"
  | .twoTone => "twotone"
  | .bar => "bar"
  | .icon => "icon"

def all : List ShieldKind :=
  [.block, .twoTone, .bar, .icon]

def ofName? (name : Text) : Option ShieldKind :=
  all.find? fun kind => kind.name = name

/-- The parameters that a kind of shield takes. -/
def parameters : ShieldKind → List Text
  | .block => ["color", "style"]
  | .twoTone => ["left", "right", "style"]
  | .bar => ["colors", "style"]
  | .icon => ["logo", "bg", "logoColor", "style"]

end ShieldKind

namespace Shield

open Component (failed)
open NativeHandler (parameter required)

/-- A parameter that must be given and not be empty. -/
def mandatory (kind : ShieldKind) (given : Table Text) (name : Text) : Except Stop Text :=
  match parameter given name with
  | [] => failed (.invalidParameter name [] (.requiredByShield kind.name))
  | value => .ok value

/-- A parameter, or its fallback if it is not given or empty. -/
def optional (given : Table Text) (name fallback : Text) : Text :=
  match parameter given name with
  | [] => fallback
  | value => value

/-- The primitive of a kind whose style is known. -/
def buildStyled (palette : Palette) (kind : ShieldKind) (given : Table Text) (style : Text) :
    Except Stop Primitive := do
  match kind with
  | .block =>
      let color ← required palette "color" (← mandatory kind given "color")
      pure (.swatch color style none)
  | .twoTone =>
      let left ← required palette "left" (← mandatory kind given "left")
      let right ← required palette "right" (← mandatory kind given "right")
      pure (.twoTone left right style)
  | .bar =>
      let colors ← NativeHandler.colorList palette (← mandatory kind given "colors")
      pure (.divider colors style)
  | .icon =>
      let name ← mandatory kind given "logo"
      let background ← required palette "bg" (optional given "bg" "ui.bg")
      let logo ← required palette "logoColor" (optional given "logoColor" "white")
      pure (.tech name background logo style)

/-- The primitive that a shield tag names. -/
def build (registry : Registry) (palette : Palette) (tag : Tag) : Except Stop Primitive :=
  match ShieldKind.ofName? tag.name with
  | none =>
      failed (.unknown .shield tag.name
        (Text.suggestions tag.name (ShieldKind.all.map ShieldKind.name) 3))
  | some kind =>
      match List.find? (fun entry => !kind.parameters.contains entry.1) tag.parameters with
      | some (key, value) =>
          failed (.invalidParameter key value (.unknownToShield kind.name key))
      | none =>
          match registry.shieldStyle (tag.parameters.find? "style") with
          | .error failure => .error (.failure failure)
          | .ok style => buildStyled palette kind tag.parameters style

end Shield
end Flourish
