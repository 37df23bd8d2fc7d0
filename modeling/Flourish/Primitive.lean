/-
This file holds primitives: what a backend is asked to draw. Their colors are resolved.
-/

import Flourish.Text.Basic

namespace Flourish

inductive Primitive where
  /-- One block of color. -/
  | swatch (color style : Text) (label : Option Text)
  /-- A bar of color segments. -/
  | divider (colors : List Text) (style : Text)
  /-- The logo of a technology. -/
  | tech (name background logo style : Text)
  | status (level style : Text)
  /-- A block of two colors. -/
  | twoTone (left right style : Text)
  deriving DecidableEq, Repr

namespace Primitive

def kind : Primitive → Text
  | .swatch .. => "swatch"
  | .divider .. => "divider"
  | .tech .. => "tech"
  | .status .. => "status"
  | .twoTone .. => "twotone"

/-- The colors that a backend is handed. -/
def colors : Primitive → List Text
  | .swatch color _ _ => [color]
  | .divider colors _ => colors
  | .tech _ background logo _ => [background, logo]
  | .status _ _ => []
  | .twoTone left right _ => [left, right]

end Primitive
end Flourish
