/-
This file draws primitives as images of a badge service.
-/

import Flourish.Renderer.Basic
import Flourish.Text.Percent

namespace Flourish.Renderer.Shields

def base : Text :=
  "https://img.shields.io/badge"

def blockAddress (color style : Text) : Text :=
  wording [base, "/-%20-", color, "?style=", style]

def image (alternative address : Text) : Text :=
  wording ["![", alternative, "](", address, ")"]

/-- The address of a block with a label, which is escaped already. -/
def labelAddress (label color style : Text) : Text :=
  wording [base, "/-", label, "-", color, "?style=", style]

/-- A swatch without a label, or with an empty one, is a plain block. -/
def swatchAddress (color style : Text) : Option Text → Except Text.EncodingFault Text
  | none | some [] => .ok (blockAddress color style)
  | some label => (Text.percentEncoded label).map (labelAddress · color style)

/-- A logo is named in the address by its escaped name. -/
def techAddress (logoName background logo style : Text) : Text :=
  wording [blockAddress background style, "&logo=", logoName, "&logoColor=", logo]

/-- The image of a primitive, unless a label or a name in its address has no octets. -/
def draw : Primitive → Except Text.EncodingFault Text
  | .swatch color style label => (swatchAddress color style label).map (image [])
  | .divider colors style =>
      .ok (colors.flatMap fun color => image [] (blockAddress color style))
  | .tech name background logo style =>
      (Text.percentEncoded name).map fun logoName =>
        image name (techAddress logoName background logo style)
  | .status level style => .ok (image level (blockAddress (Status.color level) style))
  | .twoTone left right style =>
      .ok (image [] (wording [blockAddress right style, "&label=&labelColor=", left]))

end Flourish.Renderer.Shields
