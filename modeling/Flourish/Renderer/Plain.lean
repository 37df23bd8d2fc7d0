/-
This file draws primitives in plain letters.
-/

import Flourish.Renderer.Basic

namespace Flourish.Renderer.Plain

def draw : Primitive → Text
  | .swatch color _ none | .swatch color _ (some []) => wording ["[#", color, "]"]
  | .swatch color _ (some label) => wording ["[#", color, " ", label, "]"]
  | .divider colors _ =>
      wording ["--- ", Text.join [.of ' '] (colors.map (.of '#' :: ·)), " ---"]
  | .tech name _ _ _ => wording ["[", name, "]"]
  | .status level _ => wording ["[", Status.label level, "]"]
  | .twoTone left right _ => wording ["[#", left, "|#", right, "]"]

end Flourish.Renderer.Plain
