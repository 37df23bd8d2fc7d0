/-
This file says what a backend is and holds the colors and words of status levels.
-/

import Flourish.Asset
import Flourish.Failure
import Flourish.Primitive
import Flourish.Table

namespace Flourish

/-- How a backend fails: it refuses a primitive with a failure, or it breaks down. -/
inductive RenderFault where
  | refused (failure : Failure)
  | broken (kind message : Text)
  deriving DecidableEq, Repr

/-- A backend draws primitives. -/
abbrev Renderer := Primitive → Except RenderFault Asset

namespace Status

def colors : Table Text :=
  [("success", "22C55E"), ("warning", "EAB308"), ("error", "EF4444"), ("info", "3B82F6")]

def labels : Table Text :=
  [("success", "OK"), ("warning", "WARN"), ("error", "ERR"), ("info", "INFO")]

/-- The color of a level. All unknown levels share one color. -/
def color (level : Text) : Text :=
  (colors.find? level).getD "6B7280"

def label (level : Text) : Text :=
  (labels.find? level).getD "?"

end Status
end Flourish
