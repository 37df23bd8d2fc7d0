/-
This file holds processors: all that the expansion of a document depends on.
-/

import Flourish.Palette
import Flourish.Registry.Basic
import Flourish.Settings.Basic

namespace Flourish

/-- A processor expands documents in one context with one registry, palette and backend. -/
structure Processor where
  registry : Registry
  palette : Palette
  settings : Settings
  renderer : Renderer
  context : Context

namespace Processor

/-- A processor whose palette is that of its registry. -/
def make (registry : Registry) (settings : Settings) (renderer : Renderer) (context : Context) :
    Processor :=
  ⟨registry, Palette.ofBuiltin registry.palette, settings, renderer, context⟩

end Processor
end Flourish
