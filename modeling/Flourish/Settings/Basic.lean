/-
This file holds the settings of the library and their standard values.
-/

import Flourish.Context
import Flourish.Renderer.Backend
import Flourish.Span.Scan

namespace Flourish

structure Settings where
  maxExpansionDepth : Nat
  maxExpansions : Nat
  defaultContext : ContextKind
  separatorMaxClusters : Nat
  frameChromeMaxLength : Nat
  maxSpacing : Nat
  codeMarks : CodeMarks
  defaultBackend : Backend
  assetsFolder : Text
  projectFileName : Text
  deriving DecidableEq, Repr

namespace Settings

def standard : Settings where
  maxExpansionDepth := 64
  maxExpansions := 10000
  defaultContext := .block
  separatorMaxClusters := 1
  frameChromeMaxLength := 16
  maxSpacing := 16
  codeMarks := CodeMarks.standard
  defaultBackend := .shields
  assetsFolder := "assets"
  projectFileName := ".mdfx.yaml"

/-- The context of a kind with the limits that are set. -/
def context (settings : Settings) (kind : ContextKind) : Context :=
  Context.ofKind kind settings.separatorMaxClusters settings.frameChromeMaxLength

/-- The context of a whole document. -/
def documentContext (settings : Settings) : Context :=
  settings.context settings.defaultContext

/-- The context in which separators are looked up. -/
def separatorContext (settings : Settings) : Context :=
  Context.inline settings.separatorMaxClusters

end Settings
end Flourish
