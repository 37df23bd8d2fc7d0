/-
This file finds the text that a style tag puts between glyphs.
-/

import Flourish.Registry.Basic
import Flourish.Text.Blank
import Flourish.Text.Cluster

namespace Flourish.Registry

/-- Letters that end a value in a head can be no separator. -/
def reservedLetters : List Letter :=
  [.of ':', .of '/', .of '}']

def separatorFault (value : Text) (fault : ParameterFault) : Failure :=
  (Cause.invalidParameter "separator" value fault).unplaced

/-- A separator that is no name: one cluster that is within the limit of the context. -/
def literalSeparator (segment : Text → List Text) (registry : Registry) (value trimmed : Text)
    (context : Context) : Except Failure Text :=
  let count := (segment trimmed).length
  if count = 1 && (count : Int) ≤ context.limit.getD 1 then
    if trimmed.any reservedLetters.contains then .error (separatorFault value .reservedLetter)
    else .ok trimmed
  else .error (unknownIn .separator registry.separators trimmed)

/-- The separator of a value: a named one that may be used here, or one cluster as it is. A name
of any other renderable must be usable here too. Clusters are what a division of texts gives. -/
def separatorBy (segment : Text → List Text) (registry : Registry) (value : Text)
    (context : Context) : Except Failure Text :=
  let trimmed := Text.trim value
  if trimmed.isEmpty then .error (separatorFault value .emptySeparator)
  else if reservedLetters.any fun letter => trimmed = [letter] then
    .error (separatorFault value (.reservedSeparator trimmed))
  else
    match resolveIn registry.separators trimmed context with
    | .error failure => .error failure
    | .ok (some entry) => .ok entry.body.text
    | .ok none =>
        match registry.resolve trimmed context with
        | .error failure => .error failure
        | .ok _ => registry.literalSeparator segment value trimmed context

/-- The separator of a value, with texts divided into the clusters of Annex 29. -/
def separator (registry : Registry) (value : Text) (context : Context) : Except Failure Text :=
  registry.separatorBy Text.clusters value context

end Flourish.Registry
