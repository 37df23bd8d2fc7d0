/-
This file holds paths of files.
-/

import Flourish.Text.Basic

namespace Flourish

/-- A path is its parts. It starts at the root of the tree or, if it is relative, elsewhere. -/
@[ext]
structure Path where
  absolute : Bool
  parts : List Text
  deriving DecidableEq, Repr

namespace Path

/-- The part that stands for the folder above. -/
def above : Text :=
  ".."

/-- Empty parts and parts that stand for the same place do not count. -/
def ofText (text : Text) : Path :=
  ⟨text.head? = some (.of '/'),
    (Text.fields '/' text).filter fun part => !part.isEmpty && part ≠ [.of '.']⟩

def toText (path : Path) : Text :=
  if path.absolute then .of '/' :: Text.join "/" path.parts
  else if path.parts.isEmpty then "."
  else Text.join "/" path.parts

/-- The path of what `other` names from this path. -/
def append (path other : Path) : Path :=
  if other.absolute then other else ⟨path.absolute, path.parts ++ other.parts⟩

def folder (path : Path) : Path :=
  ⟨path.absolute, path.parts.dropLast⟩

/-- The path as it is seen from a folder, if it leads through that folder. -/
def relativeTo? (path folder : Path) : Option Path :=
  if path.absolute = folder.absolute && folder.parts.isPrefixOf path.parts then
    some ⟨false, path.parts.drop folder.parts.length⟩
  else none

/-- The last part, if there is one. -/
def name (path : Path) : Text :=
  path.parts.getLast?.getD []

/-- The name without its last suffix. A suffix does not start the name and is not a mere point. -/
def stem (path : Path) : Text :=
  let suffix := path.name.reverse.takeWhile (· ≠ .of '.')
  let rest := (path.name.reverse.drop suffix.length).drop 1
  if suffix.isEmpty || rest.isEmpty then path.name else rest.reverse

/-- Paths are ordered part by part. -/
def atMost (first second : Path) : Bool :=
  !decide (second.parts < first.parts)

end Path
end Flourish
