/-
This file holds assets: what a backend hands back for a primitive.
-/

import Flourish.Text.Utf8

namespace Flourish

/-- A file to be written next to the output. -/
structure FileAsset where
  path : Text
  data : Text.Octets
  reference : Text
  deriving DecidableEq, Repr

/-- Markdown for the output, or a file with the markdown that refers to it. -/
inductive Asset where
  | markdown (text : Text)
  | file (asset : FileAsset)
  deriving DecidableEq, Repr

namespace Asset

/-- The markdown that takes the place of the tag. -/
def toMarkdown : Asset → Text
  | .markdown text => text
  | .file asset => asset.reference

end Asset
end Flourish
