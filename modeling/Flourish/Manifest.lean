/-
This file lists the files that belong to an output.
-/

import Flourish.Asset
import Flourish.Digest.Sha256
import Flourish.FileTree.Path
import Flourish.Text.Escaped

namespace Flourish.Manifest

def fileName : Text :=
  "manifest.json"

/-- The kind of an asset is its file's name up to the first underscore. -/
def kindOf (asset : FileAsset) : Text :=
  (Path.ofText asset.path).stem.takeWhile (· ≠ .of '_')

/-- A field of an entry. -/
def field (name value : Text) : Text :=
  List.replicate 6 (Letter.of ' ') ++ Text.escaped name ++ ": " ++ value

/-- The entry of an asset: its size, path, digest and kind. -/
def entry (asset : FileAsset) : Text :=
  let fields := [
    field "bytes" (Text.ofNat asset.data.length),
    field "path" (Text.escaped asset.path),
    field "sha256" (Text.escaped (Digest.sha256Text asset.data)),
    field "type" (Text.escaped (kindOf asset))]
  "    \x7b\n" ++ Text.join ",\n" fields ++ "\n    \x7d"

def entries (assets : List FileAsset) : Text :=
  if assets.isEmpty then "[]"
  else "[\n" ++ Text.join ",\n" (assets.map entry) ++ "\n  ]"

/-- The manifest of assets, in the order of their first use. -/
def ofAssets (assets : List FileAsset) : Text :=
  "\x7b\n  \"assets\": " ++ entries assets ++ ",\n  \"version\": 1\n\x7d\n"

end Flourish.Manifest
