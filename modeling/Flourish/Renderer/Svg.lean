/-
This file draws primitives as image files. A file is named for its contents, so equal primitives
have one file.
-/

import Flourish.Digest.Sha256
import Flourish.Renderer.Basic

namespace Flourish.Renderer.Svg

def blockWidth : Nat := 20

/-- Rectangles of one width side by side. -/
def rectangles (width : Nat) (index : Nat) : List Text → Text
  | [] => []
  | color :: rest =>
      wording ["<rect x=\"", Text.ofNat (index * width), "\" y=\"0\" width=\"", Text.ofNat width,
        "\" height=\"20\" fill=\"#", color, "\"/>"] ++ rectangles width (index + 1) rest

def escapedLetter : Letter → Text
  | '&' => "&amp;"
  | '<' => "&lt;"
  | '>' => "&gt;"
  | letter => [letter]

def caption (text color : Text) : Text :=
  wording ["<text x=\"4\" y=\"14\" fill=\"#", color,
    "\" font-family=\"monospace\" font-size=\"11\">", text.flatMap escapedLetter, "</text>"]

def captionWidth (text : Text) : Nat :=
  8 + 7 * text.length

/-- The elements of an image and its width. -/
def body : Primitive → Text × Nat
  | .swatch color _ none | .swatch color _ (some []) =>
      (rectangles blockWidth 0 [color], blockWidth)
  | .swatch color _ (some label) =>
      (rectangles (captionWidth label) 0 [color] ++ caption label "FFFFFF", captionWidth label)
  | .divider colors _ => (rectangles blockWidth 0 colors, blockWidth * colors.length)
  | .tech name background logo _ =>
      (rectangles (captionWidth name) 0 [background] ++ caption name logo, captionWidth name)
  | .status level _ => (rectangles blockWidth 0 [Status.color level], blockWidth)
  | .twoTone left right _ => (rectangles (blockWidth / 2) 0 [left, right], blockWidth)

def image (primitive : Primitive) : Text :=
  let (elements, width) := body primitive
  wording ["<svg xmlns=\"http://www.w3.org/2000/svg\" width=\"", Text.ofNat width,
    "\" height=\"20\" viewBox=\"0 0 ", Text.ofNat width, " 20\">", elements, "</svg>\n"]

/-- The folder of image files without slashes at its ends. -/
def folder (assetsFolder : Text) : Text :=
  match Text.stripLetter '/' assetsFolder with
  | [] => [.of '.']
  | name => name

/-- The file of a primitive with these contents. -/
def file (assetsFolder : Text) (primitive : Primitive) (data : Text.Octets) : FileAsset :=
  let digest := (Digest.sha256Text data).take 12
  let path := wording [folder assetsFolder, "/", primitive.kind, "_", digest, ".svg"]
  ⟨path, data, wording ["![](", path, ")"]⟩

/-- The file of a primitive, unless its image has no octets. -/
def draw (assetsFolder : Text) (primitive : Primitive) : Except Text.EncodingFault FileAsset :=
  (Text.encoded (image primitive)).map (file assetsFolder primitive)

end Flourish.Renderer.Svg
