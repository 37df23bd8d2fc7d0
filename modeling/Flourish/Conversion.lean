/-
This file maps text through the glyphs of a style.
-/

import Flourish.Failure
import Flourish.Registry.Definition

namespace Flourish

namespace StyleBody

/-- The table for a letter: capitals, small letters and digits of ASCII have their own. -/
def tableFor (style : StyleBody) (letter : Letter) : Table Document :=
  if 'A' ≤ letter && letter ≤ 'Z' then style.upper
  else if 'a' ≤ letter && letter ≤ 'z' then style.lower
  else if '0' ≤ letter && letter ≤ '9' then style.digits
  else style.extra

/-- A glyph that is given; an empty one counts as none. -/
def given? (table : Table Document) (letter : Letter) : Option Document :=
  (table.find? [letter]).filter Document.isGiven

/-- The glyph of a letter in its own table, else among the extra glyphs. -/
def glyph? (style : StyleBody) (letter : Letter) : Option Document :=
  match given? (style.tableFor letter) letter with
  | some glyph => some glyph
  | none => given? style.extra letter

/-- The text for a letter: its glyph, or the letter itself if it has none. -/
def glyph (style : StyleBody) (letter : Letter) : Except Defect Text :=
  match style.glyph? letter with
  | none => .ok [letter]
  | some (.text written) => .ok written
  | some _ => .error .wrongShape

def glyphs (style : StyleBody) (text : Text) : Except Defect (List Text) :=
  text.mapM style.glyph

end StyleBody

/-- What a style tag puts between glyphs. -/
inductive Spread where
  | plain
  | spaced (count : Nat)
  | separated (separator : Text)
  deriving DecidableEq, Repr

namespace Conversion

/-- Every letter becomes its glyph. -/
def convert (style : StyleBody) (text : Text) : Except Defect Text :=
  (style.glyphs text).map List.flatten

/-- Copies of a text one after another. -/
def repeated (count : Nat) (text : Text) : Text :=
  (List.replicate count text).flatten

/-- The glyphs with `count` copies of a separator between each two. -/
def separated (style : StyleBody) (text separator : Text) (count : Int) : Except Defect Text :=
  if count ≤ 0 || separator.isEmpty then convert style text
  else (style.glyphs text).map (Text.join (repeated count.toNat separator))

/-- The glyphs with `count` spaces between each two. -/
def spaced (style : StyleBody) (text : Text) (count : Int) : Except Defect Text :=
  if count ≤ 0 then convert style text else separated style text [.of ' '] count

def spread (style : StyleBody) (text : Text) : Spread → Except Defect Text
  | .plain => convert style text
  | .spaced count => spaced style text count
  | .separated separator => separated style text separator 1

end Conversion
end Flourish
