/-
This file resolves colors: names of an overlay, then names of a built-in table, then raw
hexadecimal values. Results have six upper case digits and no number sign.
-/

import Flourish.Failure
import Flourish.Table
import Flourish.Text.Blank
import Flourish.Tag.Read

namespace Flourish

/-- The built-in colors never change. Only the overlay grows. -/
structure Palette where
  builtin : Table Text
  overlay : Table Text
  deriving DecidableEq, Repr

namespace Palette

def ofBuiltin (builtin : Table Text) : Palette :=
  ⟨builtin, []⟩

def isHexDigit (letter : Letter) : Bool :=
  ('0' ≤ letter && letter ≤ '9') || ('a' ≤ letter && letter ≤ 'f') ||
    ('A' ≤ letter && letter ≤ 'F')

def isHex (text : Text) : Bool :=
  text.length = 6 && text.all isHexDigit

/-- The six digits of a hexadecimal color in upper case. A number sign may stand before them and
white space around. -/
def hexNormalized? (value : Text) : Option Text :=
  let digits :=
    match Text.trim value with
    | '#' :: rest => rest
    | other => other
  if isHex digits then some (digits.map Letter.toUpper) else none

/-- The color of a name or a hexadecimal value. -/
def lookup? (palette : Palette) (name : Text) : Option Text :=
  let key := Text.trim name
  match palette.overlay.find? key with
  | some color => some color
  | none =>
      match palette.builtin.find? key with
      | some color => some color
      | none => hexNormalized? key

/-- A value that is no color stays as it is. -/
def resolved (palette : Palette) (value : Text) : Text :=
  (palette.lookup? value).getD value

/-- The color of a value that must have one. -/
def require (palette : Palette) (parameter value : Text) : Except Failure Text :=
  match palette.lookup? value with
  | some color => .ok color
  | none => .error (Cause.invalidParameter parameter value .notColor).unplaced

/-- The parameters whose values name colors. -/
def colorParameters : List Text :=
  ["color", "colors", "bg", "logoColor", "labelColor", "label_color", "icon_color", "left",
    "right"]

/-- The items of a color value, each resolved; empty items stay empty. -/
def resolvedItems (palette : Palette) (value : Text) : Text :=
  Text.join [.of ','] ((Text.fields ',' value).map fun item =>
    if item.isEmpty then item else palette.resolved item)

/-- A color parameter with its equals sign at the front of a text. -/
def parameterAt? (text : Text) : Option Text :=
  (colorParameters.map (· ++ [.of '='])).find? fun parameter => parameter.isPrefixOf text

def isColorLetter (letter : Letter) : Bool :=
  !Tag.endsValue letter

/-- The text with every color in a color parameter resolved. A parameter does not begin right
after a name letter, which `inName` tells, and its value ends where a segment ends. -/
def resolvedRefsFrom (palette : Palette) (inName : Bool) : Text → Text
  | [] => []
  | letter :: rest =>
      match if inName then none else parameterAt? (letter :: rest) with
      | some parameter =>
          let after := rest.drop (parameter.length - 1)
          let value := after.takeWhile isColorLetter
          parameter ++ palette.resolvedItems value ++
            palette.resolvedRefsFrom false (after.drop value.length)
      | none => letter :: palette.resolvedRefsFrom (Tag.isNameLetter letter) rest
termination_by text => text.length
decreasing_by all_goals (simp only [List.length_drop, List.length_cons]; omega)

def resolvedRefs (palette : Palette) (text : Text) : Text :=
  palette.resolvedRefsFrom false text

/-- The entries with normal values, or the first entry whose value is no hexadecimal color. -/
def normalizedEntries : List (Text × Text) → Except Failure (List (Text × Text))
  | [] => .ok []
  | (name, value) :: rest =>
      match hexNormalized? value with
      | none => .error (Cause.invalidParameter name value .notHex).unplaced
      | some color => (normalizedEntries rest).map ((name, color) :: ·)

/-- The palette with more overlay colors. One bad value refuses them all. -/
def extend (palette : Palette) (overrides : List (Text × Text)) : Except Failure Palette :=
  (normalizedEntries overrides).map fun entries =>
    { palette with overlay := palette.overlay.insertAll entries }

end Palette
end Flourish
