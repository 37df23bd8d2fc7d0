/-
This file holds the white space letters of Unicode and trimming.
-/

import Flourish.Text.Basic

namespace Flourish.Text

/-- A white space letter: the controls U+0009 to U+000D and U+001C to U+001F, the next line
control, and the separators of Unicode. The zero width space is not one. -/
def isBlank (letter : Letter) : Bool :=
  let code := letter.toNat
  (0x09 ≤ code && code ≤ 0x0D) || (0x1C ≤ code && code ≤ 0x20) || code == 0x85 ||
    code == 0xA0 || code == 0x1680 || (0x2000 ≤ code && code ≤ 0x200A) || code == 0x2028 ||
    code == 0x2029 || code == 0x202F || code == 0x205F || code == 0x3000

def trimStart (text : Text) : Text :=
  text.dropWhile isBlank

def trimEnd (text : Text) : Text :=
  (text.reverse.dropWhile isBlank).reverse

/-- The text without the white space at its two ends. -/
def trim (text : Text) : Text :=
  trimEnd (trimStart text)

/-- Every run of white space becomes one space. -/
def collapseBlanks : Text → Text
  | [] => []
  | letter :: rest =>
      if isBlank letter then
        match rest with
        | next :: _ => if isBlank next then collapseBlanks rest else .of ' ' :: collapseBlanks rest
        | [] => [.of ' ']
      else letter :: collapseBlanks rest

end Flourish.Text
