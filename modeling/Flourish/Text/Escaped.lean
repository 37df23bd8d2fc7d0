/-
This file writes texts as string literals of data files, in ASCII letters only.
-/

import Flourish.Text.Quoted

namespace Flourish.Text

def escapedUnit (unit : Nat) : Text :=
  "\\u" ++ hexadecimal 4 unit

/-- A letter as it stands in a literal. A letter beyond the basic plane is a pair of units. -/
def escapedLetter (letter : Letter) : Text :=
  let code := letter.toNat
  if letter = '"' || letter = '\\' then ['\\', letter]
  else if 0x20 ≤ code && code ≤ 0x7E then [letter]
  else if letter = '\n' then "\\n"
  else if letter = '\r' then "\\r"
  else if letter = '\t' then "\\t"
  else if letter = '\x08' then "\\b"
  else if letter = '\x0c' then "\\f"
  else if code < 0x10000 then escapedUnit code
  else
    escapedUnit (0xD800 + (code - 0x10000) / 1024) ++
      escapedUnit (0xDC00 + (code - 0x10000) % 1024)

/-- The literal of a text. -/
def escaped (text : Text) : Text :=
  .of '"' :: text.flatMap escapedLetter ++ [.of '"']

end Flourish.Text
