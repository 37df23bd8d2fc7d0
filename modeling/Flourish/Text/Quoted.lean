/-
This file writes texts in quotation marks as messages show them.
-/

import Flourish.Text.Printable

namespace Flourish.Text

def hexDigit (value : Nat) : Letter :=
  if value < 10 then Letter.ofNat (48 + value) else Letter.ofNat (87 + value)

/-- The lowest `width` hexadecimal digits of a number. -/
def hexadecimal : Nat → Nat → Text
  | 0, _ => []
  | width + 1, value => hexadecimal width (value / 16) ++ [hexDigit (value % 16)]

/-- One letter between quotation marks of the given kind. -/
def quotedLetter (mark letter : Letter) : Text :=
  if letter = mark || letter = '\\' then ['\\', letter]
  else if letter = '\n' then "\\n"
  else if letter = '\r' then "\\r"
  else if letter = '\t' then "\\t"
  else if isPrintable letter then [letter]
  else
    let code := letter.toNat
    if code < 0x100 then "\\x" ++ hexadecimal 2 code
    else if code < 0x10000 then "\\u" ++ hexadecimal 4 code
    else "\\U" ++ hexadecimal 8 code

/-- Single marks enclose a text unless it holds one of them and no double mark. -/
def quotationMark (text : Text) : Letter :=
  if text.contains '\'' && !text.contains '"' then '"' else '\''

/-- A text in quotation marks, with invisible letters written as escapes. -/
def quoted (text : Text) : Text :=
  let mark := quotationMark text
  mark :: text.flatMap (quotedLetter mark) ++ [mark]

/-- Several quoted texts in brackets. -/
def quotedList (texts : List Text) : Text :=
  .of '[' :: join ", " (texts.map quoted) ++ [.of ']']

end Flourish.Text
