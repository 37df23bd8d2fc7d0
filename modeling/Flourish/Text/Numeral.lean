/-
This file reads integers as a person types them: white space around, a sign, digits of any script,
and single underscores between digits.
-/

import Flourish.Text.Blank
import Flourish.Text.Digit

namespace Flourish.Text

/-- The longest row of digits that is read as a number. -/
def maximumDigits : Nat := 4300

/-- White space around a number; the separator controls U+001C to U+001F do not count. -/
def isNumeralBlank (letter : Letter) : Bool :=
  isBlank letter && !(0x1C ≤ letter.toNat && letter.toNat ≤ 0x1F)

/-- The digits of a numeral without its underscores, each of which must stand between two. -/
def numeralDigits? : Text → Option Text
  | [] => none
  | [letter] => if isDecimal letter then some [letter] else none
  | letter :: '_' :: rest =>
      if isDecimal letter then (numeralDigits? rest).map (letter :: ·) else none
  | letter :: rest =>
      if isDecimal letter then (numeralDigits? rest).map (letter :: ·) else none

/-- A numeral split into its sign and the letters after it. -/
def splitSign : Text → Bool × Text
  | '-' :: rest => (true, rest)
  | '+' :: rest => (false, rest)
  | text => (false, text)

/-- The integer that a text writes, if it writes one of at most `maximumDigits` digits. -/
def readInteger? (text : Text) : Option Int :=
  let core := ((text.dropWhile isNumeralBlank).reverse.dropWhile isNumeralBlank).reverse
  let (negative, unsigned) := splitSign core
  match numeralDigits? unsigned with
  | none => none
  | some digits =>
      if maximumDigits < digits.length then none
      else
        let value := decimalValue digits
        some (if negative then -(value : Int) else (value : Int))

end Flourish.Text
