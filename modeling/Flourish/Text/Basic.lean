/-
This file holds text as a list of code points, with the searches and orders the library needs.
-/

import Flourish.Text.Letter

namespace Flourish

/-- A text is a list of code points, so every offset and length counts code points. -/
abbrev Text := List Letter

instance : Coe String Text := ⟨fun text => text.toList.map .of⟩

namespace Text

/-- This function writes a number in decimal digits. -/
def ofNat (value : Nat) : Text :=
  (Nat.toDigits 10 value).map .of

/-- This function writes an integer in decimal digits after an optional minus sign. -/
def ofInt (value : Int) : Text :=
  if value < 0 then .of '-' :: ofNat value.natAbs else ofNat value.natAbs

/-- The part of a text at positions from `start` up to `stop`. -/
def slice (start stop : Nat) (text : Text) : Text :=
  (text.take stop).drop start

/-- The first position at which `needle` starts in the text. -/
def firstIndex (needle : Text) : Text → Option Nat
  | [] => if needle.isEmpty then some 0 else none
  | letter :: rest =>
      if needle.isPrefixOf (letter :: rest) then some 0
      else (firstIndex needle rest).map (· + 1)

/-- A text split at every separator; there is always at least one field. -/
def fields (separator : Letter) : Text → List Text
  | [] => [[]]
  | letter :: rest =>
      if letter = separator then [] :: fields separator rest
      else
        match fields separator rest with
        | [] => [[letter]]
        | field :: others => (letter :: field) :: others

/-- The lines of a text, each with its newline. The last line may have none. -/
def lines : Text → List Text
  | [] => []
  | letter :: rest =>
      if letter = '\n' then [letter] :: lines rest
      else
        match lines rest with
        | [] => [[letter]]
        | line :: others => (letter :: line) :: others

/-- The pieces in order with `separator` between each two of them. -/
def join (separator : Text) (pieces : List Text) : Text :=
  (pieces.intersperse separator).flatten

/-- A list of names as it reads in a message. -/
def commaSeparated (names : List Text) : Text :=
  join ", " names

/-- Texts are ordered by code point. -/
def atMost (first second : Text) : Bool :=
  !decide (second < first)

def sorted (texts : List Text) : List Text :=
  texts.mergeSort atMost

/-- Each text once, in code point order. -/
def sortedDistinct (texts : List Text) : List Text :=
  sorted texts.eraseDups

/-- The text without the given letter at its two ends. -/
def stripLetter (letter : Letter) (text : Text) : Text :=
  ((text.dropWhile (· = letter)).reverse.dropWhile (· = letter)).reverse

/-- Returns and pairs of return and newline become newlines. -/
def unifyNewlines : Text → Text
  | '\r' :: '\n' :: rest => .of '\n' :: unifyNewlines rest
  | '\r' :: rest => .of '\n' :: unifyNewlines rest
  | letter :: rest => letter :: unifyNewlines rest
  | [] => []

end Text
end Flourish
