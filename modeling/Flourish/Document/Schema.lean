/-
This file checks values of configuration files against the shapes they must have. A check that
fails names the places of all values that do not fit.
-/

import Flourish.Document.Basic
import Flourish.Table
import Flourish.Text.Numeral

namespace Flourish

/-- A value, or the places of the values that do not fit. -/
abbrev Checked (Value : Type) := Except (List Text) Value

namespace Checked

variable {Argument Value : Type}

/-- A checked function and its checked argument. The places of both are kept. -/
def apply (function : Checked (Argument → Value)) (argument : Checked Argument) :
    Checked Value :=
  match function, argument with
  | .ok function, .ok argument => .ok (function argument)
  | .ok _, .error places => .error places
  | .error places, .ok _ => .error places
  | .error places, .error others => .error (places ++ others)

/-- All values of a list, or the places of all that do not fit. -/
def all : List (Checked Value) → Checked (List Value)
  | [] => .ok []
  | item :: rest => Checked.apply (item.map List.cons) (all rest)

end Checked

namespace Schema

def misfit {Value : Type} (place : Text) : Checked Value :=
  .error [place]

/-- The place of a part of the value at a place. -/
def within (place part : Text) : Text :=
  place ++ .of '.' :: part

def text (place : Text) : Document → Checked Text
  | .text value => .ok value
  | _ => misfit place

/-- A text that is not empty. Its letters are counted, for which no half may be among them. -/
def filledText (place : Text) : Document → Checked Text
  | .text (letter :: rest) =>
      if (letter :: rest).any Letter.isHalf then misfit place else .ok (letter :: rest)
  | _ => misfit place

def texts (place : Text) : Document → Checked (List Text)
  | .list items =>
      Checked.all (items.zipIdx.map fun (item, index) =>
        text (within place (Text.ofNat index)) item)
  | _ => misfit place

/-- One of the values that have names. -/
def choice {Value : Type} (ofName? : Text → Option Value) (place : Text) :
    Document → Checked Value
  | .text name =>
      match ofName? name with
      | some value => .ok value
      | none => misfit place
  | _ => misfit place

def optional {Value : Type} (check : Text → Document → Checked Value) (place : Text) :
    Document → Checked (Option Value)
  | .absent => .ok none
  | value => (check place value).map some

/-- A mapping with values of one shape. -/
def table {Value : Type} (check : Text → Document → Checked Value) (place : Text) :
    Document → Checked (Table Value)
  | .mapping entries =>
      Checked.all (entries.map fun (name, value) =>
        (check (within place name) value).map (name, ·))
  | _ => misfit place

/-- What is left of a numeral after leading zeros and underscores, of which `last` came last. A
numeral that has nothing else keeps it, and so does one that goes on with a point. -/
def afterZeros? (last : Letter) : Text → Option Text
  | [] => some [last]
  | letter :: rest =>
      if letter = '0' || letter = '_' then afterZeros? letter rest
      else if letter = '.' then some (last :: letter :: rest)
      else if letter.isDigit || letter = '-' then some (letter :: rest)
      else none

/-- A numeral without leading zeros. A minus sign may stand before it or end the zeros. -/
def withoutZeros? : Text → Option Text
  | [] => none
  | letter :: rest =>
      if letter = '0' then afterZeros? letter rest
      else if letter.isDigit || letter = '-' then some (letter :: rest)
      else none

/-- A numeral without a fraction that is all zeros, of which there must be one. -/
def withoutFraction (numeral : Text) : Text :=
  let whole := numeral.takeWhile (· ≠ .of '.')
  match numeral.drop whole.length with
  | '.' :: '0' :: zeros => if zeros.all (· = .of '0') then whole else numeral
  | _ => numeral

/-- Every underscore of a text stands alone between two other letters. -/
def underscoresSingle : Text → Bool
  | [] => true
  | '_' :: _ => false
  | [_] => true
  | _ :: '_' :: rest => !rest.isEmpty && underscoresSingle rest
  | _ :: rest => underscoresSingle rest

def withoutUnderscores (numeral : Text) : Text :=
  if underscoresSingle numeral then numeral.filter (· ≠ .of '_') else numeral

/-- The natural number of ASCII digits that begin with no needless zero. -/
def natural? : Text → Option Nat
  | ['0'] => some 0
  | '0' :: _ | [] => none
  | digits => if digits.all Letter.isDigit then some (Text.decimalValue digits) else none

def signed? : Text → Option Int
  | '-' :: digits => (natural? digits).map fun size => -(size : Int)
  | digits => (natural? digits).map fun size => (size : Int)

/-- The text after a plus sign, which no other sign may follow. -/
def withoutPlus : Text → Text
  | '+' :: '-' :: rest => .of '+' :: .of '-' :: rest
  | '+' :: rest => rest
  | text => text

/-- The whole number that a text writes in ASCII digits. White space around it, a plus sign,
leading zeros, a fraction of zeros and single underscores do not matter. -/
def wholeNumber? (value : Text) : Option Int :=
  let core := ((value.dropWhile Text.isNumeralBlank).reverse.dropWhile Text.isNumeralBlank).reverse
  (withoutZeros? (withoutPlus core)).bind fun numeral =>
    let plain := withoutUnderscores (withoutFraction numeral)
    if Text.maximumDigits < plain.length then none else signed? plain

/-- The integer of a value: flags count as zero and one, and numbers written in a text count. -/
def integer? : Document → Option Int
  | .flag value => some (if value then 1 else 0)
  | .integer value => some value
  | .real value =>
      let bound : Int := Nat.pow 2 63
      value.toInteger?.filter fun integer => -bound < integer && integer < bound
  | .text value => wholeNumber? value
  | _ => none

/-- A whole number that is at least `minimum`. -/
def atLeast (minimum : Nat) (place : Text) (value : Document) : Checked Nat :=
  match integer? value with
  | some integer => if minimum ≤ integer then .ok integer.toNat else misfit place
  | none => misfit place

end Schema
end Flourish
