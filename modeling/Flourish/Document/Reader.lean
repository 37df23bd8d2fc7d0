/-
This file reads documents from their written form: objects, arrays, strings and numbers as in
JSON. Configuration files differ in a few points. An empty one, or one that holds only comments,
is the absent document.
-/

import Flourish.Document.Basic
import Flourish.Table
import Flourish.Text.Numeral

namespace Flourish.Document

/-- How a document is written: as programs exchange it, or as people keep a configuration. -/
inductive Dialect where
  | interchange
  | configuration
  deriving DecidableEq, Repr

namespace Reader

/-- White space between the parts of a document. No tab stands in a configuration. -/
def isSpace (dialect : Dialect) (letter : Letter) : Bool :=
  letter = ' ' || letter = '\n' || letter = '\r' || (letter = '\t' && dialect = .interchange)

def skipSpace (dialect : Dialect) (input : Text) : Text :=
  input.dropWhile (isSpace dialect)

def hexValue? (letter : Letter) : Option Nat :=
  if '0' ≤ letter && letter ≤ '9' then some (letter.toNat - 48)
  else if 'a' ≤ letter && letter ≤ 'f' then some (letter.toNat - 87)
  else if 'A' ≤ letter && letter ≤ 'F' then some (letter.toNat - 55)
  else none

/-- The number that four hexadecimal digits at the front of a text write, and the rest. -/
def unit? : Text → Option (Nat × Text)
  | first :: second :: third :: fourth :: rest => do
      let high := (← hexValue? first) * 16 + (← hexValue? second)
      let low := (← hexValue? third) * 16 + (← hexValue? fourth)
      pure (high * 256 + low, rest)
  | _ => none

def simpleEscape? : Letter → Option Letter
  | '"' => some (.of '"')
  | '\\' => some (.of '\\')
  | '/' => some (.of '/')
  | 'b' => some (.of '\x08')
  | 'f' => some (.of '\x0c')
  | 'n' => some (.of '\n')
  | 'r' => some (.of '\r')
  | 't' => some (.of '\t')
  | _ => none

def isHighHalf (unit : Nat) : Bool :=
  0xD800 ≤ unit && unit < 0xDC00

def isLowHalf (unit : Nat) : Bool :=
  0xDC00 ≤ unit && unit < 0xE000

/-- The letter of two halves. -/
def joined (high low : Nat) : Letter :=
  Letter.ofNat (0x10000 + (high - 0xD800) * 1024 + (low - 0xDC00))

/-- The letter that a unit after `\u` begins, and the text after it. Two halves in a row write one
letter, but not in a configuration. -/
def escapedLetter (dialect : Dialect) (unit : Nat) (rest : Text) : Letter × Text :=
  match dialect, rest with
  | .interchange, '\\' :: 'u' :: after =>
      match unit? after with
      | some (low, others) =>
          if isHighHalf unit && isLowHalf low then (joined unit low, others)
          else (Letter.ofNat unit, rest)
      | none => (Letter.ofNat unit, rest)
  | _, _ => (Letter.ofNat unit, rest)

/-- The letters of a string up to its closing mark, and the text after it. -/
def stringBody (dialect : Dialect) : Nat → Text → Text → Option (Text × Text)
  | 0, _, _ => none
  | _ + 1, _, [] => none
  | _ + 1, found, '"' :: rest => some (found.reverse, rest)
  | depth + 1, found, '\\' :: 'u' :: rest =>
      match unit? rest with
      | some (unit, after) =>
          let (letter, others) := escapedLetter dialect unit after
          stringBody dialect depth (letter :: found) others
      | none => none
  | depth + 1, found, '\\' :: letter :: rest =>
      match simpleEscape? letter with
      | some escaped => stringBody dialect depth (escaped :: found) rest
      | none => none
  | depth + 1, found, letter :: rest =>
      if letter.toNat < 0x20 || letter = '\\' then none
      else stringBody dialect depth (letter :: found) rest

/-- The string whose opening mark stands before a text, and the text after it. -/
def string? (dialect : Dialect) (input : Text) : Option (Text × Text) :=
  stringBody dialect (input.length + 1) [] input

def isAsciiDigit (letter : Letter) : Bool :=
  '0' ≤ letter && letter ≤ '9'

def naturalOf (digits : Text) : Nat :=
  digits.foldl (fun value letter => value * 10 + (letter.toNat - 48)) 0

/-- The whole part of a number: a single zero, or digits that do not start with one. -/
def wholePart? (input : Text) : Option (Text × Text) :=
  match input.takeWhile isAsciiDigit with
  | [] => none
  | '0' :: _ :: _ => none
  | digits => some (digits, input.dropWhile isAsciiDigit)

/-- The digits after a decimal point, if there is one; `none` for a point without digits. -/
def fractionPart? : Text → Option (Option Text × Text)
  | '.' :: rest =>
      match rest.takeWhile isAsciiDigit with
      | [] => none
      | digits => some (some digits, rest.dropWhile isAsciiDigit)
  | input => some (none, input)

def exponentDigits? (negative : Bool) (input : Text) : Option (Option Int × Text) :=
  match input.takeWhile isAsciiDigit with
  | [] => none
  | digits =>
      let size : Int := naturalOf digits
      some (some (if negative then -size else size), input.dropWhile isAsciiDigit)

def exponentPart? : Text → Option (Option Int × Text)
  | letter :: rest =>
      if letter = 'e' || letter = 'E' then
        match rest with
        | '-' :: digits => exponentDigits? true digits
        | '+' :: digits => exponentDigits? false digits
        | digits => exponentDigits? false digits
      else some (none, letter :: rest)
  | [] => some (none, [])

/-- The value of a number without sign, and the text after it. A number without point and exponent
is an integer. It has no more digits than are ever read. -/
def magnitude? (negative : Bool) (input : Text) : Option (Document × Text) := do
  let (whole, afterWhole) ← wholePart? input
  let (fraction, afterFraction) ← fractionPart? afterWhole
  let (exponent, rest) ← exponentPart? afterFraction
  match fraction, exponent with
  | none, none =>
      let size : Int := naturalOf whole
      if Text.maximumDigits < whole.length then none
      else pure (.integer (if negative then -size else size), rest)
  | _, _ =>
      let digits := fraction.getD []
      let power := exponent.getD 0 - (digits.length : Int)
      pure (.real (Binary64.ofDecimal negative (naturalOf (whole ++ digits)) power), rest)

/-- In a configuration a number with an exponent has a point, and its exponent a sign. -/
def isPlainNumber (written : Text) : Bool :=
  match written.dropWhile fun letter => letter ≠ .of 'e' && letter ≠ .of 'E' with
  | [] => true
  | _ :: '+' :: _ | _ :: '-' :: _ => written.contains '.'
  | _ => false

/-- The number at the front of a text, and the text after it. What is no number in a configuration
is a text there. -/
def number? (dialect : Dialect) (input : Text) : Option (Document × Text) := do
  let found ← match input with
    | '-' :: digits => magnitude? true digits
    | digits => magnitude? false digits
  let written := input.take (input.length - found.2.length)
  if dialect = .interchange || isPlainNumber written then pure found
  else pure (.text written, found.2)

/-- The values that are written as words. -/
def keywords : Dialect → List (Text × Document)
  | .configuration => [("null", .absent), ("true", .flag true), ("false", .flag false)]
  | .interchange =>
      [("null", .absent), ("true", .flag true), ("false", .flag false),
        ("NaN", .real Binary64.undefined), ("Infinity", .real (Binary64.infinity false)),
        ("-Infinity", .real (Binary64.infinity true))]

def keyword? (dialect : Dialect) (input : Text) : Option (Document × Text) :=
  ((keywords dialect).find? fun keyword => keyword.1.isPrefixOf input).map fun keyword =>
    (keyword.2, input.drop keyword.1.length)

/-- A word or a number at the front of a text, and the text after it. -/
def scalar? (dialect : Dialect) (input : Text) : Option (Document × Text) :=
  match keyword? dialect input with
  | some found => some found
  | none => number? dialect input

mutual

/-- A value at the front of a text, and the text after it. The depth bounds the recursion. -/
def value? (dialect : Dialect) : Nat → Text → Option (Document × Text)
  | 0, _ => none
  | depth + 1, input =>
      match skipSpace dialect input with
      | '"' :: rest =>
          (string? dialect rest).map fun (found, after) => (.text found, after)
      | '[' :: rest =>
          match skipSpace dialect rest with
          | ']' :: after => some (.list [], after)
          | inside => items? dialect depth [] inside
      | '{' :: rest =>
          match skipSpace dialect rest with
          | '}' :: after => some (.mapping [], after)
          | inside => entries? dialect depth [] inside
      | other => scalar? dialect other

/-- The items of an array from the first of those not yet read on. -/
def items? (dialect : Dialect) : Nat → List Document → Text → Option (Document × Text)
  | 0, _, _ => none
  | depth + 1, found, input =>
      match value? dialect depth input with
      | none => none
      | some (item, rest) =>
          match skipSpace dialect rest with
          | ',' :: after => items? dialect depth (item :: found) after
          | ']' :: after => some (.list (item :: found).reverse, after)
          | _ => none

/-- The entries of an object. Of two entries with one key the place of the first and the value of
the last are kept. -/
def entries? (dialect : Dialect) : Nat → Table Document → Text → Option (Document × Text)
  | 0, _, _ => none
  | depth + 1, found, input =>
      match skipSpace dialect input with
      | '"' :: rest =>
          match string? dialect rest with
          | none => none
          | some (key, afterKey) =>
              match skipSpace dialect afterKey with
              | ':' :: afterColon =>
                  match value? dialect depth afterColon with
                  | none => none
                  | some (value, afterValue) =>
                      match skipSpace dialect afterValue with
                      | ',' :: after => entries? dialect depth (found.insert key value) after
                      | '}' :: after => some (.mapping (found.insert key value), after)
                      | _ => none
              | _ => none
      | _ => none

end

end Reader

/-- The document that a whole text writes. -/
def parse? (dialect : Dialect) (input : Text) : Option Document :=
  match Reader.value? dialect (2 * input.length + 2) input with
  | some (document, rest) =>
      if (Reader.skipSpace dialect rest).isEmpty then some document else none
  | none => none

namespace Configuration

/-- A line that holds nothing, or nothing but a comment. -/
def isIdleLine (line : Text) : Bool :=
  match Reader.skipSpace .configuration line with
  | [] => true
  | letter :: _ => letter = '#'

/-- A letter that may stand in a configuration: halves may not, and neither may controls, the tab
and the ends of lines apart. -/
def isAllowed (letter : Letter) : Bool :=
  let code := letter.toNat
  code == 0x09 || code == 0x0A || code == 0x0D || (0x20 ≤ code && code ≤ 0x7E) || code == 0x85 ||
    (0xA0 ≤ code && code ≤ 0xD7FF) || (0xE000 ≤ code && code ≤ 0xFFFD) || 0x10000 ≤ code

/-- A text without the mark of byte order at its front. -/
def withoutMark : Text → Text
  | '\ufeff' :: rest => rest
  | unmarked => unmarked

end Configuration

/-- The document in a configuration file, if the file is well formed. -/
def ofFile? (input : Text) : Option Document :=
  let body := Configuration.withoutMark input
  if !body.all Configuration.isAllowed then none
  else if (Text.lines body).all Configuration.isIdleLine then some .absent
  else parse? .configuration body

end Flourish.Document
