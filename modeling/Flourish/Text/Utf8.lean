/-
This file writes text as UTF-8 octets and reads it back.
-/

import Flourish.Text.Quoted

namespace Flourish.Text

abbrev Octets := List UInt8

/-- Octets as many as the code of a letter needs. -/
def letterOctets (letter : Letter) : Octets :=
  let code := letter.toNat
  if code < 0x80 then [code.toUInt8]
  else if code < 0x800 then [(0xC0 + code / 64).toUInt8, (0x80 + code % 64).toUInt8]
  else if code < 0x10000 then
    [(0xE0 + code / 4096).toUInt8, (0x80 + code / 64 % 64).toUInt8, (0x80 + code % 64).toUInt8]
  else
    [(0xF0 + code / 262144).toUInt8, (0x80 + code / 4096 % 64).toUInt8,
      (0x80 + code / 64 % 64).toUInt8, (0x80 + code % 64).toUInt8]

def toUtf8 (text : Text) : Octets :=
  text.flatMap letterOctets

/-- Why a text cannot be written: its first halves in a row, which are `more` halves after the one
at `start`. -/
structure EncodingFault where
  start : Nat
  half : Letter
  more : Nat
  deriving DecidableEq, Repr

namespace EncodingFault

def place (fault : EncodingFault) : Text :=
  if fault.more = 0 then
    "character '\\u" ++ hexadecimal 4 fault.half.toNat ++ "' in position " ++ ofNat fault.start
  else
    "characters in position " ++ ofNat fault.start ++
      .of '-' :: ofNat (fault.start + fault.more)

def message (fault : EncodingFault) : Text :=
  "'utf-8' codec can't encode " ++ fault.place ++ ": surrogates not allowed"

end EncodingFault

/-- The fault of a text that has `position` letters before it. -/
def encodingFaultFrom (position : Nat) : Text → Option EncodingFault
  | [] => none
  | letter :: rest =>
      if letter.isHalf then some ⟨position, letter, (rest.takeWhile Letter.isHalf).length⟩
      else encodingFaultFrom (position + 1) rest

/-- The octets of a text, if none of its letters is a half. -/
def encoded (text : Text) : Except EncodingFault Octets :=
  match encodingFaultFrom 0 text with
  | some fault => .error fault
  | none => .ok (toUtf8 text)

/-- Why octets are no UTF-8: where the bad sequence starts, its octets, and what is wrong. -/
inductive Utf8Fault where
  | invalidStart (position : Nat) (octet : UInt8)
  | invalidContinuation (start stop : Nat) (octet : UInt8)
  | unexpectedEnd (start stop : Nat) (octet : UInt8)
  deriving DecidableEq, Repr

namespace Utf8Fault

def range (start stop : Nat) (octet : UInt8) : Text :=
  if start = stop then
    "byte 0x" ++ hexadecimal 2 octet.toNat ++ " in position " ++ ofNat start
  else "bytes in position " ++ ofNat start ++ .of '-' :: ofNat stop

def message (fault : Utf8Fault) : Text :=
  let (place, reason) : Text × Text :=
    match fault with
    | .invalidStart position octet => (range position position octet, "invalid start byte")
    | .invalidContinuation start stop octet =>
        (range start stop octet, "invalid continuation byte")
    | .unexpectedEnd start stop octet => (range start stop octet, "unexpected end of data")
  "'utf-8' codec can't decode " ++ place ++ ": " ++ reason

end Utf8Fault

def isContinuation (octet : UInt8) : Bool :=
  0x80 ≤ octet && octet ≤ 0xBF

/-- The number of octets after a first octet and the range its second octet must be in. -/
def leadOf (octet : UInt8) : Option (Nat × UInt8 × UInt8) :=
  if octet < 0xC2 then none
  else if octet ≤ 0xDF then some (1, 0x80, 0xBF)
  else if octet = 0xE0 then some (2, 0xA0, 0xBF)
  else if octet = 0xED then some (2, 0x80, 0x9F)
  else if octet ≤ 0xEF then some (2, 0x80, 0xBF)
  else if octet = 0xF0 then some (3, 0x90, 0xBF)
  else if octet ≤ 0xF3 then some (3, 0x80, 0xBF)
  else if octet = 0xF4 then some (3, 0x80, 0x8F)
  else none

/-- How many of the next octets continue a sequence that still owes `owed` octets; the first of
them must be from `low` to `high`. -/
def continuing : Nat → UInt8 → UInt8 → Octets → Nat
  | 0, _, _, _ => 0
  | _, _, _, [] => 0
  | owed + 1, low, high, octet :: rest =>
      if low ≤ octet && octet ≤ high then 1 + continuing owed 0x80 0xBF rest else 0

def payload (octets : Octets) (lead : Nat) : Nat :=
  octets.foldl (fun code octet => code * 64 + (octet.toNat - 0x80)) lead

def leadPayload (octet : UInt8) (owed : Nat) : Nat :=
  match owed with
  | 1 => octet.toNat - 0xC0
  | 2 => octet.toNat - 0xE0
  | _ => octet.toNat - 0xF0

/-- The text that octets write, read with `position` octets before them. -/
def ofUtf8From (position : Nat) : Octets → Except Utf8Fault Text
  | [] => .ok []
  | octet :: rest =>
      if octet < 0x80 then
        (ofUtf8From (position + 1) rest).map (Letter.ofNat octet.toNat :: ·)
      else
        match leadOf octet with
        | none => .error (.invalidStart position octet)
        | some (owed, low, high) =>
            let good := continuing owed low high rest
            if good = owed then
              let code := payload (rest.take owed) (leadPayload octet owed)
              (ofUtf8From (position + 1 + owed) (rest.drop owed)).map (Letter.ofNat code :: ·)
            else if good = rest.length then
              .error (.unexpectedEnd position (position + good) octet)
            else .error (.invalidContinuation position (position + good) octet)
termination_by octets => octets.length
decreasing_by all_goals (simp only [List.length_drop, List.length_cons]; omega)

def ofUtf8 (octets : Octets) : Except Utf8Fault Text :=
  ofUtf8From 0 octets

end Flourish.Text
