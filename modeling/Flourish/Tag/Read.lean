/-
This file reads the tag or closer at the front of a text.
-/

import Flourish.Failure
import Flourish.Tag.Basic

namespace Flourish

namespace Tag

/-- Letters of names: ASCII letters and digits, the hyphen and the underscore. -/
def isNameLetter (letter : Letter) : Bool :=
  letter.isAlphanum || letter = '-' || letter = '_'

/-- Letters that end a segment of a head. -/
def endsValue (letter : Letter) : Bool :=
  letter = ':' || letter = '/' || letter = '}'

/-- Letters that may stand in no head: a brace that opens, and a newline. -/
def breaksHead (letter : Letter) : Bool :=
  letter = '{' || letter = '\n'

def isSegmentLetter (letter : Letter) : Bool :=
  !endsValue letter && !breaksHead letter

/-- A segment of a head is an argument, or a parameter if it has an equals sign. -/
inductive HeadPart where
  | argument (value : Text)
  | parameter (key value : Text)
  deriving DecidableEq, Repr

/-- The part that a segment writes. A key is a name. -/
def HeadPart.ofSegment (name segment : Text) : Except TagFault HeadPart :=
  if segment.isEmpty then .error (.emptyArgument name)
  else if segment.contains '=' then
    let key := segment.takeWhile (· ≠ .of '=')
    let value := (segment.dropWhile (· ≠ .of '=')).drop 1
    if key.isEmpty || !key.all isNameLetter then .error (.parameterName key name)
    else .ok (.parameter key value)
  else .ok (.argument segment)

def HeadPart.size : HeadPart → Nat
  | .argument value => value.length + 1
  | .parameter key value => key.length + value.length + 2

def HeadPart.argument? : HeadPart → Option Text
  | .argument value => some value
  | .parameter _ _ => none

def HeadPart.parameter? : HeadPart → Option (Text × Text)
  | .argument _ => none
  | .parameter key value => some (key, value)

/-- The parts of a head after its name, and the text after them. -/
def readParts (name : Text) : Text → Except TagFault (List HeadPart × Text)
  | [] => .ok ([], [])
  | letter :: rest =>
      if letter = ':' then
        let segment := rest.takeWhile isSegmentLetter
        let after := rest.drop segment.length
        if (after.head?.map breaksHead).getD false then .error .unterminated
        else
          match HeadPart.ofSegment name segment with
          | .error fault => .error fault
          | .ok part =>
              match readParts name after with
              | .error fault => .error fault
              | .ok (parts, others) => .ok (part :: parts, others)
      else .ok ([], letter :: rest)
termination_by text => text.length
decreasing_by simp only [List.length_drop, List.length_cons]; omega

/-- Whether a head closes itself, and the length of its ending. -/
def readEnding? : Text → Option (Bool × Nat)
  | '/' :: '}' :: '}' :: _ => some (true, 3)
  | '}' :: '}' :: _ => some (false, 2)
  | _ => none

/-- The namespace of a head and its length with the colon. -/
def readSpace? (text : Text) : Option (TagKind × Nat) :=
  let word := text.takeWhile isNameLetter
  match TagKind.reserved? word, text.drop word.length with
  | some kind, ':' :: _ => some (kind, word.length + 1)
  | _, _ => none

/-- The tag of a head without its opening braces, and the length of what was read. -/
def readHead (text : Text) : Except TagFault (Tag × Nat) :=
  let space := readSpace? text
  let spaceSize := (space.map Prod.snd).getD 0
  let afterSpace := text.drop spaceSize
  let name := afterSpace.takeWhile isNameLetter
  match space, name with
  | some (kind, _), [] => .error (.nameMissing kind.name)
  | _, _ =>
      match readParts name (afterSpace.drop name.length) with
      | .error fault => .error fault
      | .ok (parts, rest) =>
          match readEnding? rest with
          | none => .error (.unfinished name)
          | some (selfClosing, endingSize) =>
              let tag : Tag := {
                space := space.map Prod.fst
                name := name
                arguments := parts.filterMap HeadPart.argument?
                parameters := Table.ofEntries (parts.filterMap HeadPart.parameter?)
                selfClosing := selfClosing
                body := none }
              let partsSize := parts.foldr (fun part size => part.size + size) 0
              .ok (tag, spaceSize + name.length + partsSize + endingSize)

end Tag

namespace Closer

/-- The name in a closer at the front of a text. -/
def nameAt? : Text → Option Text
  | '{' :: '{' :: '/' :: rest =>
      let name := rest.takeWhile Tag.isNameLetter
      match name, rest.drop name.length with
      | [], _ => none
      | _, '}' :: '}' :: _ => some name
      | _, _ => none
  | _ => none

/-- A closer with this name at this place. -/
def named (name : Text) (start : Nat) : Closer :=
  ⟨name, start, start + name.length + 5⟩

end Closer

namespace Token

/-- The token at the front of a text that starts at `position`. Braces that no name and no closer
follows are ordinary text. A head that has begun must be well formed. -/
def read (position : Nat) : Text → Except Failure (Option Token)
  | '{' :: '{' :: letter :: rest =>
      if letter = '/' then
        .ok ((Closer.nameAt? (.of '{' :: .of '{' :: letter :: rest)).map fun name =>
          .closer (Closer.named name position))
      else if Tag.isNameLetter letter then
        match Tag.readHead (letter :: rest) with
        | .error fault => .error ((Cause.malformedTag fault).placed position)
        | .ok (tag, size) => .ok (some (.opening ⟨tag, position, position + 2 + size⟩))
      else .ok none
  | _ => .ok none

/-- The token at `position` of a text of which nothing from `limit` on is seen. -/
def readAt (text : Text) (position limit : Nat) : Except Failure (Option Token) :=
  read position (Text.slice position limit text)

end Token
end Flourish
