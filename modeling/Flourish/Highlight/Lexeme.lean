/-
This file cuts template text into the pieces that a highlighter colors.
-/

import Flourish.Tag.Read

namespace Flourish

inductive LexemeKind where
  | punctuation
  | space
  | tagName
  | parameterName
  | argument
  | parameterValue
  | code
  | plain
  deriving DecidableEq, Repr

namespace LexemeKind

def name : LexemeKind → Text
  | .punctuation => "Punctuation"
  | .space => "Keyword.Namespace"
  | .tagName => "Name.Tag"
  | .parameterName => "Name.Attribute"
  | .argument => "Literal"
  | .parameterValue => "Literal.String"
  | .code => "Literal.String.Backtick"
  | .plain => "Text"

end LexemeKind

structure Lexeme where
  kind : LexemeKind
  value : Text
  deriving DecidableEq, Repr

namespace Lexeme

/-- A highlighter reads plain text, or it is inside a head. -/
inductive Mode where
  | root
  | head
  deriving DecidableEq, Repr

/-- The lexemes read at a place and the mode after them. -/
structure Reading where
  lexemes : List Lexeme
  mode : Mode
  deriving DecidableEq, Repr

/-- Pieces with nothing in them are no lexemes. -/
def reading (mode : Mode) (pieces : List (LexemeKind × Text)) : Reading :=
  ⟨(pieces.filter fun piece => !piece.2.isEmpty).map fun piece => ⟨piece.1, piece.2⟩, mode⟩

def untilNewline (text : Text) : Text :=
  text.takeWhile (· ≠ .of '\n')

/-- The two fence markers that are colored. -/
def fenceMarker? (text : Text) : Option Text :=
  [("\x60\x60\x60" : Text), "~~~"].find? fun marker => marker.isPrefixOf text

/-- The rest of a fence whose first line is read: up to the first later line that starts with the
marker, or the very next line if only that one does. -/
def fenceRest? (marker body : Text) : Option Text :=
  match Text.firstIndex (.of '\n' :: marker) body with
  | some index => some (body.take (index + 1) ++ untilNewline (body.drop (index + 1)))
  | none => if marker.isPrefixOf body then some (untilNewline body) else none

/-- The fenced code at the start of a line, through its closing line. -/
def fence? (text : Text) : Option Text :=
  match fenceMarker? text with
  | none => none
  | some marker =>
      let opening := untilNewline text
      match text.drop opening.length with
      | [] => none
      | newline :: body => (fenceRest? marker body).map fun rest => opening ++ newline :: rest

/-- The code between two delimiters of one line. -/
def inlineCode? : Text → Option Text
  | '\x60' :: rest =>
      let inside := rest.takeWhile fun letter => letter ≠ .of '\x60' && letter ≠ .of '\n'
      match rest.drop inside.length with
      | '\x60' :: _ => some (Letter.of '\x60' :: inside ++ [.of '\x60'])
      | _ => none
  | _ => none

def closer? (text : Text) : Option Reading :=
  (Closer.nameAt? text).map fun name =>
    let kind := if (TagKind.reserved? name).isSome then LexemeKind.space else .tagName
    reading .root [(.punctuation, "\x7b\x7b/"), (kind, name), (.punctuation, "\x7d\x7d")]

/-- The start of a head: its namespace, if a name follows it, and its name. -/
def headStart? : Text → Option Reading
  | '{' :: '{' :: rest =>
      let word := rest.takeWhile Tag.isNameLetter
      let afterWord := (rest.drop word.length).drop 1
      let name := afterWord.takeWhile Tag.isNameLetter
      if word.isEmpty then none
      else if (Tag.readSpace? rest).isSome && !name.isEmpty then
        some (reading .head
          [(.punctuation, "\x7b\x7b"), (.space, word), (.punctuation, ":"), (.tagName, name)])
      else some (reading .head [(.punctuation, "\x7b\x7b"), (.tagName, word)])
  | _ => none

/-- Letters at which no piece of markup or code starts. -/
def isPlain (letter : Letter) : Bool :=
  letter ≠ '{' && letter ≠ '\x60'

def plain (text : Text) : Reading :=
  let run := text.takeWhile isPlain
  reading .root [(.plain, if run.isEmpty then text.take 1 else run)]

/-- What is read outside of heads. Fences are seen at the start of a line only. -/
def readRoot (atLineStart : Bool) (text : Text) : Reading :=
  match if atLineStart then fence? text else none with
  | some code => reading .root [(.code, code)]
  | none =>
      match inlineCode? text with
      | some code => reading .root [(.code, code)]
      | none => (closer? text).getD ((headStart? text).getD (plain text))

/-- What is read inside a head. A head that goes wrong is given up. -/
def readHead : Text → Reading
  | '/' :: '}' :: '}' :: _ => reading .root [(.punctuation, "/\x7d\x7d")]
  | '}' :: '}' :: _ => reading .root [(.punctuation, "\x7d\x7d")]
  | ':' :: rest =>
      let key := rest.takeWhile Tag.isNameLetter
      match key, rest.drop key.length with
      | first :: others, '=' :: after =>
          reading .head [(.punctuation, ":"), (.parameterName, first :: others),
            (.punctuation, "="),
            (.parameterValue, after.takeWhile fun letter => !Tag.endsValue letter)]
      | _, _ =>
          let value := rest.takeWhile fun letter => !Tag.endsValue letter && letter ≠ '='
          if value.isEmpty then ⟨[], .root⟩
          else reading .head [(.punctuation, ":"), (.argument, value)]
  | _ => ⟨[], .root⟩

def read (mode : Mode) (atLineStart : Bool) (text : Text) : Reading :=
  match mode with
  | .root => readRoot atLineStart text
  | .head => readHead text

def Mode.rank : Mode → Nat
  | .root => 0
  | .head => 1

def spelled (lexemes : List Lexeme) : Text :=
  lexemes.flatMap Lexeme.value

/-- The lexemes of a text from a mode on. Each reading takes letters or leaves a head. -/
def readAll (mode : Mode) (atLineStart : Bool) (text : Text) : List Lexeme :=
  let found := read mode atLineStart text
  let size := (spelled found.lexemes).length
  if _progress : (0 < size ∧ text ≠ []) ∨ found.mode.rank < mode.rank then
    let atNewLine := ((spelled found.lexemes).getLast?.map (· == .of '\n')).getD atLineStart
    found.lexemes ++ readAll found.mode atNewLine (text.drop size)
  else found.lexemes
termination_by 2 * text.length + mode.rank
decreasing_by
  have rankBound : found.mode.rank ≤ 1 := by cases found.mode <;> simp [Mode.rank]
  rcases _progress with ⟨taken, filled⟩ | left
  · have positive : 0 < text.length := List.length_pos_iff.mpr filled
    rw [List.length_drop]
    change 2 * (text.length - size) + found.mode.rank < 2 * text.length + mode.rank
    omega
  · rw [List.length_drop]
    change 2 * (text.length - size) + found.mode.rank < 2 * text.length + mode.rank
    omega

/-- The text that is cut: no byte order mark, newlines of one kind, none of them at the start and
exactly one at the end. -/
def normalized (text : Text) : Text :=
  let marked :=
    match text with
    | '\uFEFF' :: rest => rest
    | _ => text
  Text.stripLetter '\n' (Text.unifyNewlines marked) ++ [.of '\n']

/-- All lexemes of a text. -/
def ofText (text : Text) : List Lexeme :=
  readAll .root true (normalized text)

end Lexeme
end Flourish
