/-
This file shows where in a document a failure lies.
-/

import Flourish.Failure
import Flourish.Highlight.Terminal

namespace Flourish

/-- A line and a column, both counted from one. -/
structure Position where
  line : Nat
  column : Nat
  deriving DecidableEq, Repr

/-- The letters before a place that are on its line. -/
def beforeOnLine (source : Text) (place : Nat) : Text :=
  ((source.take place).reverse.takeWhile (· ≠ .of '\n')).reverse

namespace Position

/-- The position of an offset. Offsets outside of the text are moved to its nearest end. -/
def ofOffset (source : Text) (offset : Int) : Position :=
  let place := min offset.toNat source.length
  ⟨(source.take place).count (.of '\n') + 1, (beforeOnLine source place).length + 1⟩

end Position

/-- A part of one line, and how far the place that it shows is from its start. -/
structure Excerpt where
  text : Text
  caret : Int
  deriving DecidableEq, Repr

namespace Excerpt

/-- The letters an excerpt shows on either side of its place. -/
def standardRadius : Nat :=
  40

/-- The place in a text of the given length that an index names. A negative index counts from the
end, and no place is outside of the text. -/
def placeOf (length : Nat) (index : Int) : Nat :=
  if index < 0 then (index + length).toNat else min index.toNat length

/-- The letters around an offset that are on its line, at most `radius` on either side. -/
def around (source : Text) (offset : Int) (radius : Nat) : Excerpt :=
  let length := source.length
  let place := placeOf length offset
  let lineStart := place - (beforeOnLine source place).length
  let lineStop := place + (Lexeme.untilNewline (source.drop place)).length
  let start : Int := max lineStart (offset - radius)
  let stop : Int := min lineStop (offset + radius)
  ⟨Text.slice start.toNat (placeOf length stop) source, offset - start⟩

end Excerpt

namespace Failure

def contextLabel : Text :=
  "Context: ..."

/-- The failure with its position, the text around it in a format and a mark under its first
letter. -/
def diagnosticBy (format : List Lexeme → Text) (failure : Failure) (source : Text)
    (highlighted : Bool) : Text :=
  match failure.offset with
  | none => failure.message
  | some offset =>
      let position := Position.ofOffset source offset
      let excerpt := Excerpt.around source offset Excerpt.standardRadius
      let shown := if highlighted then Highlight.coloredBy format excerpt.text else excerpt.text
      let indent := (contextLabel.length + excerpt.caret).toNat
      wording [failure.message, "\nLine ", Text.ofNat position.line, ", column ",
        Text.ofNat position.column, "\n", contextLabel, shown, "...\n",
        List.replicate indent (.of ' '), "^"]

/-- The failure as a terminal shows it. -/
def diagnostic (failure : Failure) (source : Text) (highlighted : Bool) : Text :=
  failure.diagnosticBy Highlight.terminal source highlighted

end Failure
end Flourish
