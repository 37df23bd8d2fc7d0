/-
This file measures how alike two texts are by the blocks they share, and finds close matches.
-/

import Flourish.Text.Basic

namespace Flourish.Text

/-- A place where two texts agree: where it starts in each, and its length. -/
structure Block where
  first : Nat
  second : Nat
  size : Nat
  deriving DecidableEq, Repr

/-- Letters of a word of at least 200 letters that occur in more than one place in a hundred, and
one more. They start no block. -/
def popularLetters (word : Text) : List Letter :=
  if word.length < 200 then []
  else word.eraseDups.filter fun letter => word.length / 100 + 1 < word.count letter

/-- The lengths of the blocks that end at one letter of the first text and each of the second,
from those that end one letter before. -/
def blockRow (popular : List Letter) (letter : Letter) (word : Text) (above : List Nat) : List Nat :=
  List.zipWith (fun other before =>
    if other = letter && !popular.contains other then before + 1 else 0) word (0 :: above)

/-- The longest block in a row that is longer than the best so far; the earliest one wins. -/
def bestInRow (rowIndex : Nat) : Nat → List Nat → Block → Block
  | _, [], best => best
  | column, size :: rest, best =>
      bestInRow rowIndex (column + 1) rest
        (if best.size < size then ⟨rowIndex + 1 - size, column + 1 - size, size⟩ else best)

def bestBlock (popular : List Letter) (word : Text) :
    Nat → Text → List Nat → Block → Block
  | _, [], _, best => best
  | rowIndex, letter :: rest, above, best =>
      let row := blockRow popular letter word above
      bestBlock popular word (rowIndex + 1) rest row (bestInRow rowIndex 0 row best)

/-- The number of leading letters in which two texts agree. -/
def agreement : Text → Text → Nat
  | first :: restFirst, second :: restSecond =>
      if first = second then 1 + agreement restFirst restSecond else 0
  | _, _ => 0

/-- A block made longer on both sides as far as the texts agree. -/
def Block.extended (candidate word : Text) (block : Block) : Block :=
  let before :=
    agreement (candidate.take block.first).reverse (word.take block.second).reverse
  let after :=
    agreement (candidate.drop (block.first + block.size)) (word.drop (block.second + block.size))
  ⟨block.first - before, block.second - before, before + block.size + after⟩

/-- The longest block two texts share, the earliest in the candidate and then in the word. -/
def longestBlock (popular : List Letter) (candidate word : Text) : Block :=
  (bestBlock popular word 0 candidate (word.map fun _ => 0) ⟨0, 0, 0⟩).extended candidate word

/-- The letters two texts share in order: the longest block, then the same on both sides of it.
Every block shortens the candidate, so its length bounds the depth. -/
def sharedWithin (popular : List Letter) : Nat → Text → Text → Nat
  | 0, _, _ => 0
  | depth + 1, candidate, word =>
      let block := longestBlock popular candidate word
      if block.size = 0 then 0
      else
        sharedWithin popular depth (candidate.take block.first) (word.take block.second) +
          block.size +
          sharedWithin popular depth (candidate.drop (block.first + block.size))
            (word.drop (block.second + block.size))

def sharedLetters (candidate word : Text) : Nat :=
  sharedWithin (popularLetters word) candidate.length candidate word

/-- How alike a candidate and a word are: `shared` letters of the `total` letters of both. -/
structure Likeness where
  shared : Nat
  total : Nat
  deriving DecidableEq, Repr

def likeness (candidate word : Text) : Likeness :=
  ⟨sharedLetters candidate word, candidate.length + word.length⟩

/-- Two empty texts are wholly alike. Otherwise the ratio is twice the shared letters by all. -/
def Likeness.reaches (cutoffTenths : Nat) (value : Likeness) : Bool :=
  value.total = 0 || cutoffTenths * value.total ≤ 10 * (2 * value.shared)

def Likeness.numerator (value : Likeness) : Nat :=
  if value.total = 0 then 1 else 2 * value.shared

def Likeness.denominator (value : Likeness) : Nat :=
  if value.total = 0 then 1 else value.total

/-- The higher ratio comes first, and of equal ratios the greater text. -/
def ranksBefore (first second : Likeness × Text) : Bool :=
  let left := first.1.numerator * second.1.denominator
  let right := second.1.numerator * first.1.denominator
  right < left || (right = left && atMost second.2 first.2)

/-- At most `limit` candidates whose ratio with the word is at least the cutoff in tenths, the
closest first. -/
def closeMatches (word : Text) (candidates : List Text) (limit cutoffTenths : Nat) : List Text :=
  let rated := candidates.map fun candidate => (likeness candidate word, candidate)
  let near := rated.filter fun entry => entry.1.reaches cutoffTenths
  ((near.mergeSort ranksBefore).take limit).map Prod.snd

/-- Names to suggest for one that is not known. -/
def suggestions (name : Text) (candidates : List Text) (limit : Nat) : List Text :=
  closeMatches name (sortedDistinct candidates) limit 6

end Flourish.Text
