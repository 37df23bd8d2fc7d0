/-
This file divides a text into extended grapheme clusters, the units a reader takes for one letter.
Consonants that a mark ties to a conjunct stay clusters of their own.
-/

import Flourish.Text.Cluster.Class

namespace Flourish.Text

namespace Cluster

/-- How far a sequence of pictographs has come. -/
inductive PictureTrail where
  | none
  | seen
  | joined
  deriving DecidableEq, Repr

/-- All that the letters so far tell about the border before the next letter. -/
structure Trail where
  last : Role
  oddRegionals : Bool
  picture : PictureTrail

def nextPicture (trail : PictureTrail) (letter : Letter) : PictureTrail :=
  if isPicture letter then .seen
  else
    match trail, role letter with
    | .seen, .extend => .seen
    | .seen, .joiner => .joined
    | _, _ => .none

/-- The trail of a text that is only this letter. -/
def Trail.start (letter : Letter) : Trail where
  last := role letter
  oddRegionals := role letter = .regional
  picture := nextPicture .none letter

def Trail.next (trail : Trail) (letter : Letter) : Trail where
  last := role letter
  oddRegionals := role letter = .regional && !trail.oddRegionals
  picture := nextPicture trail.picture letter

/-- Syllables of Hangul are written by leading letters, vowels and trailing letters. -/
def hangulJoins : Role → Role → Bool
  | .leading, .leading | .leading, .vowel | .leading, .leadingVowel
  | .leading, .leadingVowelTrailing => true
  | .leadingVowel, .vowel | .leadingVowel, .trailing => true
  | .vowel, .vowel | .vowel, .trailing => true
  | .leadingVowelTrailing, .trailing | .trailing, .trailing => true
  | _, _ => false

def isHard : Role → Bool
  | .carriageReturn | .lineFeed | .control => true
  | _ => false

/-- This function decides whether the letter stays in the cluster of the letters before it. -/
def Trail.joins (trail : Trail) (letter : Letter) : Bool :=
  let next := role letter
  if trail.last = .carriageReturn && next = .lineFeed then true
  else if isHard trail.last || isHard next then false
  else
    hangulJoins trail.last next ||
      next = .extend || next = .joiner || next = .spacingMark ||
      trail.last = .prepend ||
      (trail.picture = .joined && isPicture letter) ||
      (trail.oddRegionals && next = .regional)

/-- The clusters of a text whose first cluster has begun with the given letters, newest first. -/
def clustersFrom (trail : Trail) (current : Text) : Text → List Text
  | [] => [current.reverse]
  | letter :: rest =>
      if trail.joins letter then clustersFrom (trail.next letter) (letter :: current) rest
      else current.reverse :: clustersFrom (trail.next letter) [letter] rest

end Cluster

/-- The extended grapheme clusters of a text in order. -/
def clusters : Text → List Text
  | [] => []
  | letter :: rest => Cluster.clustersFrom (.start letter) [letter] rest

end Flourish.Text
