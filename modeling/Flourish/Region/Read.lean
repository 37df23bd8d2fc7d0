/-
This file reads the tag or closer at a position of a region.
-/

import Flourish.Region.Basic
import Flourish.Tag.Read

namespace Flourish.Region

open Tag (HeadPart isNameLetter isSegmentLetter breaksHead)

/-- The closer at a position. -/
def closer? (region : Region) (position : Nat) : Option Closer :=
  if region.holds [.of '{', .of '{', .of '/'] position then
    let stop := region.runStop isNameLetter (position + 3)
    if stop ≠ position + 3 && region.holds [.of '}', .of '}'] stop then
      some ⟨Text.slice (position + 3) stop region.text, position, stop + 2⟩
    else none
  else none

/-- The parts of a head after its name, and the position behind them. -/
def readParts (region : Region) (name : Text) (position : Nat) :
    Except TagFault (List HeadPart × Nat) :=
  if region.letter? position = some (.of ':') then
    let stop := region.runStop isSegmentLetter (position + 1)
    if (region.letter? stop).any breaksHead then .error .unterminated
    else
      match HeadPart.ofSegment name (Text.slice (position + 1) stop region.text) with
      | .error fault => .error fault
      | .ok part =>
          match readParts region name stop with
          | .error fault => .error fault
          | .ok (parts, last) => .ok (part :: parts, last)
  else .ok ([], position)
termination_by region.limit - position
decreasing_by
  have inside := lt_limit_of_letter ‹region.letter? position = some (.of ':')›
  have behind := region.le_runStop isSegmentLetter (position + 1)
  omega

theorem le_of_readParts {region : Region} {name : Text} {position last : Nat}
    {parts : List HeadPart} (read : region.readParts name position = .ok (parts, last)) :
    position ≤ last := by
  fun_induction readParts region name position generalizing parts last with
  | case1 => cases read
  | case2 => cases read
  | case3 => cases read
  | case4 position colon stop intact part segmentRead others final tailRead =>
      rename_i inductionHypothesis
      cases read
      exact Nat.le_trans (Nat.le_of_succ_le (region.le_runStop isSegmentLetter (position + 1)))
        (inductionHypothesis tailRead)
  | case5 =>
      cases read
      exact Nat.le_refl _

/-- Whether a head closes itself, and the position behind its ending. -/
def readEnding? (region : Region) (position : Nat) : Option (Bool × Nat) :=
  if region.holds [.of '/', .of '}', .of '}'] position then some (true, position + 3)
  else if region.holds [.of '}', .of '}'] position then some (false, position + 2)
  else none

theorem lt_of_readEnding {region : Region} {position headStop : Nat} {selfClosing : Bool}
    (read : region.readEnding? position = some (selfClosing, headStop)) : position < headStop := by
  unfold readEnding? at read
  split at read
  · cases read
    omega
  · split at read
    · cases read
      omega
    · cases read

/-- The namespace of a head and the position behind its colon. -/
def readSpace? (region : Region) (position : Nat) : Option (TagKind × Nat) :=
  let stop := region.runStop isNameLetter position
  match TagKind.reserved? (Text.slice position stop region.text) with
  | some kind => if region.letter? stop = some (.of ':') then some (kind, stop + 1) else none
  | none => none

theorem le_readSpace (region : Region) (position : Nat) :
    position ≤ ((region.readSpace? position).map Prod.snd).getD position := by
  have behind := region.le_runStop isNameLetter position
  simp only [readSpace?]
  split
  · split
    · exact Nat.le_succ_of_le behind
    · exact Nat.le_refl _
  · exact Nat.le_refl _

/-- The tag with a namespace and a name, of which the rest of the head is at a position, and the
position behind it. -/
def readTag (region : Region) (space : Option TagKind) (name : Text) (position : Nat) :
    Except TagFault (Tag × Nat) :=
  match region.readParts name position with
  | .error fault => .error fault
  | .ok (parts, last) =>
      match region.readEnding? last with
      | none => .error (.unfinished name)
      | some (selfClosing, headStop) =>
          let tag : Tag := {
            space := space
            name := name
            arguments := parts.filterMap HeadPart.argument?
            parameters := Table.ofEntries (parts.filterMap HeadPart.parameter?)
            selfClosing := selfClosing
            body := none }
          .ok (tag, headStop)

theorem lt_of_readTag {region : Region} {space : Option TagKind} {name : Text}
    {position headStop : Nat} {tag : Tag}
    (read : region.readTag space name position = .ok (tag, headStop)) : position < headStop := by
  simp only [readTag] at read
  split at read
  · cases read
  · next partsRead =>
      split at read
      · cases read
      · next ended =>
          cases read
          exact Nat.lt_of_le_of_lt (le_of_readParts partsRead) (lt_of_readEnding ended)

/-- The tag of a head whose opening braces are before the position, and the position behind it. -/
def readHead (region : Region) (position : Nat) : Except TagFault (Tag × Nat) :=
  let space := region.readSpace? position
  let start := (space.map Prod.snd).getD position
  let stop := region.runStop isNameLetter start
  let name := Text.slice start stop region.text
  match space, name with
  | some (kind, _), [] => .error (.nameMissing kind.name)
  | _, _ => region.readTag (space.map Prod.fst) name stop

theorem lt_of_readHead {region : Region} {position headStop : Nat} {tag : Tag}
    (read : region.readHead position = .ok (tag, headStop)) : position < headStop := by
  have begins := region.le_readSpace position
  have ends := region.le_runStop isNameLetter
    (((region.readSpace? position).map Prod.snd).getD position)
  simp only [readHead] at read
  split at read
  · cases read
  · exact Nat.lt_of_le_of_lt (Nat.le_trans begins ends) (lt_of_readTag read)

/-- The token at a position. Braces that no name and no closer follows are ordinary text. A head
that has begun must be well formed. -/
def read (region : Region) (position : Nat) : Except Failure (Option Token) :=
  if region.holds [.of '{', .of '{'] position then
    match region.letter? (position + 2) with
    | none => .ok none
    | some letter =>
        if letter = '/' then .ok ((region.closer? position).map .closer)
        else if isNameLetter letter then
          match region.readHead (position + 2) with
          | .error fault => .error ((Cause.malformedTag fault).placed position)
          | .ok (tag, headStop) => .ok (some (.opening ⟨tag, position, headStop⟩))
        else .ok none
  else .ok none

theorem lt_stop_of_closer {region : Region} {position : Nat} {closer : Closer}
    (found : region.closer? position = some closer) : position < closer.stop := by
  have behind := region.le_runStop isNameLetter (position + 3)
  simp only [closer?] at found
  split at found
  · split at found
    · cases found
      show position < region.runStop isNameLetter (position + 3) + 2
      omega
    · cases found
  · cases found

/-- A token that is read ends behind the position. -/
theorem lt_stop_of_read {region : Region} {position : Nat} {token : Token}
    (found : region.read position = .ok (some token)) : position < token.stop := by
  simp only [read] at found
  split at found
  · split at found
    · cases found
    · split at found
      · obtain ⟨closer, closerRead, rfl⟩ := Option.map_eq_some_iff.mp (Except.ok.inj found)
        exact lt_stop_of_closer closerRead
      · split at found
        · split at found
          · cases found
          · next headRead =>
              cases found
              exact Nat.lt_of_lt_of_le (by omega) (Nat.le_of_lt (lt_of_readHead headRead))
        · cases found
  · cases found

end Flourish.Region
