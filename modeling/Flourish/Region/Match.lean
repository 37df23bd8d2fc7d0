/-
This file finds the closer of an open tag in a region.
-/

import Flourish.Region.Read

namespace Flourish.Region

/-- The first closer from a position on. -/
def firstCloser? (region : Region) (position : Nat) : Option Closer :=
  if position < region.limit then
    match region.closer? position with
    | some closer => some closer
    | none => firstCloser? region (position + 1)
  else none
termination_by region.limit - position

/-- The first exact closer behind a head closes the tag. A tag without it is mismatched if another
closer follows, and else unclosed. -/
def findSpecific (region : Region) (opening : Opening) : Except Failure Closer :=
  let name := opening.tag.closerName
  match region.find? (closerForm name) opening.headStop with
  | some start => .ok (Closer.named name start)
  | none =>
      match region.firstCloser? opening.headStop with
      | some other =>
          .error ((Cause.mismatchedCloser (some name) other.name).placed opening.start)
      | none => .error ((Cause.unclosedTag name).placed opening.start)

theorem le_stop_of_findSpecific {region : Region} {opening : Opening} {closer : Closer}
    (found : region.findSpecific opening = .ok closer) : opening.headStop ≤ closer.stop := by
  simp only [findSpecific] at found
  split at found
  · next start sought =>
      cases found
      have := find?_bounds sought
      simp only [Closer.named]
      omega
  · split at found <;> cases found

/-- The closer that ends a tag opened at `outer`, sought from `position` on. Heads that wait for
the same closer are pushed on `inner` and each such closer pops the last one; with none left the
closer belongs to the tag. A tag with a closer of its own is passed whole. -/
def findGenericFrom (region : Region) (name : Text) (outer : Nat) (inner : List Nat)
    (position : Nat) : Except Failure Closer :=
  match _ : region.find? [.of '{', .of '{'] position with
  | some start =>
      match _ : region.read start with
      | .ok none => findGenericFrom region name outer inner (start + 1)
      | .ok (some (.closer closer)) =>
          if closer.name = name then
            match inner with
            | [] => .ok closer
            | _ :: others => findGenericFrom region name outer others closer.stop
          else findGenericFrom region name outer inner closer.stop
      | .ok (some (.opening opening)) =>
          if opening.tag.selfClosing then
            findGenericFrom region name outer inner opening.headStop
          else
            match opening.tag.closerPolicy with
            | .generic =>
                if opening.tag.closerName = name then
                  findGenericFrom region name outer (opening.start :: inner) opening.headStop
                else findGenericFrom region name outer inner opening.headStop
            | .specific =>
                match _ : region.findSpecific opening with
                | .error failure => .error failure
                | .ok closer => findGenericFrom region name outer inner closer.stop
      | .error failure => .error failure
  | none => .error ((Cause.unclosedTag name).placed outer)
termination_by region.limit - position
decreasing_by
  all_goals
    have bounds := find?_bounds ‹region.find? [.of '{', .of '{'] position = some _›
    simp only [List.length_cons, List.length_nil] at bounds
  any_goals omega
  all_goals
    have ahead := lt_stop_of_read ‹region.read _ = .ok (some _)›
    simp only [Token.stop] at ahead
  any_goals omega
  have behind := le_stop_of_findSpecific ‹region.findSpecific _ = .ok _›
  omega

/-- The closer of a tag that is matched through the tags opened after it. -/
def findGeneric (region : Region) (opening : Opening) : Except Failure Closer :=
  region.findGenericFrom opening.tag.closerName opening.start [] opening.headStop

/-- The closer of a tag, found as its policy says. -/
def findCloser (region : Region) (policy : CloserPolicy) (opening : Opening) :
    Except Failure Closer :=
  match policy with
  | .generic => region.findGeneric opening
  | .specific => region.findSpecific opening

end Flourish.Region
