/-
This file finds the closer of an open tag.
-/

import Flourish.Tag.Read

namespace Flourish.Closer

/-- The name in the first closer of a text. -/
def firstName? : Text → Option Text
  | [] => none
  | letter :: rest =>
      match nameAt? (letter :: rest) with
      | some name => some name
      | none => firstName? rest

/-- The first exact closer in the text after a head closes the tag. A tag without it is
mismatched if another closer follows, and else unclosed. -/
def findSpecific (opening : Opening) (after : Text) : Except Failure Closer :=
  let name := opening.tag.closerName
  match Text.firstIndex (closerForm name) after with
  | some index => .ok (named name (opening.headStop + index))
  | none =>
      match firstName? after with
      | some other => .error ((Cause.mismatchedCloser (some name) other).placed opening.start)
      | none => .error ((Cause.unclosedTag name).placed opening.start)

/-- The closer that ends a tag opened at `outer`, sought from `position` on. Heads that wait for
the same closer are pushed on `inner` and each such closer pops the last one; with none left the
closer belongs to the tag. A tag with a closer of its own is passed whole. -/
def findGenericFrom (name : Text) (outer : Nat) :
    List Nat → Nat → Text → Except Failure Closer
  | _, _, [] => .error ((Cause.unclosedTag name).placed outer)
  | inner, position, letter :: rest =>
      match Token.read position (letter :: rest) with
      | .error failure => .error failure
      | .ok none => findGenericFrom name outer inner (position + 1) rest
      | .ok (some (.closer closer)) =>
          let after := rest.drop (closer.stop - position - 1)
          if closer.name = name then
            match inner with
            | [] => .ok closer
            | _ :: others => findGenericFrom name outer others closer.stop after
          else findGenericFrom name outer inner closer.stop after
      | .ok (some (.opening opening)) =>
          let after := rest.drop (opening.headStop - position - 1)
          if opening.tag.selfClosing then
            findGenericFrom name outer inner opening.headStop after
          else
            match opening.tag.closerPolicy with
            | .generic =>
                if opening.tag.closerName = name then
                  findGenericFrom name outer (opening.start :: inner) opening.headStop after
                else findGenericFrom name outer inner opening.headStop after
            | .specific =>
                match findSpecific opening after with
                | .error failure => .error failure
                | .ok closer =>
                    findGenericFrom name outer inner closer.stop
                      (after.drop (closer.stop - opening.headStop))
termination_by _ _ text => text.length
decreasing_by all_goals (simp only [List.length_drop, List.length_cons]; omega)

/-- The closer of a tag that is matched through the tags opened after it. -/
def findGeneric (opening : Opening) (after : Text) : Except Failure Closer :=
  findGenericFrom opening.tag.closerName opening.start [] opening.headStop after

/-- The closer of a tag, found as its policy says in the text after its head. -/
def find (policy : CloserPolicy) (opening : Opening) (after : Text) : Except Failure Closer :=
  match policy with
  | .generic => findGeneric opening after
  | .specific => findSpecific opening after

end Flourish.Closer
