/-
This file holds the transforms of expansions: block quotes, and rows of images.
-/

import Flourish.Failure
import Flourish.Registry.Definition
import Flourish.Text.Blank

namespace Flourish.Transform

/-- A blank line becomes a lone mark. -/
def quotedLine (line : Text) : Text :=
  if (Text.trim line).isEmpty then [.of '>'] else .of '>' :: .of ' ' :: line

/-- Every line is quoted. -/
def blockquote (text : Text) : Text :=
  Text.join [.of '\n'] ((Text.fields '\n' text).map quotedLine)

def alignments : List Text :=
  ["left", "center", "right"]

/-- The alternative text and the source of an image at the front of a text, and what follows. -/
def imageAt? : Text → Option (Text × Text × Text)
  | '!' :: '[' :: rest =>
      let alternative := rest.takeWhile (· ≠ .of ']')
      match rest.drop alternative.length with
      | ']' :: '(' :: after =>
          let source := after.takeWhile fun letter => letter ≠ .of ')' && !Text.isBlank letter
          match source, after.drop source.length with
          | [], _ => none
          | _, ')' :: others => some (alternative, source, others)
          | _, _ => none
      | _ => none
  | _ => none

def imageElement (alternative source : Text) : Text :=
  wording ["<img alt=\"", alternative, "\" src=\"", source, "\">"]

/-- Every markdown image becomes an element. -/
def withElements : Text → Text
  | [] => []
  | letter :: rest =>
      match imageAt? (letter :: rest) with
      | some (alternative, source, others) =>
          imageElement alternative source ++
            withElements (rest.drop (rest.length - others.length))
      | none => letter :: withElements rest
termination_by text => text.length
decreasing_by all_goals (simp only [List.length_drop, List.length_cons]; omega)

/-- A paragraph with this alignment that holds the text on one line, its images as elements. -/
def row (text align : Text) : Except Failure Text :=
  if alignments.contains align then
    let content := withElements (Text.trim (Text.collapseBlanks text))
    .ok (wording ["<p align=\"", align, "\">", content, "</p>"])
  else .error (Cause.invalidParameter "align" align (.notAlignment alignments)).unplaced

def apply (kind : TransformKind) (text : Text) (parameters : Table Text) : Except Failure Text :=
  match kind with
  | .blockquote => .ok (blockquote text)
  | .row => row text ((parameters.find? "align").getD "center")

end Flourish.Transform
