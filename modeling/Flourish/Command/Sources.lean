/-
This file finds the sources of a run of the command.
-/

import Flourish.Command.Basic
import Flourish.FileTree.Pattern

namespace Flourish.Command

/-- The banner of the command. -/
def banner : Text :=
  Text.join "\n" [
    "",
    "                 _  __",
    "   _ __ ___   __| |/ _|_  __",
    "  | '_ \x60 _ \\ / _\x60 | |_\\ \\/ /",
    "  | | | | | | (_| |  _|>  <",
    "  |_| |_| |_|\\__,_|_| /_/\\_\\",
    "",
    "  Template-macro compiler for decorated markdown",
    ""]

def checkStage : Text :=
  "env"

/-- The files that the pattern selects, without those that lie in the output folder. -/
def selected (request : Request) (tree : FileTree) : Stage (List Path) :=
  if tree.loops request.output then .halt (.fileFault ⟨.looped, request.output⟩)
  else
    match tree.select request.input request.pattern with
    | .error message => .halt (.defect (.badValue message))
    | .ok paths =>
        let files := paths.filter fun path =>
          tree.isFileAt path && !(tree.place request.output).isPrefixOf (tree.place path)
        .done (files.mergeSort Path.atMost)

/-- The one source that is asked for, or all that the pattern selects. -/
def sources (request : Request) (tree : FileTree) : Stage (List Path) :=
  if !tree.isFolderAt request.input then
    .complain ["Error: Input directory not found: ", request.input.toText]
  else if request.inputFile.isEmpty then
    (selected request tree).andThen fun paths =>
      if paths.isEmpty then
        .complain ["Error: No files match '", request.pattern, "' in ", request.input.toText]
      else .done paths
  else
    let path := request.input.append (Path.ofText request.inputFile)
    if tree.isFileAt path then .done [path]
    else .complain ["Error: Input file not found: ", path.toText]

/-- The sources of a run in a tree that has been checked. -/
def findSources (request : Request) (tree : FileTree) : Stage (List Path) := do
  Stage.happened [
    noted .debug checkStage [banner],
    noted .debug checkStage ["Checking environment..."]]
  let found ← sources request tree
  Stage.happened [
    noted .debug checkStage ["Sources: ", Text.ofNat found.length, " file(s)"]]
  pure found

def outputEvent (request : Request) : Event :=
  noted .debug checkStage ["Output directory: ", request.output.toText]

end Flourish.Command
