/-
This file is the command: it reads files and arguments, runs the library, and writes what changed.
-/

import Flourish.Command.Arguments
import Flourish.Command.Run
import Flourish.Settings.Read

namespace Flourish.Main

/-- What the system hands over as a string. -/
def given (text : String) : Text :=
  text

/-- A text as it is shown. A half is written as an escape. -/
def shown (text : Text) : String :=
  String.ofList (text.flatMap fun letter =>
    match letter with
    | .of char => [char]
    | .half _ => ("\\u" ++ Text.hexadecimal 4 letter.toNat).filterMap Letter.char?)

/-- The file at a path, if it can be read. -/
def readFile? (path : String) : IO (Option Text.Octets) :=
  try
    return some (← IO.FS.readBinFile path).toList
  catch _ =>
    return none

/-- The nodes at and below a path of the disk, whose place in the tree is given. A link is listed
with what it leads to, if that has not been listed for a link before. -/
partial def readNodes (path : String) (place : Place) (linked : List Place) :
    IO (List (Place × FileNode)) := do
  try
    let real ← IO.FS.realPath path
    let type := (← real.metadata).type
    let reached := (Path.ofText (given real.toString)).parts
    if reached ≠ place then
      let link := (place, FileNode.link ⟨true, reached⟩)
      if linked.contains reached then return [link]
      return link :: (← readNodes real.toString reached (reached :: linked))
    match type, ← readFile? path with
    | .file, some contents => return [(place, .file (.fresh contents))]
    | .file, none => return [(place, .file ⟨[], false, true, none⟩)]
    | .dir, _ =>
        let mut nodes := [(place, FileNode.folder)]
        for child in ← real.readDir do
          nodes := nodes ++
            (← readNodes child.path.toString (place ++ [given child.fileName]) linked)
        return nodes
    | _, _ => return []
  catch _ =>
    return []

/-- The paths that a request may read, besides the configuration above the input folder. -/
def readPaths (request : Command.Request) : List Path :=
  [request.input, request.output, request.input.append (Path.ofText request.inputFile)] ++
    if request.config.isEmpty then [] else [Path.ofText request.config]

/-- The paths at which the configuration of a project may be. -/
def projectPaths (request : Command.Request) (settings : Settings) (home : Place) : List Path :=
  (FileTree.upward (FileTree.place ⟨home, []⟩ request.input)).map fun folder =>
    Path.append ⟨true, folder⟩ (Path.ofText settings.projectFileName)

/-- The part of the disk that a request reads. -/
def readTree (request : Command.Request) (settings : Settings) : IO FileTree := do
  let home := (Path.ofText (given (← IO.currentDir).toString)).parts
  let mut nodes : List (Place × FileNode) := []
  for path in readPaths request do
    nodes := nodes ++ (← readNodes (shown path.toText) (FileTree.place ⟨home, []⟩ path) [])
  for path in projectPaths request settings home do
    if let some contents ← readFile? (shown path.toText) then
      nodes := nodes ++ [(path.parts, .file (.fresh contents))]
  return ⟨home, nodes⟩

/-- This function puts the nodes of a tree on the disk that were not there before. -/
def writeTree (before after : FileTree) : IO Unit := do
  for (place, node) in after.nodes do
    if before.node? place ≠ some node then
      let path := shown (Path.toText ⟨true, place⟩)
      match node with
      | .folder => IO.FS.createDirAll path
      | .link _ => pure ()
      | .file file =>
          IO.FS.createDirAll (shown (Path.toText ⟨true, place.dropLast⟩))
          IO.FS.writeBinFile path ⟨file.contents.toArray⟩

/-- The settings that the environment names. -/
def readSettings : IO (Except SettingsFault Settings) := do
  let mut environment : List (Text × Text) := []
  for name in Settings.names do
    let variableName := (Settings.variableStart ++ name).map Letter.toUpper
    if let some value ← IO.getEnv (shown variableName) then
      environment := environment ++ [(variableName, given value)]
  return Settings.read environment []

def logLine (note : Note) : Text :=
  Text.join " │ " [note.level.name, note.stage, note.message]

/-- The text that a halted run leaves. -/
def haltText : Command.Halt → Text
  | .complaint message => message
  | .fileFault fault => fault.message ++ [.of '\n']
  | .defect (.badValue message) => message ++ [.of '\n']
  | .defect (.unencodable fault) => fault.message ++ [.of '\n']
  | .defect .notText => "a configuration file is not written in UTF-8\n"
  | .defect .noArgument | .defect .wrongShape | .defect .notMapping =>
      "a definition is not well formed\n"

def runRequest (request : Command.Request) (settings : Settings) : IO UInt32 := do
  let tree ← readTree request settings
  let outcome := Command.run Project.ofText request settings tree
  for note in Note.shown request.verbosity outcome.events do
    IO.eprintln (shown (logLine note))
  writeTree tree outcome.tree
  if let some reason := outcome.halt then
    IO.eprint (shown (haltText reason))
  return outcome.status.toUInt32

end Flourish.Main

open Flourish in
def main (arguments : List String) : IO UInt32 := do
  match Command.Invocation.read (arguments.map Main.given), ← Main.readSettings with
  | .error message, _ =>
      IO.eprint (Main.shown (wording [Command.Invocation.usage, "mdfx: error: ", message, "\n"]))
      return 2
  | .ok .help, _ =>
      IO.print (Main.shown Command.Invocation.usage)
      return 0
  | .ok .version, _ =>
      IO.println (Main.shown (wording ["mdfx ", Command.Invocation.versionText]))
      return 0
  | .ok (.run _), .error (.unreadable name) =>
      IO.eprintln (Main.shown (wording ["error in the setting ", name]))
      return 1
  | .ok (.run _), .error (.misfits places) =>
      IO.eprintln (Main.shown (wording ["error in the settings ", Text.commaSeparated places]))
      return 1
  | .ok (.run request), .ok settings => Main.runRequest request settings
