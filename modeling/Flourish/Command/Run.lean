/-
This file holds the whole run of the command: it finds sources, expands them, and only then writes.
-/

import Flourish.Command.Expansion
import Flourish.Command.Sources
import Flourish.Manifest

namespace Flourish.Command

def writeStage : Text :=
  "write"

def reportStage : Text :=
  "report"

/-- A file to be written and the level of the line that says so. -/
structure NewFile where
  path : Path
  contents : Except Text.EncodingFault Text.Octets
  level : Level

/-- Where the manifest of a run stands. -/
def manifestPath (request : Request) (settings : Settings) : Path :=
  (request.output.append (Path.ofText (Text.stripLetter '/' settings.assetsFolder))).append
    (Path.ofText Manifest.fileName)

/-- The files of a run: the expanded sources, their assets and, if there are assets, the
manifest. -/
def newFiles (request : Request) (settings : Settings) (expanded : List Expanded) :
    List NewFile :=
  let assets := distinctAssets expanded
  let texts := expanded.map fun source => NewFile.mk (request.output.append source.relative)
    (Text.encoded source.output.text) .trace
  let images := assets.map fun asset => NewFile.mk (request.output.append (Path.ofText asset.path))
    (.ok asset.data) .trace
  let manifest := if assets.isEmpty then []
    else [NewFile.mk (manifestPath request settings) (Text.encoded (Manifest.ofAssets assets))
      .debug]
  texts ++ images ++ manifest

/-- What keeps a file from being written. -/
inductive WriteFault where
  | file (fault : FileFault)
  | letters (fault : Text.EncodingFault)

/-- How far writing came. -/
structure Writing where
  tree : FileTree
  fault : Option WriteFault
  events : List Event

/-- A file is emptied before its text is encoded. -/
def writeFile (tree : FileTree) (file : NewFile) : Change :=
  (tree.makeFolders file.path.folder).andThen fun prepared =>
    prepared.write file.path (file.contents.toOption.getD [])

/-- Files are written in order up to the first that cannot be. -/
def writeFiles (tree : FileTree) : List NewFile → Writing
  | [] => ⟨tree, none, []⟩
  | file :: rest =>
      let change := writeFile tree file
      match change.fault, file.contents with
      | some fault, _ => ⟨change.tree, some (.file fault), []⟩
      | none, .error fault => ⟨change.tree, some (.letters fault), []⟩
      | none, .ok _ =>
          let after := writeFiles change.tree rest
          { after with
            events := noted file.level writeStage ["Wrote ", file.path.toText] :: after.events }

/-- How a run of the command ends, the tree it leaves, and what happened, oldest first. -/
structure Outcome where
  halt : Option Halt
  tree : FileTree
  events : List Event

/-- The status with which the command exits. -/
def Outcome.status (outcome : Outcome) : Nat :=
  if outcome.halt.isSome then 1 else 0

/-- The report about a run that has done its work. -/
def report (request : Request) (expanded : List Expanded) : List Event :=
  [noted .info reportStage ["\n✓ Processing successful!"],
    noted .info reportStage ["  Output: ", request.output.toText],
    noted .info reportStage ["  Files:  ", Text.ofNat expanded.length],
    noted .info reportStage ["  Assets: ", Text.ofNat (distinctAssets expanded).length]]

/-- The end of a run whose sources are expanded. -/
def write (request : Request) (settings : Settings) (tree : FileTree)
    (expanded : List Expanded) : Outcome :=
  let writing := writeFiles tree (newFiles request settings expanded)
  let events := noted .info writeStage ["Writing outputs..."] :: writing.events
  match writing.fault with
  | some (.file fault) =>
      ⟨some (.complaint (wording ["Error writing output: ", fault.message, "\n"])), writing.tree,
        events⟩
  | some (.letters fault) => ⟨some (.defect (.unencodable fault)), writing.tree, events⟩
  | none => ⟨none, writing.tree, events ++ report request expanded⟩

/-- A run of the command in a tree of files. Nothing is written unless every source expands. -/
def run (read : Project.Reader) (request : Request) (settings : Settings) (tree : FileTree) :
    Outcome :=
  let finding := findSources request tree
  match finding.result with
  | .error reason => ⟨some reason, tree, finding.events⟩
  | .ok sources =>
      let made := tree.makeFolders request.output
      match made.fault with
      | some fault => ⟨some (.fileFault fault), made.tree, finding.events⟩
      | none =>
          let expansion := expand read request settings made.tree sources
          let events := finding.events ++ outputEvent request :: expansion.events
          match expansion.result with
          | .error reason => ⟨some reason, made.tree, events⟩
          | .ok expanded =>
              let outcome := write request settings made.tree expanded
              { outcome with events := events ++ outcome.events }

end Flourish.Command
