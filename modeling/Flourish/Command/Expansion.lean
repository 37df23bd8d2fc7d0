/-
This file expands the sources of a run of the command.
-/

import Flourish.Command.Basic
import Flourish.Diagnostic
import Flourish.Processor.Run
import Flourish.Project
import Flourish.Registry.Standard

namespace Flourish.Command

def configStage : Text :=
  "config"

def processStage : Text :=
  "process"

/-- A failure of the configuration is complained about; a defect ends the command. -/
def configured {Value : Type} (result : Except Stop Value) (events : List Event) :
    Stage Value :=
  match result with
  | .ok value => ⟨.ok value, events⟩
  | .error (.defect defect) => ⟨.error (.defect defect), events⟩
  | .error (.failure failure) =>
      ⟨.error (.complaining ["Configuration error: ", failure.toText]), events⟩

/-- The configuration that is asked for, or the nearest at or above the input folder. -/
def project (read : Project.Reader) (request : Request) (settings : Settings) (tree : FileTree) :
    Stage Project := do
  Stage.happened [noted .debug configStage ["Loading project configuration..."]]
  let found :=
    if request.config.isEmpty then
      Project.discover read tree request.input settings.projectFileName
    else Project.loadFrom read tree (Path.ofText request.config)
  let loaded ← configured found.result found.events
  match loaded.path with
  | none => pure loaded
  | some path =>
      Stage.happened [noted .debug configStage ["Configuration: ", path.toText]]
      pure loaded

/-- The first backend of those that the request, the project and the settings name. -/
def backend (request : Request) (project : Project) (settings : Settings) :
    Except Stop Backend :=
  if request.backend.isEmpty then .ok (project.backend.getD settings.defaultBackend)
  else Backend.ofName request.backend

/-- The first context of those that the request, the project and the settings name. -/
def contextKind (request : Request) (project : Project) (settings : Settings) :
    Except Stop ContextKind :=
  if request.context.isEmpty then .ok (project.context.getD settings.defaultContext)
  else
    match ContextKind.ofName? request.context with
    | some kind => .ok kind
    | none =>
        .error (.defect (.badValue
          (Text.quoted request.context ++ " is not a valid ContextKind")))

/-- The processor with the colors of a project. -/
def withProjectPalette (processor : Processor) (project : Project) : Stage Processor :=
  if project.palette.isEmpty then pure processor
  else
    let report := processor.extendPalette project.palette
    configured report.result report.events

/-- The processor of a run: the standard registry with the templates and colors of the project. -/
def processor (request : Request) (settings : Settings) (project : Project) :
    Stage Processor := do
  let registry := Registry.standard project.templates
  Stage.happened [registry.readEvent Registry.standardFile]
  let chosen ← configured (backend request project settings) []
  let kind ← configured (contextKind request project settings) []
  let plain := Processor.make registry settings (chosen.renderer settings.assetsFolder)
    (settings.context kind)
  let colored ← withProjectPalette plain project
  Stage.happened [
    noted .debug processStage ["Backend: ", chosen.name, ", context: ", kind.name]]
  pure colored

/-- The processor of a run and what comes before it: the configuration of the project. -/
def ready (read : Project.Reader) (request : Request) (settings : Settings) (tree : FileTree) :
    Stage Processor := do
  let found ← project read request settings tree
  Stage.happened [noted .info processStage ["Processing sources..."]]
  processor request settings found

/-- The path of a source as it is seen from the input folder. -/
def relativePath (request : Request) (path : Path) : Stage Path :=
  match path.relativeTo? request.input with
  | some relative => pure relative
  | none =>
      let folder := if request.input = ⟨false, []⟩ then [] else request.input.toText
      .halt (.defect (.badValue (Text.quoted path.toText ++ " is not in the subpath of " ++
        Text.quoted folder ++ " OR one path is relative and the other is absolute.")))

/-- The text of a source with its newlines unified. -/
def sourceText (tree : FileTree) (path : Path) : Stage Text :=
  let unread (message : Text) : Stage Text :=
    .complain ["Error reading ", path.toText, ": ", message]
  match tree.read path with
  | .error fault => unread fault.message
  | .ok octets =>
      match Text.ofUtf8 octets with
      | .error fault => unread fault.message
      | .ok text => pure (Text.unifyNewlines text)

/-- A source by its path below the input folder, and what it expands to. -/
structure Expanded where
  relative : Path
  output : Output
  deriving DecidableEq, Repr

/-- The output for a source. A failure is shown with its place in the source. -/
def expandedText (request : Request) (processor : Processor) (relative : Path) (source : Text) :
    Stage Output :=
  let report := processor.process source
  match report.result with
  | .ok output => ⟨.ok output, report.events⟩
  | .error (.defect defect) => ⟨.error (.defect defect), report.events⟩
  | .error (.failure failure) =>
      ⟨.error (.complaining [relative.toText, ": ",
        failure.diagnostic source request.highlighted]), report.events⟩

def expandSource (request : Request) (processor : Processor) (tree : FileTree) (path : Path) :
    Stage Expanded := do
  let relative ← relativePath request path
  let source ← sourceText tree path
  let output ← expandedText request processor relative source
  Stage.happened [noted .debug processStage ["Processed ", relative.toText, " (",
    Text.ofNat source.length, " → ", Text.ofNat output.text.length, " chars)"]]
  pure ⟨relative, output⟩

/-- The sources expanded one after another. The first that cannot be expanded ends the command. -/
def expandSources (request : Request) (processor : Processor) (tree : FileTree) :
    List Path → Stage (List Expanded)
  | [] => pure []
  | path :: rest => do
      let first ← expandSource request processor tree path
      let others ← expandSources request processor tree rest
      pure (first :: others)

/-- The expanded sources of a run. -/
def expand (read : Project.Reader) (request : Request) (settings : Settings) (tree : FileTree)
    (sources : List Path) : Stage (List Expanded) := do
  let processor ← ready read request settings tree
  expandSources request processor tree sources

/-- The assets of all sources, each path once, in the order of their first use. -/
def distinctAssets (expanded : List Expanded) : List FileAsset :=
  (expanded.flatMap fun source => source.output.assets).foldl
    (fun known asset => if known.any fun other => other.path = asset.path then known
      else known ++ [asset]) []

end Flourish.Command
