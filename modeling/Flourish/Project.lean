/-
This file reads the configuration of a project and finds it in a tree of files.
-/

import Flourish.Document.Reader
import Flourish.Document.Schema
import Flourish.Event
import Flourish.FileTree.Basic
import Flourish.Registry.Load
import Flourish.Renderer.Backend

namespace Flourish

/-- A template that a project adds. -/
structure ProjectPartial where
  template : Text
  description : Text
  deriving DecidableEq, Repr

/-- What a project adds to the standard tables and which defaults it changes. -/
structure Project where
  palette : Table Text
  partials : Table ProjectPartial
  context : Option ContextKind
  backend : Option Backend
  path : Option Path
  deriving DecidableEq, Repr

namespace Project

/-- The project that changes nothing. -/
def empty : Project :=
  ⟨[], [], none, none, none⟩

def templates (project : Project) : Table Text :=
  project.partials.map fun entry => (entry.1, entry.2.template)

/-- A checked field of a mapping, which may be missing if there is a fallback. -/
def checkedField {Value : Type} (fields : List (Text × Document)) (place name : Text)
    (check : Text → Document → Checked Value) (fallback : Option Value) : Checked Value :=
  match fields.lookup name, fallback with
  | some value, _ => check place value
  | none, some value => .ok value
  | none, none => Schema.misfit place

def checkedPartial (place : Text) : Document → Checked ProjectPartial
  | .mapping fields =>
      let part (name : Text) (fallback : Option Text) : Checked Text :=
        checkedField fields (Schema.within place name) name Schema.text fallback
      Checked.apply (Checked.apply (.ok ProjectPartial.mk) (part "template" none))
        (part "description" (some []))
  | _ => Schema.misfit place

/-- The project that the fields of a file write. Fields of other names do not matter. -/
def ofFields (path : Path) (fields : List (Text × Document)) : Checked Project :=
  let top {Value : Type} (name : Text) (check : Text → Document → Checked Value)
      (fallback : Value) : Checked Value :=
    checkedField fields name name check (some fallback)
  let palette := top "palette" (Schema.table Schema.text) []
  let partials := top "partials" (Schema.table checkedPartial) []
  let context := top "context" (Schema.optional (Schema.choice ContextKind.ofName?)) none
  let backend := top "backend" (Schema.optional (Schema.choice Backend.ofName?)) none
  let withTables := Checked.apply (Checked.apply (.ok Project.mk) palette) partials
  let withDefaults := Checked.apply (Checked.apply withTables context) backend
  Checked.apply withDefaults (.ok (some path))

/-- The field that no file may have: where the file is. -/
def pathField : Text :=
  "path"

def refused {Value : Type} (fault : ConfigurationFault) : Except Stop Value :=
  .error (.failure (Cause.configuration fault).unplaced)

def ofMapping (path : Path) (fields : List (Text × Document)) : Except Stop Project :=
  if (fields.lookup pathField).isSome then .error (.defect .wrongShape)
  else
    match ofFields path fields with
    | .ok project => .ok project
    | .error places => refused (.schema path.toText places)

/-- The project in the file at a path. A file that holds nothing changes nothing. -/
def ofFile (path : Path) : DocumentFile → Except Stop Project
  | .unreadable reason => refused (.unreadable path.toText reason)
  | .malformed => refused (.malformed path.toText)
  | .document .absent => ofMapping path []
  | .document (.mapping fields) => ofMapping path fields
  | .document _ => refused (.notMapping path.toText)

/-- What was found of a project, and what happened on the way. -/
structure Found where
  result : Except Stop Project
  events : List Event

def readEvent (path : Path) (project : Project) : Event :=
  .projectRead path.toText project.palette.length project.partials.length

def found (path : Path) : Except Stop Project → Found
  | .error stop => ⟨.error stop, []⟩
  | .ok project => ⟨.ok project, [readEvent path project]⟩

def load (path : Path) (file : DocumentFile) : Found :=
  found path (ofFile path file)

/-- What the text of the file at a path says about the project. How a configuration is written is no
matter of the program. -/
abbrev Reader :=
  Path → Text → Except Stop Project

/-- The file with a text that is written with brackets and quotation marks. -/
def fileOf (text : Text) : DocumentFile :=
  match Document.ofFile? text with
  | none => .malformed
  | some document => .document document

/-- The reader of configurations that are written so. -/
def ofText : Reader := fun path text =>
  ofFile path (fileOf text)

/-- The project in a file of a tree. -/
def loadFrom (read : Reader) (tree : FileTree) (path : Path) : Found :=
  match tree.read path with
  | .error fault => load path (.unreadable fault.message)
  | .ok octets =>
      match Text.ofUtf8 octets with
      | .error _ => ⟨.error (.defect .notText), []⟩
      | .ok text => found path (read path (Text.unifyNewlines text))

/-- The project in the nearest file of a name at or above a place. Folders of that name do not
count. Where there is none, the project is empty. -/
def discover (read : Reader) (tree : FileTree) (start : Path) (name : Text) : Found :=
  let place := tree.place start
  let folder := if tree.isFileAt ⟨true, place⟩ then place.dropLast else place
  let candidates := (FileTree.upward folder).map fun above =>
    Path.append ⟨true, above⟩ (Path.ofText name)
  match candidates.find? fun candidate => tree.isFileAt candidate with
  | some path => loadFrom read tree path
  | none => ⟨.ok empty, [.projectAbsent name (Path.toText ⟨true, folder⟩)]⟩

end Project
end Flourish
