/-
This file builds registries from documents and names the first entry that is not well formed.
-/

import Flourish.Event
import Flourish.Registry.Basic
import Flourish.Text.Uppercase

namespace Flourish

/-- What a place in the file system holds where a document is expected. -/
inductive DocumentFile where
  | unreadable (reason : Text)
  | malformed
  | document (document : Document)

namespace Registry

namespace Load

/-- Building ends with a failure of the configuration or with a defect of a value. -/
abbrev Built := Except Stop

def refused {Value : Type} (fault : ConfigurationFault) : Built Value :=
  .error (.failure (Cause.configuration fault).unplaced)

def misshapen {Value : Type} : Built Value :=
  .error (.defect .wrongShape)

/-- The members of a value that can be gone through: letters, items or keys. -/
def members : Document → Built (List Document)
  | .text value => .ok (value.map fun letter => .text [letter])
  | .list items => .ok items
  | .mapping entries => .ok (entries.map fun entry => .text entry.1)
  | _ => misshapen

/-- A field of an entry, absent if it is not there. -/
def field (entry : List (Text × Document)) (name : Text) : Document :=
  (entry.lookup name).getD .absent

def fieldOr (entry : List (Text × Document)) (name : Text) (fallback : Document) : Document :=
  (entry.lookup name).getD fallback

/-- The members of a field as plain texts; a field that is not given has none. -/
def texts (value : Document) : Built (List Text) :=
  if value.isGiven then (members value).map fun items => items.map Document.plain else .ok []

/-- The entries of a field, which is a mapping if it is given. -/
def entries (value : Document) : Built (List (Text × Document)) :=
  if value.isGiven then
    match value with
    | .mapping found => .ok found
    | _ => .error (.defect .notMapping)
  else .ok []

def plainEntries (value : Document) : Built (Table Text) :=
  (entries value).map fun found => found.map fun entry => (entry.1, entry.2.plain)

def contextKind (place : Text) (name : Document) : Built ContextKind :=
  let known :=
    match name with
    | .text written => ContextKind.ofName? written
    | _ => none
  match known with
  | some kind => .ok kind
  | none => refused (.contextName place name.literal)

/-- The contexts of an entry. An entry that names none may be used everywhere. -/
def contexts (place : Text) (entry : List (Text × Document)) : Built (List ContextKind) :=
  match field entry "contexts" with
  | .absent => .ok ContextKind.all
  | names => do
      let kinds ← (← members names).mapM (contextKind place)
      pure (ContextKind.listed kinds)

/-- Glyphs that stand one for one for keys. -/
def aligned (place keys : Text) (glyphs : Document) : Built (Table Document) := do
  let found ← members glyphs
  if found.length ≠ keys.length then refused (.glyphCount place keys.length found.length)
  else pure (Table.ofEntries (List.zip (keys.map fun key => [key]) found))

def alignedIfGiven (place keys : Text) (glyphs : Document) : Built (Table Document) :=
  if glyphs.isGiven then aligned place keys glyphs else .ok []

def upperLetters : Text :=
  "ABCDEFGHIJKLMNOPQRSTUVWXYZ"

def lowerLetters : Text :=
  "abcdefghijklmnopqrstuvwxyz"

def digitLetters : Text :=
  "0123456789"

/-- A pair of a list that is used as a mapping. Only texts are of use as keys. -/
def pairOf (index : Nat) (item : Document) : Built (Option (Text × Document)) := do
  match ← members item with
  | [.text key, value] => pure (some (key, value))
  | [.list _, _] | [.mapping _, _] => misshapen
  | [_, _] => pure none
  | found =>
      .error (.defect (.badValue (wording ["dictionary update sequence element #",
        Text.ofNat index, " has length ", Text.ofNat found.length, "; 2 is required"])))

/-- A field that is a mapping, or a list of pairs. -/
def pairs (value : Document) : Built (Table Document) :=
  if value.isGiven then
    match value with
    | .mapping found => .ok found
    | other => do
        let found ← (← members other).zipIdx.mapM fun (item, index) => pairOf index item
        pure (Table.ofEntries (found.filterMap id))
  else .ok []

def describe (entry : List (Text × Document)) : Document :=
  fieldOr entry "description" (.text [])

def style (id : Text) (entry : List (Text × Document)) : Built (Entry StyleBody) := do
  let place := wording ["style '", id, "'"]
  let aliases ← texts (field entry "aliases")
  let kinds ← contexts place entry
  let upper ← alignedIfGiven (wording [place, " upper"]) upperLetters (field entry "upper")
  let lower ← alignedIfGiven (wording [place, " lower"]) lowerLetters (field entry "lower")
  let digits ← alignedIfGiven (wording [place, " digits"]) digitLetters (field entry "digits")
  let extra ← pairs (field entry "extra")
  let category := fieldOr entry "category" (.text [])
  pure ⟨id, aliases, kinds, describe entry, ⟨category, upper, lower, digits, extra⟩⟩

def frame (id : Text) (entry : List (Text × Document)) : Built (Entry FrameBody) := do
  let aliases ← texts (field entry "aliases")
  let kinds ← contexts (wording ["frame '", id, "'"]) entry
  let before := (fieldOr entry "prefix" (.text [])).plain
  let after := (fieldOr entry "suffix" (.text [])).plain
  pure ⟨id, aliases, kinds, describe entry, ⟨before, after⟩⟩

/-- Each key with the glyph at its place. A key that comes again takes the later glyph. -/
def letterPairs : List (Letter × Letter) → List (Letter × Letter) → List (Letter × Letter)
  | found, [] => found
  | found, (key, glyph) :: rest =>
      if found.any fun entry => entry.1 = key then
        letterPairs (found.map fun entry => if entry.1 = key then (key, glyph) else entry) rest
      else letterPairs (found ++ [(key, glyph)]) rest

def badge (id : Text) (entry : List (Text × Document)) : Built (Entry BadgeBody) := do
  let place := wording ["badge '", id, "'"]
  let aliases ← texts (field entry "aliases")
  let kinds ← contexts place entry
  let keys := (fieldOr entry "keys" (.text [])).plain
  let values := (fieldOr entry "values" (.text [])).plain
  if values.length ≠ keys.length then refused (.glyphCount place keys.length values.length)
  else pure ⟨id, aliases, kinds, describe entry, ⟨letterPairs [] (List.zip keys values)⟩⟩

def separator (id : Text) (entry : List (Text × Document)) : Built (Entry SeparatorBody) := do
  let written := (fieldOr entry "char" (.text [])).plain
  if written.isEmpty then refused (.separatorEmpty id)
  else
    let aliases ← texts (field entry "aliases")
    let kinds ← contexts (wording ["separator '", id, "'"]) entry
    pure ⟨id, aliases, kinds, describe entry, ⟨written⟩⟩

def transformKind (id : Text) (value : Document) : Built TransformKind :=
  let known :=
    match value with
    | .text written => TransformKind.ofName? written
    | _ => none
  match known with
  | some kind => .ok kind
  | none => refused (.transform id (.unknownKind value.literal))

def timing (id : Text) (value : Document) : Built Timing :=
  let known :=
    match value with
    | .text written => Timing.ofName? written
    | _ => none
  match known with
  | some found => .ok found
  | none => refused (.transform id (.unknownTiming value.literal))

/-- The transform of a component, if it names one. -/
def postProcess (id : Text) (value : Document) : Built (Option PostProcess) :=
  if value.isGiven then
    match value with
    | .mapping found =>
        match found.lookup ("kind" : Text) with
        | none => refused (.transform id .kindMissing)
        | some written => do
            let kind ← transformKind id written
            let moment ← timing id (fieldOr found "timing" (.text Timing.preExpand.name))
            pure (some ⟨kind, moment⟩)
    | _ => misshapen
  else .ok none

def component (id : Text) (entry : List (Text × Document)) : Built (Entry ComponentBody) := do
  let native := (field entry "native").isGiven
  let template := (fieldOr entry "template" (.text [])).plain
  if !native && template.isEmpty then refused (.templateMissing id)
  else
    let arguments ← texts (field entry "args")
    let defaults ← plainEntries (field entry "defaults")
    let undeclared := defaults.names.filter fun name => !arguments.contains name
    if !undeclared.isEmpty then refused (.undeclaredDefaults id (Text.sorted undeclared))
    else
      let post ← postProcess id (field entry "post_process")
      let aliases ← texts (field entry "aliases")
      let kinds ← contexts (wording ["component '", id, "'"]) entry
      let selfClosing := (field entry "self_closing").isGiven
      let parameters ← plainEntries (field entry "params")
      pure ⟨id, aliases, kinds, describe entry,
        ⟨selfClosing, native, template, arguments, defaults, parameters, post⟩⟩

/-- A template of a project. It may be used in lines and blocks. -/
def partialEntry (id template : Text) : Entry PartialBody :=
  ⟨id, [], [.block, .inline], .text [], ⟨template⟩⟩

/-- The templates of a project under their names. -/
def partialEntries (partials : Table Text) : List (Entry PartialBody) :=
  Entry.keyed (partials.map fun entry => partialEntry entry.1 entry.2)

/-- The entries of a section under their ids, each built in document order. -/
def sectionEntries {Body : Type} (path : Text) (document : List (Text × Document))
    (name : Text) (build : Text → List (Text × Document) → Built (Entry Body)) :
    Built (List (Entry Body)) :=
  let value := field document name
  if value.isGiven then
    match value with
    | .mapping found => do
        let built ← found.mapM fun (id, entry) =>
          match entry with
          | .mapping fields => build id fields
          | _ => refused (.entryNotMapping path name id)
        pure (Entry.keyed built)
    | _ => refused (.sectionNotMapping path name)
  else .ok []

/-- The shield styles with their other names. -/
def shieldStyles (shields : List (Text × Document)) : Built (Table (List Text)) := do
  let found ← entries (field shields "styles")
  let styles ← found.mapM fun (name, aliases) => (texts aliases).map (name, ·)
  pure (Table.ofEntries styles)

/-- A registry from the document in the file at a path, with the templates of a project. -/
def ofMapping (path : Text) (document : List (Text × Document)) (partials : Table Text) :
    Built Registry := do
  let styles ← sectionEntries path document "styles" style
  let frames ← sectionEntries path document "frames" frame
  let badges ← sectionEntries path document "badges" badge
  let separators ← sectionEntries path document "separators" separator
  let components ← sectionEntries path document "components" component
  let colors ← plainEntries (field document "palette")
  let palette := colors.map fun color => (color.1, Text.uppercase color.2)
  let shields ← entries (field document "shield_styles")
  let known ← shieldStyles shields
  let fallback := (fieldOr shields "default" (.text "flat-square")).plain
  if !known.isEmpty && !known.contains fallback then refused (.defaultShieldStyle path fallback)
  else
    pure {
      styles := styles
      frames := frames
      badges := badges
      separators := separators
      components := components
      partials := partialEntries partials
      palette := palette
      shieldStyles := known
      defaultShieldStyle := fallback }

end Load

/-- The registry that the file at a path writes. -/
def ofFile (path : Text) (file : DocumentFile) (partials : Table Text) : Except Stop Registry :=
  match file with
  | .unreadable reason => Load.refused (.unreadable path reason)
  | .malformed => Load.refused (.malformed path)
  | .document (.mapping entries) => Load.ofMapping path entries partials
  | .document _ => Load.refused (.notMapping path)

/-- The event of reading a registry from a file. -/
def readEvent (registry : Registry) (file : Text) : Event :=
  .registryRead file (RenderableKind.all.map fun kind => (kind.name, registry.size kind))

end Registry
end Flourish
