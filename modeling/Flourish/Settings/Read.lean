/-
This file reads settings from the environment and from values that are given directly.
-/

import Flourish.Document.Reader
import Flourish.Document.Schema
import Flourish.Settings.Basic

namespace Flourish

/-- Why settings are refused. -/
inductive SettingsFault where
  /-- An environment variable that should hold a list is not well formed. -/
  | unreadable (name : Text)
  | misfits (places : List Text)
  deriving DecidableEq, Repr

namespace Settings

/-- The settings that are single values. -/
def singleNames : List Text :=
  ["max_expansion_depth", "max_expansions", "default_context", "separator_max_graphemes",
    "frame_chrome_max_length", "max_spacing", "inline_code_delimiter", "default_backend",
    "assets_dir", "project_config_name"]

/-- The settings that are lists. -/
def listNames : List Text :=
  ["fence_markers"]

def names : List Text :=
  singleNames ++ listNames

/-- The values of settings under their names. -/
def values (settings : Settings) : List (Text × Document) :=
  [("max_expansion_depth", .integer settings.maxExpansionDepth),
    ("max_expansions", .integer settings.maxExpansions),
    ("default_context", .text settings.defaultContext.name),
    ("separator_max_graphemes", .integer settings.separatorMaxClusters),
    ("frame_chrome_max_length", .integer settings.frameChromeMaxLength),
    ("max_spacing", .integer settings.maxSpacing),
    ("fence_markers", .list (settings.codeMarks.fences.map .text)),
    ("inline_code_delimiter", .text settings.codeMarks.delimiter),
    ("default_backend", .text settings.defaultBackend.name),
    ("assets_dir", .text settings.assetsFolder),
    ("project_config_name", .text settings.projectFileName)]

/-- The start of the names of environment variables that hold settings. -/
def variableStart : Text :=
  "mdfx_"

/-- The small form of a letter in the name of a variable. The sign for kelvin is a capital K. -/
def smallLetter (letter : Letter) : Letter :=
  if letter = '\u212a' then 'k' else letter.toLower

/-- The value of the variable of a setting. The case of variable names does not count, and of two
variables with one name the last counts. -/
def variableOf? (environment : List (Text × Text)) (name : Text) : Option Text :=
  (environment.reverse.find? fun entry =>
    entry.1.map smallLetter = variableStart ++ name).map Prod.snd

/-- The values in the environment. Lists are written as documents; the absent one gives no value. -/
def environmentValues (environment : List (Text × Text)) :
    Except SettingsFault (List (Text × Document)) := do
  let singles := singleNames.filterMap fun name =>
    (variableOf? environment name).map fun value => (name, Document.text value)
  let lists ← listNames.filterMapM fun name =>
    match variableOf? environment name with
    | none => .ok none
    | some value =>
        match Document.parse? .interchange value with
        | none => .error (.unreadable name)
        | some .absent => .ok none
        | some document => .ok (some (name, document))
  pure (singles ++ lists)

/-- The checked value of a setting, which is standard if the setting is not there. -/
def setting {Value : Type} (values : List (Text × Document)) (name : Text)
    (check : Text → Document → Checked Value) (fallback : Value) : Checked Value :=
  match values.lookup name with
  | none => .ok fallback
  | some value => check name value

def ofValues (values : List (Text × Document)) : Checked Settings :=
  let fences := setting values "fence_markers" Schema.texts standard.codeMarks.fences
  let delimiter :=
    setting values "inline_code_delimiter" Schema.filledText standard.codeMarks.delimiter
  let codeMarks := Checked.apply (Checked.apply (.ok CodeMarks.mk) fences) delimiter
  let depth :=
    setting values "max_expansion_depth" (Schema.atLeast 1) standard.maxExpansionDepth
  let count := setting values "max_expansions" (Schema.atLeast 1) standard.maxExpansions
  let context :=
    setting values "default_context" (Schema.choice ContextKind.ofName?) standard.defaultContext
  let clusters :=
    setting values "separator_max_graphemes" (Schema.atLeast 1) standard.separatorMaxClusters
  let chrome :=
    setting values "frame_chrome_max_length" (Schema.atLeast 1) standard.frameChromeMaxLength
  let spacing := setting values "max_spacing" (Schema.atLeast 0) standard.maxSpacing
  let backend :=
    setting values "default_backend" (Schema.choice Backend.ofName?) standard.defaultBackend
  let assets := setting values "assets_dir" Schema.text standard.assetsFolder
  let project := setting values "project_config_name" Schema.text standard.projectFileName
  let withLimits := Checked.apply (Checked.apply (.ok Settings.mk) depth) count
  let withContext := Checked.apply (Checked.apply withLimits context) clusters
  let withSizes := Checked.apply (Checked.apply withContext chrome) spacing
  let withBackend := Checked.apply (Checked.apply withSizes codeMarks) backend
  Checked.apply (Checked.apply withBackend assets) project

/-- The settings of an environment and of given values, which come first. Variables for no setting
do not matter, but a given value must be for one. -/
def read (environment : List (Text × Text)) (given : List (Text × Document)) :
    Except SettingsFault Settings := do
  let found ← environmentValues environment
  let strangers := given.filterMap fun entry =>
    if names.contains entry.1 then none else some entry.1
  match ofValues (given ++ found), strangers with
  | .ok settings, [] => .ok settings
  | .ok _, _ => .error (.misfits (Text.sortedDistinct strangers))
  | .error places, _ => .error (.misfits (Text.sortedDistinct (places ++ strangers)))

end Settings
end Flourish
