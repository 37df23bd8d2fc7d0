/-
This file holds the reasons why a document or a configuration is refused, and their wording.
-/

import Flourish.Text.Utf8

namespace Flourish

/-- What is wrong with the head of a tag or with the form in which a tag is used. -/
inductive TagFault where
  | nameMissing (space : Text)
  | unterminated
  | emptyArgument (name : Text)
  | parameterName (key name : Text)
  | unfinished (name : Text)
  | frameWithoutContent (name : Text)
  | badgeWithoutContent (name : Text)
  | shieldWithContent (name : Text)
  | styleWithoutContent (name : Text)
  | styleArguments (name : Text)
  | stated (reason : Text)
  deriving DecidableEq, Repr

/-- What is wrong with the value of a parameter. -/
inductive ParameterFault where
  | notColor
  | notHex
  | noColors
  | undeclared (component key : Text)
  | unknownToShield (shield key : Text)
  | requiredByShield (shield : Text)
  | notForStyles
  | exclusive
  | notInteger
  | outOfRange (maximum : Nat)
  | notAlignment (alignments : List Text)
  | emptySeparator
  | reservedSeparator (separator : Text)
  | reservedLetter
  | unknownShieldStyle (known : List Text)
  | stated (reason : Text)
  deriving DecidableEq, Repr

/-- The kinds of names that may be unknown. -/
inductive Subject where
  | renderable
  | style
  | frame
  | badge
  | component
  | separator
  | partials
  | space
  | shield
  deriving DecidableEq, Repr

/-- What a run counts and limits. -/
inductive Measure where
  | depth
  | count
  deriving DecidableEq, Repr

/-- What is wrong with the transform that a component names. -/
inductive TransformFault where
  | kindMissing
  | unknownKind (shown : Text)
  | unknownTiming (shown : Text)
  deriving DecidableEq, Repr

/-- What is wrong with a configuration file. -/
inductive ConfigurationFault where
  | unreadable (path reason : Text)
  | malformed (path : Text)
  | notMapping (path : Text)
  | sectionNotMapping (path sectionName : Text)
  | entryNotMapping (path sectionName entry : Text)
  | glyphCount (place : Text) (expected found : Nat)
  | contextName (place shown : Text)
  | separatorEmpty (separator : Text)
  | templateMissing (component : Text)
  | undeclaredDefaults (component : Text) (names : List Text)
  | transform (component : Text) (fault : TransformFault)
  | defaultShieldStyle (path style : Text)
  | handlerMissing (component : Text)
  | schema (path : Text) (places : List Text)
  deriving DecidableEq, Repr

/-- Why a document or a configuration is refused. -/
inductive Cause where
  | stated (message : Text)
  | unclosedTag (name : Text)
  | mismatchedCloser (expected : Option Text) (found : Text)
  | malformedTag (fault : TagFault)
  | unknown (subject : Subject) (name : Text) (suggestions : List Text)
  | contextMismatch (name : Text) (declared : List Text) (requested : Text)
      (alternatives : List Text)
  | unsupportedLetter (place letter : Text)
  | invalidParameter (parameter value : Text) (fault : ParameterFault)
  | missingArgument (component : Text) (index : Nat)
  | shapeMismatch (component : Text) (selfClosing : Bool)
  | limitExceeded (limit : Nat) (measure : Measure)
  | rendererFailed (kind message : Text)
  | configuration (fault : ConfigurationFault)
  deriving DecidableEq, Repr

/-- A failure is a cause and, where it is known, the offset of the tag at fault. -/
structure Failure where
  cause : Cause
  offset : Option Int
  deriving DecidableEq, Repr

/-- A defect of definitions or of a caller's values that is no fault of the document. -/
inductive Defect where
  /-- A template asks for the last argument of a call that has none. -/
  | noArgument
  /-- A value of the wrong kind stands where a definition needs another. -/
  | wrongShape
  /-- A mapping is needed where another value stands. -/
  | notMapping
  /-- A configuration file is not written in UTF-8. -/
  | notText
  /-- A text that is to be written has letters without octets. -/
  | unencodable (fault : Text.EncodingFault)
  | badValue (message : Text)
  deriving DecidableEq, Repr

/-- Why a computation ends without a result. -/
inductive Stop where
  | failure (failure : Failure)
  | defect (defect : Defect)
  deriving DecidableEq, Repr

/-- An opening head with this text inside. -/
def openForm (inside : Text) : Text :=
  .of '{' :: .of '{' :: inside ++ [.of '}', .of '}']

/-- The closer with this name. -/
def closerForm (name : Text) : Text :=
  .of '{' :: .of '{' :: .of '/' :: name ++ [.of '}', .of '}']

/-- The self-closing tag with this head. -/
def selfClosingForm (inside : Text) : Text :=
  .of '{' :: .of '{' :: inside ++ [.of '/', .of '}', .of '}']

/-- The parts of a message one after another. -/
def wording (parts : List Text) : Text :=
  parts.flatten

namespace TagFault

def reason : TagFault → Text
  | .nameMissing space => wording ["expected a name after '", space, ":'"]
  | .unterminated => "unterminated tag head"
  | .emptyArgument name => wording ["empty argument in '", name, "'"]
  | .parameterName key name =>
      wording ["invalid parameter name ", Text.quoted key, " in '", name, "'"]
  | .unfinished name => wording ["expected '\x7d\x7d' or '/\x7d\x7d' to end '", name, "'"]
  | .frameWithoutContent name =>
      wording ["frame '", name, "' needs content and a ", closerForm "frame", " closer"]
  | .badgeWithoutContent name =>
      wording ["badge '", name, "' needs one character and a ", closerForm "badge", " closer"]
  | .shieldWithContent name =>
      wording ["shields:", name, " is self-closing: use ",
        selfClosingForm (wording ["shields:", name])]
  | .styleWithoutContent name =>
      wording ["style '", name, "' needs content and a ", closerForm name, " closer"]
  | .styleArguments name =>
      wording ["style '", name, "' takes no positional arguments; use separator= or spacing="]
  | .stated reason => reason

end TagFault

namespace ParameterFault

def reason : ParameterFault → Text
  | .notColor => "not a palette color or 6-digit hex"
  | .notHex => "palette colors must be 6-digit hex"
  | .noColors => "at least one color is required"
  | .undeclared component key =>
      wording ["component '", component, "' has no parameter '", key, "'"]
  | .unknownToShield shield key =>
      wording ["shields:", shield, " has no parameter '", key, "'"]
  | .requiredByShield shield => wording ["required by shields:", shield]
  | .notForStyles => "styles accept only separator= or spacing="
  | .exclusive => "separator and spacing are mutually exclusive"
  | .notInteger => "expected an integer"
  | .outOfRange maximum => wording ["expected 0..", Text.ofNat maximum]
  | .notAlignment alignments => wording ["expected one of ", Text.commaSeparated alignments]
  | .emptySeparator => "separator cannot be empty"
  | .reservedSeparator separator => wording ["'", separator, "' is reserved"]
  | .reservedLetter => "contains a reserved character"
  | .unknownShieldStyle known =>
      wording ["unknown shield style (known: ", Text.commaSeparated known, ")"]
  | .stated reason => reason

end ParameterFault

namespace Subject

def noun : Subject → Text
  | .renderable => "renderable"
  | .style => "style"
  | .frame => "frame"
  | .badge => "badge"
  | .component => "component"
  | .separator => "separator"
  | .partials => "partial"
  | .space => "namespace"
  | .shield => "shields type"

end Subject

namespace Measure

def name : Measure → Text
  | .depth => "depth"
  | .count => "count"

end Measure

namespace TransformFault

def reason : TransformFault → Text
  | .kindMissing => Text.quoted "kind"
  | .unknownKind shown => wording [shown, " is not a valid PostProcessKind"]
  | .unknownTiming shown => wording [shown, " is not a valid Timing"]

end TransformFault

namespace ConfigurationFault

def message : ConfigurationFault → Text
  | .unreadable path reason => wording ["Failed to load ", path, ": ", reason]
  | .malformed path => wording ["Failed to parse ", path, ": not a well formed document"]
  | .notMapping path => wording [path, ": top level must be a mapping"]
  | .sectionNotMapping path sectionName =>
      wording [path, ": '", sectionName, "' must be a mapping"]
  | .entryNotMapping path sectionName entry =>
      wording [path, ": ", sectionName, ".", entry, " must be a mapping"]
  | .glyphCount place expected found =>
      wording [place, ": expected ", Text.ofNat expected, " glyphs, found ", Text.ofNat found]
  | .contextName place shown => wording [place, ": ", shown, " is not a valid ContextKind"]
  | .separatorEmpty separator => wording ["separator '", separator, "' has no char"]
  | .templateMissing component =>
      wording ["component '", component, "': needs a template or native: true"]
  | .undeclaredDefaults component names =>
      wording ["component '", component, "': defaults for undeclared args ",
        Text.quotedList names]
  | .transform component fault =>
      wording ["component '", component, "': invalid post_process: ", fault.reason]
  | .defaultShieldStyle path style =>
      wording [path, ": default shield style '", style, "' is not defined"]
  | .handlerMissing component => wording ["component '", component, "' has no native handler"]
  | .schema path places =>
      wording [path, ": ", Text.ofNat places.length,
        if places.length = 1 then " validation error" else " validation errors",
        " for ProjectConfig"]

end ConfigurationFault

namespace Cause

def message : Cause → Text
  | .stated message => message
  | .unclosedTag name => wording ["unclosed tag '", name, "'"]
  | .mismatchedCloser none found =>
      wording ["closing tag '", closerForm found, "' has no matching open tag"]
  | .mismatchedCloser (some expected) found =>
      wording ["expected '", closerForm expected, "' but found '", closerForm found, "'"]
  | .malformedTag fault => wording ["invalid tag syntax: ", fault.reason]
  | .unknown subject name suggestions =>
      wording ["unknown ", subject.noun, " '", name, "'",
        if suggestions.isEmpty then []
        else wording [" (did you mean: ", Text.commaSeparated suggestions, "?)"]]
  | .contextMismatch name declared requested alternatives =>
      wording ["'", name, "' is valid in [", Text.commaSeparated declared,
        "] but was used in ", requested,
        if alternatives.isEmpty then []
        else wording [" (try: ", Text.commaSeparated alternatives, ")"]]
  | .unsupportedLetter place letter =>
      wording [place, " does not support character ", Text.quoted letter]
  | .invalidParameter parameter value fault =>
      wording ["invalid value ", Text.quoted value, " for '", parameter, "'",
        if fault.reason.isEmpty then [] else wording [": ", fault.reason]]
  | .missingArgument component index =>
      wording ["component '", component, "' requires argument $", Text.ofNat index]
  | .shapeMismatch component true =>
      wording ["component '", component, "' is self-closing: use ",
        selfClosingForm (wording ["ui:", component])]
  | .shapeMismatch component false =>
      wording ["component '", component, "' takes content: use ",
        openForm (wording ["ui:", component]), "...", closerForm "ui"]
  | .limitExceeded limit measure =>
      wording ["expansion ", measure.name, " limit of ", Text.ofNat limit, " exceeded"]
  | .rendererFailed _ message => wording ["renderer failed: ", message]
  | .configuration fault => fault.message

/-- A failure of this cause at no known place. -/
def unplaced (cause : Cause) : Failure :=
  ⟨cause, none⟩

def placed (cause : Cause) (offset : Nat) : Failure :=
  ⟨cause, some offset⟩

end Cause

namespace Failure

def message (failure : Failure) : Text :=
  failure.cause.message

/-- The message with the place of the tag at fault. -/
def toText (failure : Failure) : Text :=
  match failure.offset with
  | none => failure.message
  | some offset => wording [failure.message, " (at offset ", Text.ofInt offset, ")"]

end Failure
end Flourish
