/-
This file holds what happens in a run, and which of it is worth a line in the log.
-/

import Flourish.Primitive
import Flourish.Text.Quoted

namespace Flourish

/-- Lines for everyone, for the curious, and for those who trace a run. -/
inductive Level where
  | info
  | debug
  | trace
  deriving DecidableEq, Repr

namespace Level

def name : Level → Text
  | .info => "INFO"
  | .debug => "DEBUG"
  | .trace => "TRACE"

/-- The verbosity from which on lines of a level are shown. -/
def threshold : Level → Nat
  | .info => 1
  | .debug => 2
  | .trace => 3

end Level

/-- A line of the log. -/
structure Note where
  level : Level
  stage : Text
  message : Text
  deriving DecidableEq, Repr

inductive Event where
  /-- The tables of a registry file were read; the sizes come with the names of the kinds. -/
  | registryRead (file : Text) (sizes : List (Text × Nat))
  | projectRead (path : Text) (colors partials : Nat)
  | projectAbsent (name start : Text)
  | paletteExtended (count : Nat)
  | scanned (letters spans : Nat)
  | dispatched (tag : Text) (offset : Int)
  | pushed (tag : Text) (depth : Nat)
  | popped (depth letters : Nat)
  | nativeCalled (component : Text) (arguments : List Text)
  | substituted (component : Text) (letters : Nat)
  | rendered (primitive : Primitive)
  | expanded (count assets : Nat)
  | noted (note : Note)
  deriving DecidableEq, Repr

namespace Event

/-- The stage of lines that belong to no stage of a command. -/
def defaultStage : Text :=
  "mdfx"

def message : Event → Option (Level × List Text)
  | .registryRead file sizes =>
      some (.debug, ["Registry ", file, ": ", Text.commaSeparated (sizes.map fun entry =>
        Text.ofNat entry.2 ++ .of ' ' :: entry.1 ++ [.of 's'])])
  | .projectRead path colors partials =>
      some (.debug, ["Loaded ", path, ": ", Text.ofNat colors, " colors, ", Text.ofNat partials,
        " partials"])
  | .projectAbsent name start => some (.trace, ["No ", name, " found above ", start])
  | .paletteExtended count =>
      some (.debug, ["Palette extended with ", Text.ofNat count, " colors"])
  | .scanned letters spans =>
      some (.trace, ["Scanned ", Text.ofNat letters, " chars into ", Text.ofNat spans, " spans"])
  | .dispatched tag offset => some (.trace, ["dispatch ", tag, " at ", Text.ofInt offset])
  | .pushed tag depth => some (.trace, ["push ", tag, " at depth ", Text.ofNat depth])
  | .popped depth letters =>
      some (.trace, ["pop depth ", Text.ofNat depth, " (", Text.ofNat letters, " chars)"])
  | .nativeCalled component arguments =>
      some (.trace, ["native ui:", component, " args=", Text.quotedList arguments])
  | .substituted component letters =>
      some (.trace, ["template ui:", component, " → ", Text.ofNat letters, " chars"])
  | .rendered _ => none
  | .expanded count assets =>
      some (.trace, ["Expanded ", Text.ofNat count, " templates, ", Text.ofNat assets, " assets"])
  | .noted _ => none

/-- The line of an event, if it has one. -/
def note? : Event → Option Note
  | .noted note => some note
  | event => event.message.map fun (level, parts) => ⟨level, defaultStage, parts.flatten⟩

end Event

namespace Note

/-- The lines of events that a verbosity shows, in order. -/
def shown (verbosity : Nat) (events : List Event) : List Note :=
  (events.filterMap Event.note?).filter fun note => note.level.threshold ≤ verbosity

end Note
end Flourish
