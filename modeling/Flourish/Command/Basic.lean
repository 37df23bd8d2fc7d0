/-
This file says what the command is asked for, and how its stages follow each other.
-/

import Flourish.Event
import Flourish.Failure
import Flourish.FileTree.Basic

namespace Flourish.Command

/-- What the command is asked for. Empty names count as not given. -/
structure Request where
  input : Path
  output : Path
  inputFile : Text
  pattern : Text
  backend : Text
  context : Text
  config : Text
  highlighted : Bool
  verbosity : Nat
  deriving DecidableEq, Repr

namespace Request

def standardPattern : Text :=
  "**/*.md"

def standard (input output : Path) : Request where
  input := input
  output := output
  inputFile := []
  pattern := standardPattern
  backend := []
  context := []
  config := []
  highlighted := false
  verbosity := 1

end Request

/-- Why the command ends before its work is done. -/
inductive Halt where
  /-- Something is wrong with what the command was given; this is the complaint. -/
  | complaint (message : Text)
  | defect (defect : Defect)
  | fileFault (fault : FileFault)
  deriving DecidableEq, Repr

/-- A complaint of one line or more, the last of them ended. -/
def Halt.complaining (parts : List Text) : Halt :=
  .complaint (wording parts ++ [.of '\n'])

/-- What a stage gives: its value or why the command ends, and what happened, oldest first. -/
structure Stage (Value : Type) where
  result : Except Halt Value
  events : List Event

namespace Stage

variable {Value Other : Type}

def done (value : Value) : Stage Value :=
  ⟨.ok value, []⟩

def halt (reason : Halt) : Stage Value :=
  ⟨.error reason, []⟩

def complain (parts : List Text) : Stage Value :=
  halt (.complaining parts)

def happened (events : List Event) : Stage Unit :=
  ⟨.ok (), events⟩

/-- A stage and what follows it if it does not halt. -/
def andThen (stage : Stage Value) (next : Value → Stage Other) : Stage Other :=
  match stage.result with
  | .error reason => ⟨.error reason, stage.events⟩
  | .ok value => ⟨(next value).result, stage.events ++ (next value).events⟩

instance : Monad Stage where
  pure := done
  bind := andThen

end Stage

/-- A line of the log from a stage of the command. -/
def noted (level : Level) (stage : Text) (parts : List Text) : Event :=
  .noted ⟨level, stage, wording parts⟩

end Flourish.Command
