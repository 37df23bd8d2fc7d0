/-
This file reads the arguments of the command.
-/

import Flourish.Command.Basic
import Flourish.Context
import Flourish.Renderer.Backend

namespace Flourish.Command

/-- What the arguments ask for. -/
inductive Invocation where
  | run (request : Request)
  | version
  | help
  deriving DecidableEq, Repr

/-- The options that take a value. -/
inductive ValueOption where
  | inputFile
  | pattern
  | backend
  | context
  | config
  deriving DecidableEq, Repr

namespace ValueOption

def flag : ValueOption → Text
  | .inputFile => "--inputFile"
  | .pattern => "--pattern"
  | .backend => "--backend"
  | .context => "--context"
  | .config => "--config"

def ofFlag? (flag : Text) : Option ValueOption :=
  [ValueOption.inputFile, .pattern, .backend, .context, .config].find? fun option =>
    option.flag = flag

/-- The values of an option, if only some are allowed. -/
def choices? : ValueOption → Option (List Text)
  | .backend => some (Backend.all.map Backend.name)
  | .context => some (ContextKind.all.map ContextKind.name)
  | .inputFile | .pattern | .config => none

def set (value : Text) (request : Request) : ValueOption → Request
  | .inputFile => { request with inputFile := value }
  | .pattern => { request with pattern := value }
  | .backend => { request with backend := value }
  | .context => { request with context := value }
  | .config => { request with config := value }

/-- The request with an option set to a value that is allowed for it. -/
def apply (option : ValueOption) (value : Text) (request : Request) : Except Text Request :=
  match option.choices? with
  | none => .ok (option.set value request)
  | some choices =>
      if choices.contains value then .ok (option.set value request)
      else
        .error (Text.join [] ["argument ", option.flag, ": invalid choice: ", Text.quoted value,
          " (choose from ", Text.commaSeparated (choices.map Text.quoted), ")"])

end ValueOption

namespace Invocation

/-- The number of times that a word asks for more lines of the log. -/
def verbosity? : Text → Option Nat
  | '-' :: 'v' :: rest => if rest.all (· = .of 'v') then some (rest.length + 1) else none
  | word => if word = "--verbosity" then some 1 else none

/-- The option and the value in one word. -/
def joined? (word : Text) : Option (ValueOption × Text) :=
  let flag := word.takeWhile (· ≠ .of '=')
  if flag.length < word.length then
    (ValueOption.ofFlag? flag).map fun option => (option, word.drop (flag.length + 1))
  else none

/-- The invocation with two folders and no more. -/
def ofFolders (request : Request) : List Text → Except Text Invocation
  | [input, output] =>
      .ok (.run { request with input := Path.ofText input, output := Path.ofText output })
  | [] | [_] => .error "the following arguments are required: inputdir, outputdir"
  | _ :: _ :: surplus => .error ("unrecognized arguments: " ++ Text.join " " surplus)

/-- The invocation that words ask for, after those that are read into a request and folders. -/
def readFrom (request : Request) (folders : List Text) : List Text → Except Text Invocation
  | [] => ofFolders request folders
  | word :: rest =>
      if word = "-h" || word = "--help" then .ok .help
      else if word = "-V" || word = "--version" then .ok .version
      else if word = "--highlight" then
        readFrom { request with highlighted := true } folders rest
      else
        match verbosity? word, joined? word, ValueOption.ofFlag? word with
        | some count, _, _ =>
            readFrom { request with verbosity := request.verbosity + count } folders rest
        | none, some (option, value), _ =>
            match option.apply value request with
            | .error message => .error message
            | .ok changed => readFrom changed folders rest
        | none, none, some option =>
            match rest with
            | [] => .error (Text.join [] ["argument ", option.flag, ": expected one argument"])
            | value :: others =>
                match option.apply value request with
                | .error message => .error message
                | .ok changed => readFrom changed folders others
        | none, none, none =>
            if word.head? = some (.of '-') then .error ("unrecognized arguments: " ++ word)
            else readFrom request (folders ++ [word]) rest

def read (words : List Text) : Except Text Invocation :=
  readFrom (Request.standard (Path.ofText []) (Path.ofText [])) [] words

def usage : Text :=
  Text.join "\n" [
    "usage: mdfx [-h] [--inputFile INPUTFILE] [--pattern PATTERN]",
    "            [--backend BACKEND] [--context CONTEXT] [--config CONFIG]",
    "            [--highlight] [-v] [-V] inputdir outputdir",
    ""]

def versionText : Text :=
  "1.0.0"

end Invocation
end Flourish.Command
