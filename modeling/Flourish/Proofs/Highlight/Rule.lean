/-
This file holds the rules by which a highlighter cuts text: two modes with a list of rules each, of
which the first that matches counts, and a stack of modes.
-/

import Flourish.Highlight.Lexeme
import Flourish.Proofs.Highlight.Pattern

namespace Flourish.Lexeme

open Pattern (Way)

/-- What a rule makes of a match: one lexeme, or one for each group with letters in it. -/
inductive Emission where
  | whole (kind : LexemeKind)
  | byGroups (kinds : List LexemeKind)

/-- The lexemes of a match. The groups are counted from one. -/
def Emission.lexemes (way : Way) : Emission → List Lexeme
  | .whole kind => [⟨kind, way.taken⟩]
  | .byGroups kinds =>
      (kinds.zipIdx 1).filterMap fun (kind, number) =>
        ((way.groups.lookup number).filter (· ≠ [])).map fun letters => ⟨kind, letters⟩

/-- What a rule does to the stack of modes. -/
inductive Turn where
  | stay
  | enter (mode : Mode)
  | leave

/-- The stack after a turn. The mode in force comes first. -/
def Turn.apply (stack : List Mode) : Turn → List Mode
  | .stay => stack
  | .enter mode => mode :: stack
  | .leave => stack.tail

structure Rule where
  pattern : Pattern
  emission : Emission
  turn : Turn

namespace Rule

/-- The names of the namespaces. -/
def spaceNames : List Text :=
  TagKind.reserved.map TagKind.name

/-- A letter that is not the newline. -/
def onLine (letter : Letter) : Bool :=
  letter ≠ '\n'

/-- A fence is a whole block of lines, the first and last of which begin with the same marker. -/
def fence : Rule where
  pattern := .all [.lineStart, .group 1 (.oneOf ["\x60\x60\x60", "~~~"]), .longest onLine,
    .word [.of '\n'], .perhaps (.group 2 (.next (.shortest fun _ => true) (.word [.of '\n']))),
    .again 1, .longest onLine, .lineStop]
  emission := .whole .code
  turn := .stay

def inlineCode : Rule where
  pattern := .all [.word [.of '\x60'], .longest fun letter => letter ≠ '\x60' && letter ≠ '\n',
    .word [.of '\x60']]
  emission := .whole .code
  turn := .stay

def spaceCloser : Rule where
  pattern := .all [.group 1 (.word [.of '{', .of '{', .of '/']),
    .group 2 (.next (.oneOf spaceNames) .wordEdge), .group 3 (.word [.of '}', .of '}'])]
  emission := .byGroups [.punctuation, .space, .punctuation]
  turn := .stay

def nameCloser : Rule where
  pattern := .all [.group 1 (.word [.of '{', .of '{', .of '/']),
    .group 2 (.oneOrMore Tag.isNameLetter), .group 3 (.word [.of '}', .of '}'])]
  emission := .byGroups [.punctuation, .tagName, .punctuation]
  turn := .stay

def spaceHead : Rule where
  pattern := .all [.group 1 (.word [.of '{', .of '{']), .group 2 (.oneOf spaceNames),
    .group 3 (.word [.of ':']), .group 4 (.oneOrMore Tag.isNameLetter)]
  emission := .byGroups [.punctuation, .space, .punctuation, .tagName]
  turn := .enter .head

def bareHead : Rule where
  pattern := .all [.group 1 (.word [.of '{', .of '{']), .group 2 (.oneOrMore Tag.isNameLetter)]
  emission := .byGroups [.punctuation, .tagName]
  turn := .enter .head

/-- Plain text is taken as far as no markup or code begins, else a letter at a time. -/
def plainRun : Rule where
  pattern := .oneOrMore isPlain
  emission := .whole .plain
  turn := .stay

def plainLetter : Rule where
  pattern := .single fun _ => true
  emission := .whole .plain
  turn := .stay

def newline : Rule where
  pattern := .word [.of '\n']
  emission := .whole .plain
  turn := .stay

/-- The end of a head. -/
def ending (letters : Text) : Rule where
  pattern := .word letters
  emission := .whole .punctuation
  turn := .leave

def parameter : Rule where
  pattern := .all [.group 1 (.word [.of ':']), .group 2 (.oneOrMore Tag.isNameLetter),
    .group 3 (.word [.of '=']), .group 4 (.longest fun letter => !Tag.endsValue letter)]
  emission := .byGroups [.punctuation, .parameterName, .punctuation, .parameterValue]
  turn := .stay

def argument : Rule where
  pattern := .all [.group 1 (.word [.of ':']),
    .group 2 (.oneOrMore fun letter => !Tag.endsValue letter && letter ≠ '=')]
  emission := .byGroups [.punctuation, .argument]
  turn := .stay

/-- A head that goes wrong is given up without a letter. -/
def giveUp : Rule where
  pattern := .word []
  emission := .byGroups []
  turn := .leave

/-- The rules of a mode in the order in which they are tried. -/
def of : Mode → List Rule
  | .root => [fence, inlineCode, spaceCloser, nameCloser, spaceHead, bareHead, plainRun,
      plainLetter, newline]
  | .head => [ending [.of '/', .of '}', .of '}'], ending [.of '}', .of '}'], parameter, argument,
      giveUp]

end Rule

/-- A highlighter at a place of a text: its modes, the letter before the place, and the text that
is not cut yet. -/
structure Highlighter where
  stack : List Mode
  before : Option Letter
  rest : Text
  deriving DecidableEq, Repr

namespace Highlighter

def ofText (text : Text) : Highlighter :=
  ⟨[.root], none, text⟩

/-- The lexemes and the highlighter after a match of a rule. -/
def after (highlighter : Highlighter) (rule : Rule) (way : Way) : List Lexeme × Highlighter :=
  (rule.emission.lexemes way,
    ⟨rule.turn.apply highlighter.stack, way.taken.getLast?.or highlighter.before,
      highlighter.rest.drop way.taken.length⟩)

/-- The step that a rule leads to if it matches. -/
def stepBy? (highlighter : Highlighter) (rule : Rule) : Option (List Lexeme × Highlighter) :=
  rule.pattern.search highlighter.before highlighter.rest [] fun way =>
    some (highlighter.after rule way)

/-- One step: the first rule of the mode in force that matches. -/
def step? (highlighter : Highlighter) : Option (List Lexeme × Highlighter) :=
  match highlighter.stack with
  | [] => none
  | mode :: _ => (Rule.of mode).findSome? highlighter.stepBy?

/-- The steps from one state to another, with all lexemes of them. -/
inductive Runs : Highlighter → List Lexeme → Highlighter → Prop
  | done (highlighter : Highlighter) : Runs highlighter [] highlighter
  | step {first next last : Highlighter} {lexemes others : List Lexeme}
      (stepped : first.step? = some (lexemes, next)) (later : Runs next others last) :
      Runs first (lexemes ++ others) last

end Highlighter
end Flourish.Lexeme
