/-
This file colors template text for terminals.
-/

import Flourish.Highlight.Lexeme

namespace Flourish

namespace LexemeKind

/-- The number of the terminal color of a kind of lexeme. Most kinds have none. -/
def colorCode? : LexemeKind → Option Text
  | .tagName => some "94"
  | .space => some "34"
  | .parameterName => some "36"
  | .parameterValue | .code => some "33"
  | .punctuation | .argument | .plain => none

end LexemeKind

namespace Highlight

/-- The escape sequence that sets the attributes with these codes. -/
def escape (codes : Text) : Text :=
  .of '\x1b' :: .of '[' :: codes ++ [.of 'm']

def resetCodes : Text :=
  "39;49;00"

/-- Letters after which a new line is colored anew. -/
def endsLine (letter : Letter) : Bool :=
  [.of '\n', .of '\x0b', .of '\x0c', .of '\x1c', .of '\x1d', .of '\x1e', .of '\u0085', .of '\u2028',
    .of '\u2029'].contains letter

/-- The lines of a text, each with the letter that ends it. -/
def coloredLines : Text → List Text
  | [] => []
  | letter :: rest =>
      if endsLine letter then [letter] :: coloredLines rest
      else
        match coloredLines rest with
        | [] => [[letter]]
        | line :: others => (letter :: line) :: others

/-- A line in a color. A newline stays outside of the color. -/
def colorLine (code line : Text) : Text :=
  let shown := line.filter (· ≠ .of '\n')
  escape code ++ shown ++ escape resetCodes ++ line.drop shown.length

def colorLexeme (lexeme : Lexeme) : Text :=
  match lexeme.kind.colorCode? with
  | none => lexeme.value
  | some code => (coloredLines lexeme.value).flatMap (colorLine code)

/-- Lexemes as a terminal shows them. -/
def terminal (lexemes : List Lexeme) : Text :=
  lexemes.flatMap colorLexeme

/-- The text with its lexemes in a format and without newlines at its end. -/
def coloredBy (format : List Lexeme → Text) (text : Text) : Text :=
  ((format (Lexeme.ofText text)).reverse.dropWhile (· = .of '\n')).reverse

end Highlight
end Flourish
