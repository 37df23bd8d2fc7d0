/-
This file holds patterns that select files by their paths.
-/

import Flourish.FileTree.Basic

namespace Flourish

/-- What a pattern says about one letter or more of a name. -/
inductive NamePattern where
  | exactly (letter : Letter)
  | anyLetter
  | anyText
  | oneOf (negated : Bool) (letters : Text)
  deriving DecidableEq, Repr

namespace NamePattern

/-- Letters of a class, in which a hyphen between two letters makes a range. -/
def inClass (letter : Letter) : Text → Bool
  | first :: '-' :: last :: rest => (first ≤ letter && letter ≤ last) || inClass letter rest
  | first :: rest => first = letter || inClass letter rest
  | [] => false

/-- The class after an opening bracket and the number of its letters with the closing bracket. A
closing bracket that comes first belongs to the class. -/
def classOf? (text : Text) : Option (NamePattern × Nat) :=
  let negated := text.head? = some (.of '!')
  let body := if negated then text.drop 1 else text
  let inside := body.take 1 ++ (body.drop 1).takeWhile (· ≠ .of ']')
  if inside.length < body.length then
    some (.oneOf negated inside, text.length - body.length + inside.length + 1)
  else none

/-- The pattern of a name. A bracket that nothing closes stands for itself. -/
def ofText : Text → List NamePattern
  | [] => []
  | letter :: rest =>
      if letter = '*' then .anyText :: ofText rest
      else if letter = '?' then .anyLetter :: ofText rest
      else
        match if letter = '[' then classOf? rest else none with
        | some (pattern, size) => pattern :: ofText (rest.drop size)
        | none => .exactly letter :: ofText rest
termination_by text => text.length
decreasing_by all_goals (simp only [List.length_drop, List.length_cons]; omega)

def accepts : NamePattern → Letter → Bool
  | .exactly expected, letter => expected = letter
  | .anyLetter, _ => true
  | .anyText, _ => true
  | .oneOf negated letters, letter => inClass letter letters != negated

/-- A whole name fits a pattern. -/
def fits : List NamePattern → Text → Bool
  | [], name => name.isEmpty
  | .anyText :: rest, [] => fits rest []
  | .anyText :: rest, letter :: name =>
      fits rest (letter :: name) || fits (.anyText :: rest) name
  | _ :: _, [] => false
  | pattern :: rest, letter :: name => pattern.accepts letter && fits rest name
termination_by patterns name => patterns.length + name.length

end NamePattern

/-- One part of a pattern for paths: any number of folders, the folder above, or a name. -/
inductive PathPattern where
  | folders
  | above
  | named (name : List NamePattern)
  deriving DecidableEq, Repr

namespace PathPattern

def anyFolders : Text :=
  "**"

/-- The parts of a pattern, or the complaint about a pattern that is none. -/
def ofText (text : Text) : Except Text (List PathPattern) :=
  let path := Path.ofText text
  if path.parts.isEmpty then .error ("Unacceptable pattern: " ++ Text.quoted text)
  else if path.absolute then .error "Non-relative patterns are unsupported"
  else if path.parts.any fun part =>
      part ≠ anyFolders && (Text.firstIndex anyFolders part).isSome then
    .error "Invalid pattern: '**' can only be an entire path component"
  else
    .ok (path.parts.map fun part =>
      if part = anyFolders then .folders
      else if part = Path.above then .above
      else .named (NamePattern.ofText part))

end PathPattern

namespace FileTree

/-- The ways from a place to all that is known to lie at or below it. -/
def waysBelow (tree : FileTree) (place : Place) : List (List Text) :=
  (tree.home :: tree.nodes.map Prod.fst).filterMap fun known =>
    if place.isPrefixOf known then some (known.drop place.length) else none

/-- The names of what is in a folder. -/
def children (tree : FileTree) (place : Place) : List Text :=
  ((tree.waysBelow place).filterMap List.head?).eraseDups

/-- The folder that a name in a folder leads to. -/
def enter? (tree : FileTree) (place : Place) (name : Text) : Option Place :=
  let walk := tree.walk linkLimit place [name]
  if (tree.blockedAt? (walk.stations ++ [walk.place])).isNone then some walk.place else none

/-- The ways from a folder to it and to the folders below it. Links are not followed. -/
def foldersBelow (tree : FileTree) (place : Place) : List (List Text) :=
  ((tree.waysBelow place).flatMap downward).eraseDups.filter fun way =>
    tree.isFolder (place ++ way)

/-- The ways from a folder that fit the parts of a pattern. What is not last must be a folder or
lead to one. -/
def ways (tree : FileTree) : List PathPattern → Place → List (List Text)
  | [], _ => [[]]
  | .above :: rest, place =>
      (tree.ways rest (follow place Path.above)).map fun way => Path.above :: way
  | .folders :: rest, place =>
      (tree.foldersBelow place).flatMap fun start =>
        (tree.ways rest (place ++ start)).map fun way => start ++ way
  | .named pattern :: rest, place =>
      let fitting := (tree.children place).filter fun name => NamePattern.fits pattern name
      fitting.flatMap fun name =>
        if rest.isEmpty then [[name]]
        else
          match tree.enter? place name with
          | none => []
          | some folder => (tree.ways rest folder).map fun way => name :: way

/-- The paths from a folder that fit a pattern. Where the pattern ends with a slash, only folders
fit, and they are left out. -/
def select (tree : FileTree) (folder : Path) (pattern : Text) : Except Text (List Path) :=
  (PathPattern.ofText pattern).map fun parts =>
    if pattern.getLast? = some (.of '/') then []
    else (tree.ways parts (tree.place folder)).eraseDups.map fun way => folder.append ⟨false, way⟩

end FileTree
end Flourish
