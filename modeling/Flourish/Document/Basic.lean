/-
This file holds the values that configuration files are made of. Mappings keep their order.
-/

import Flourish.Number.Binary64
import Flourish.Text.Quoted

namespace Flourish

/-- A value of a document. -/
inductive Document where
  | absent
  | flag (value : Bool)
  | integer (value : Int)
  | real (value : Binary64)
  | text (value : Text)
  | list (items : List Document)
  | mapping (entries : List (Text × Document))
  deriving Repr, Inhabited

namespace Document

/-- Absent values, zeros and empty values count as not given. -/
def isGiven : Document → Bool
  | .absent => false
  | .flag value => value
  | .integer value => value ≠ 0
  | .real value => !value.isZero
  | .text value => !value.isEmpty
  | .list items => !items.isEmpty
  | .mapping entries => !entries.isEmpty

mutual

/-- A value as it reads inside a list: texts are in quotation marks. -/
def literal : Document → Text
  | .absent => "None"
  | .flag value => if value then "True" else "False"
  | .integer value => Text.ofInt value
  | .real value => value.toText
  | .text value => Text.quoted value
  | .list items => .of '[' :: literalItems true items ++ [.of ']']
  | .mapping entries => .of '{' :: literalEntries true entries ++ [.of '}']

def literalItems (first : Bool) : List Document → Text
  | [] => []
  | item :: rest =>
      (if first then [] else [.of ',', .of ' ']) ++ literal item ++ literalItems false rest

def literalEntries (first : Bool) : List (Text × Document) → Text
  | [] => []
  | (key, value) :: rest =>
      (if first then [] else [.of ',', .of ' ']) ++ Text.quoted key ++ [.of ':', .of ' '] ++
        literal value ++ literalEntries false rest

end

/-- A value as plain text. -/
def plain : Document → Text
  | .text value => value
  | other => other.literal

/-- The value under a key of a mapping. -/
def field? (key : Text) : Document → Option Document
  | .mapping entries => entries.lookup key
  | _ => none

end Document
end Flourish
