/-
This file says how markup reads: a text is cut into tags and letters, and these are put together to
elements. Main statement: the nodes that are read have the tokens that they were read from.
-/

import Mathlib.Data.List.TakeWhile
import Flourish.Table

namespace Flourish.Html

/-- How a reader resolves the character references in the value of an attribute. A reference begins
with an ampersand and is at least as long as what it stands for; without one only the letter NUL is
replaced. -/
structure Resolver where
  resolve : Text → Text
  length_le (value : Text) : (resolve value).length ≤ value.length
  plain {value : Text} (bare : .of '&' ∉ value) (whole : .of '\x00' ∉ value) : resolve value = value

namespace Resolver

/-- The reader that takes every value as it is written. -/
def verbatim : Resolver :=
  ⟨id, fun _ => Nat.le_refl _, fun _ _ => rfl⟩

/-- A value reads as it is written between double quotes. -/
def Keeps (resolver : Resolver) (value : Text) : Prop :=
  .of '"' ∉ value ∧ resolver.resolve value = value

instance (resolver : Resolver) (value : Text) : Decidable (resolver.Keeps value) :=
  inferInstanceAs (Decidable (_ ∧ _))

/-- Only a value that is kept whole can be what its letters before the first quote stand for. -/
theorem resolve_front_iff (resolver : Resolver) {value : Text} :
    resolver.resolve (value.takeWhile (· ≠ .of '"')) = value ↔ resolver.Keeps value := by
  have whole : value.takeWhile (· ≠ .of '"') = value ↔ .of '"' ∉ value := by
    rw [List.takeWhile_eq_self_iff]
    grind
  constructor
  · intro equal
    have front : value.takeWhile (· ≠ .of '"') <+: value := List.takeWhile_prefix _
    have short := resolver.length_le (value.takeWhile (· ≠ .of '"'))
    rw [equal] at short
    have same := front.eq_of_length (Nat.le_antisymm front.length_le short)
    exact ⟨whole.mp same, by rwa [same] at equal⟩
  · rintro ⟨unquoted, kept⟩
    rw [whole.mpr unquoted, kept]

/-- A value without quotes, ampersands and NUL is kept by every reader. -/
theorem keeps_of_bare (resolver : Resolver) {value : Text}
    (bare : ∀ letter ∈ value, letter ≠ '"' ∧ letter ≠ '&' ∧ letter ≠ '\x00') :
    resolver.Keeps value :=
  ⟨fun member => (bare _ member).1 rfl,
    resolver.plain (fun member => (bare _ member).2.1 rfl) fun member => (bare _ member).2.2 rfl⟩

end Resolver

/-- The white space between the parts of a tag. -/
def isSpace (letter : Letter) : Bool :=
  letter = ' ' || letter = '\t' || letter = '\n' || letter = '\x0C' || letter = '\r'

/-- A letter with which the name of an element goes on. -/
def isTagLetter (letter : Letter) : Bool :=
  !(isSpace letter || letter = '/' || letter = '>')

/-- A letter with which the name of an attribute goes on. -/
def isNameLetter (letter : Letter) : Bool :=
  isTagLetter letter && letter ≠ '='

/-- A letter with which a value without quotes goes on. -/
def isValueLetter (letter : Letter) : Bool :=
  !(isSpace letter || letter = '>')

/-- A value up to the next quote of its kind, and what follows the quote. -/
def quotedAt? (quote : Letter) (text : Text) : Option (Text × Text) :=
  match text.dropWhile (· ≠ quote) with
  | [] => none
  | _ :: rest => some (text.takeWhile (· ≠ quote), rest)

def valueAt? : Text → Option (Text × Text)
  | '"' :: rest => quotedAt? '"' rest
  | '\'' :: rest => quotedAt? '\'' rest
  | text => some (text.takeWhile isValueLetter, text.dropWhile isValueLetter)

/-- The value behind the name of an attribute, which is empty if none is assigned. -/
def assignedAt? (text : Text) : Option (Text × Text) :=
  match text.dropWhile isSpace with
  | '=' :: rest => valueAt? (rest.dropWhile isSpace)
  | rest => some ([], rest)

variable {quote : Letter} {text rest value : Text}

theorem length_of_quotedAt? (found : quotedAt? quote text = some (value, rest)) :
    rest.length ≤ text.length := by
  rw [quotedAt?] at found
  have short := (text.dropWhile_suffix (· ≠ quote)).length_le
  split at found
  · cases found
  · next same =>
      cases found
      rw [same] at short
      exact Nat.le_of_succ_le short

theorem length_of_valueAt? (found : valueAt? text = some (value, rest)) :
    rest.length ≤ text.length := by
  unfold valueAt? at found
  split at found
  · exact Nat.le_succ_of_le (length_of_quotedAt? found)
  · exact Nat.le_succ_of_le (length_of_quotedAt? found)
  · cases found
    exact (List.dropWhile_suffix _).length_le

theorem length_of_assignedAt? (found : assignedAt? text = some (value, rest)) :
    rest.length ≤ text.length := by
  rw [assignedAt?] at found
  have short := (List.dropWhile_suffix (l := text) isSpace).length_le
  split at found
  · next others same =>
      have shorter := (List.dropWhile_suffix (l := others) isSpace).length_le
      have behind := length_of_valueAt? found
      rw [same, List.length_cons] at short
      omega
  · cases found
    exact short

/-- The attributes of a tag, and what follows the end of the tag. -/
def attributesAt? (resolver : Resolver) : Text → Option (List (Text × Text) × Text)
  | [] => none
  | letter :: rest =>
      if letter = '>' then some ([], rest)
      else if isSpace letter || letter = '/' then attributesAt? resolver rest
      else
        match _ : assignedAt? (rest.dropWhile isNameLetter) with
        | none => none
        | some (value, others) =>
            (attributesAt? resolver others).map fun later =>
              (((letter :: rest.takeWhile isNameLetter).map Letter.toLower, resolver.resolve value) ::
                later.1, later.2)
termination_by text => text.length
decreasing_by
  · exact Nat.lt_succ_self _
  · have behind := length_of_assignedAt? ‹_›
    have short := (List.dropWhile_suffix (l := rest) isNameLetter).length_le
    simp only [List.length_cons]
    omega

/-- The name and the attributes of a tag, and what follows it. Of the attributes of one name the
first counts. -/
def tagAt? (resolver : Resolver) (text : Text) : Option (Text × Table Text × Text) :=
  if text.head?.any Letter.isAlpha then
    (attributesAt? resolver (text.dropWhile isTagLetter)).map fun found =>
      ((text.takeWhile isTagLetter).map Letter.toLower, Table.insertAllNew [] found.1, found.2)
  else none

/-- A letter of the text, or a tag. -/
inductive Token where
  | letter (letter : Letter)
  | opening (name : Text) (attributes : Table Text)
  | closing (name : Text)
  deriving DecidableEq, Repr

/-- The first token of a text and what follows it. Comments and declarations are not read. -/
def tokenAt? (resolver : Resolver) : Text → Option (Token × Text)
  | [] => none
  | '<' :: '/' :: rest =>
      (tagAt? resolver rest).map fun found => (.closing found.1, found.2.2)
  | '<' :: rest =>
      if rest.head?.any Letter.isAlpha then
        (tagAt? resolver rest).map fun found => (.opening found.1 found.2.1, found.2.2)
      else if rest.head? = some (.of '!') || rest.head? = some (.of '?') then none
      else some (.letter '<', rest)
  | letter :: rest => some (.letter letter, rest)

theorem length_of_attributesAt? {resolver : Resolver} {entries : List (Text × Text)}
    (found : attributesAt? resolver text = some (entries, rest)) : rest.length < text.length := by
  fun_induction attributesAt? resolver text generalizing entries with
  | case1 => cases found
  | case2 =>
      cases found
      exact Nat.lt_succ_self _
  | case3 _ _ _ _ inductionHypothesis => exact Nat.lt_succ_of_lt (inductionHypothesis found)
  | case4 => cases found
  | case5 letter others _ _ value behind assigned inductionHypothesis =>
      obtain ⟨later, ended, equal⟩ := Option.map_eq_some_iff.mp found
      cases equal
      have shorter := inductionHypothesis ended
      have within := length_of_assignedAt? assigned
      have short := (List.dropWhile_suffix (l := others) isNameLetter).length_le
      simp only [List.length_cons]
      omega

theorem length_of_tagAt? {resolver : Resolver} {name : Text} {attributes : Table Text}
    (found : tagAt? resolver text = some (name, attributes, rest)) : rest.length < text.length := by
  rw [tagAt?] at found
  split at found
  · obtain ⟨later, ended, equal⟩ := Option.map_eq_some_iff.mp found
    cases equal
    exact (length_of_attributesAt? ended).trans_le (List.dropWhile_suffix _).length_le
  · cases found

theorem length_of_tokenAt? {resolver : Resolver} {token : Token}
    (found : tokenAt? resolver text = some (token, rest)) : rest.length < text.length := by
  unfold tokenAt? at found
  split at found
  · cases found
  · obtain ⟨later, ended, equal⟩ := Option.map_eq_some_iff.mp found
    cases equal
    exact (length_of_tagAt? ended).trans (Nat.lt_add_of_pos_right Nat.two_pos)
  · split at found
    · obtain ⟨later, ended, equal⟩ := Option.map_eq_some_iff.mp found
      cases equal
      exact (length_of_tagAt? ended).trans (Nat.lt_succ_self _)
    · split at found
      · cases found
      · cases found
        exact Nat.lt_succ_self _
  · cases found
    exact Nat.lt_succ_self _

/-- The tokens of a text. -/
def tokens? (resolver : Resolver) : Text → Option (List Token)
  | [] => some []
  | letter :: later =>
      match _ : tokenAt? resolver (letter :: later) with
      | none => none
      | some (token, rest) => (tokens? resolver rest).map (token :: ·)
termination_by text => text.length
decreasing_by exact length_of_tokenAt? ‹_›

variable {resolver : Resolver}

theorem tokens?_eq_cons_iff {token : Token} {others : List Token} :
    tokens? resolver text = some (token :: others) ↔
      ∃ rest, tokenAt? resolver text = some (token, rest) ∧
        tokens? resolver rest = some others := by
  fun_cases tokens? resolver text with
  | case1 => simp [tokenAt?]
  | case2 _ _ missing => simp [missing]
  | case3 _ _ first rest found =>
      rw [found, Option.map_eq_some_iff]
      grind

/-- What a text is made of: letters, and elements with what is between their tags. -/
inductive Node where
  | text (content : Text)
  | element (name : Text) (attributes : Table Text) (children : List Node)

/-- Elements that hold nothing and have no closing tag. -/
def voidNames : List Text :=
  ["area", "base", "br", "col", "embed", "hr", "img", "input", "link", "meta", "source", "track",
    "wbr"]

def isVoid (name : Text) : Bool :=
  voidNames.contains name

/-- The tokens of a node from its opening tag to its closing tag. -/
def Node.tokens : Node → List Token
  | .text content => content.map .letter
  | .element name attributes children =>
      .opening name attributes ::
        (if isVoid name then [] else children.flatMap tokens ++ [.closing name])

/-- An element whose closing tag is still to come, and the nodes before it, the latest first. -/
structure Opened where
  name : Text
  attributes : Table Text
  before : List Node
  lasting : isVoid name = false

/-- Elements that are open, the innermost first, and the nodes in that so far, the latest first. -/
structure Outline where
  opened : List Opened
  nodes : List Node

/-- A letter goes on with the text before it. -/
def withLetter (letter : Letter) : List Node → List Node
  | .text content :: before => .text (content ++ [letter]) :: before
  | before => .text [letter] :: before

/-- A closing tag closes the innermost element. -/
def Outline.step : Outline → Token → Option Outline
  | ⟨opened, nodes⟩, .letter letter => some ⟨opened, withLetter letter nodes⟩
  | ⟨opened, nodes⟩, .opening name attributes =>
      if void : isVoid name then some ⟨opened, .element name attributes [] :: nodes⟩
      else some ⟨⟨name, attributes, nodes, by simpa using void⟩ :: opened, []⟩
  | ⟨[], _⟩, .closing _ => none
  | ⟨parent :: opened, nodes⟩, .closing name =>
      if name = parent.name then
        some ⟨opened, .element name parent.attributes nodes.reverse :: parent.before⟩
      else none

/-- The nodes that tokens make up, if every element is closed before the one around it. -/
def nodes? (tokens : List Token) : Option (List Node) :=
  match tokens.foldlM Outline.step ⟨[], []⟩ with
  | some ⟨[], nodes⟩ => some nodes.reverse
  | _ => none

/-- The nodes of a text. Character references are resolved in the values of attributes only. -/
def read (resolver : Resolver) (text : Text) : Option (List Node) :=
  (tokens? resolver text).bind nodes?

/-- The tokens that an outline comes from. -/
def Outline.tokens (outline : Outline) : List Token :=
  (outline.opened.reverse.flatMap fun parent =>
    parent.before.reverse.flatMap Node.tokens ++ [.opening parent.name parent.attributes]) ++
    outline.nodes.reverse.flatMap Node.tokens

theorem flatMap_tokens_withLetter (letter : Letter) (nodes : List Node) :
    (withLetter letter nodes).reverse.flatMap Node.tokens =
      nodes.reverse.flatMap Node.tokens ++ [.letter letter] := by
  unfold withLetter
  split <;> simp [Node.tokens]

/-- A step adds its token at the end and loses none. -/
theorem Outline.tokens_of_step {outline next : Outline} {token : Token}
    (stepped : outline.step token = some next) : next.tokens = outline.tokens ++ [token] := by
  unfold step at stepped
  split at stepped
  · cases stepped
    simp [tokens, flatMap_tokens_withLetter]
  · split at stepped
    · next void =>
        cases stepped
        simp [tokens, Node.tokens, void]
    · cases stepped
      simp [tokens]
  · cases stepped
  · next parent opened nodes name =>
      split at stepped
      · next same =>
          cases stepped
          simp [tokens, Node.tokens, same, parent.lasting]
      · cases stepped

theorem Outline.tokens_of_steps {outline last : Outline} {tokens : List Token}
    (ran : tokens.foldlM step outline = some last) : last.tokens = outline.tokens ++ tokens := by
  induction tokens generalizing outline with
  | nil =>
      cases ran
      rw [List.append_nil]
  | cons token others inductionHypothesis =>
      rw [List.foldlM_cons] at ran
      obtain ⟨next, stepped, later⟩ := Option.bind_eq_some_iff.mp ran
      rw [inductionHypothesis later, tokens_of_step stepped, List.append_assoc,
        List.singleton_append]

/-- The nodes that are read have the tokens that they were read from. -/
theorem flatMap_tokens_of_nodes? {tokens : List Token} {nodes : List Node}
    (read : nodes? tokens = some nodes) : nodes.flatMap Node.tokens = tokens := by
  rw [nodes?] at read
  split at read
  · next last ran =>
      cases read
      simpa [Outline.tokens] using Outline.tokens_of_steps ran
  · cases read

/-- A text reads as nodes that can be read exactly if its tokens are those of the nodes. -/
theorem read_eq_some_iff {nodes : List Node}
    (readable : nodes? (nodes.flatMap Node.tokens) = some nodes) :
    read resolver text = some nodes ↔ tokens? resolver text = some (nodes.flatMap Node.tokens) := by
  rw [read, Option.bind_eq_some_iff]
  constructor
  · rintro ⟨tokens, found, built⟩
    rw [found, flatMap_tokens_of_nodes? built]
  · intro found
    exact ⟨_, found, readable⟩

end Flourish.Html
