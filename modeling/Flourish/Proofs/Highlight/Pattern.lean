/-
This file says what the patterns of a highlighter match. A pattern is tried in all its ways, in the
order of preference, until what follows it accepts one. Main statements: a longest run that nothing
shorter can replace is a maximal run, and a shortest stretch ends at the first place at which what
follows it stands.
-/

import Flourish.Proofs.Text.Search

namespace Flourish

/-- Letters of words, between which and other letters a word has its edges. An edge is only asked
for before a brace, so it does not matter which letters outside of ASCII are among them. -/
def isWordLetter (letter : Letter) : Bool :=
  letter.isAlphanum || letter = '_'

/-- What a pattern is made of. Groups are numbered. -/
inductive Pattern where
  | oneOf (words : List Text)
  | single (admits : Letter → Bool)
  | longest (admits : Letter → Bool)
  | shortest (admits : Letter → Bool)
  | perhaps (inner : Pattern)
  | next (first second : Pattern)
  | group (number : Nat) (inner : Pattern)
  | again (number : Nat)
  | lineStart
  | lineStop
  | wordEdge

namespace Pattern

def word (letters : Text) : Pattern :=
  .oneOf [letters]

/-- One letter at least, and as many as there are. -/
def oneOrMore (admits : Letter → Bool) : Pattern :=
  .next (.single admits) (.longest admits)

/-- Patterns one behind the other. -/
def all : List Pattern → Pattern
  | [] => .word []
  | [pattern] => pattern
  | pattern :: others => .next pattern (all others)

/-- A way in which a pattern matches: the letters it takes, and what the groups hold then, the
latest first. -/
structure Way where
  taken : Text
  groups : List (Nat × Text)
  deriving DecidableEq, Repr

variable {Result : Type}

/-- The fronts of a text of admitted letters are tried, the longest first. -/
def tryLongest (admits : Letter → Bool) : Text → (Text → Option Result) → Option Result
  | [], accept => accept []
  | letter :: rest, accept =>
      if admits letter then
        (tryLongest admits rest fun taken => accept (letter :: taken)).or (accept [])
      else accept []

/-- The fronts of a text of admitted letters are tried, the shortest first. -/
def tryShortest (admits : Letter → Bool) : Text → (Text → Option Result) → Option Result
  | [], accept => accept []
  | letter :: rest, accept =>
      (accept []).or
        (if admits letter then tryShortest admits rest fun taken => accept (letter :: taken)
        else none)

/-- Nothing or a newline is there. -/
def isLineBorder (letter : Option Letter) : Bool :=
  letter.all (· = .of '\n')

/-- The ways in which a pattern matches at the front of a text are tried in order, and the first
that is accepted counts. `before` is the letter before the text. -/
def search : Pattern → Option Letter → Text → List (Nat × Text) → (Way → Option Result) →
    Option Result
  | .oneOf words, _, text, groups, accept =>
      words.findSome? fun word => if word.isPrefixOf text then accept ⟨word, groups⟩ else none
  | .single admits, _, text, groups, accept =>
      match text with
      | [] => none
      | letter :: _ => if admits letter then accept ⟨[letter], groups⟩ else none
  | .longest admits, _, text, groups, accept =>
      tryLongest admits text fun taken => accept ⟨taken, groups⟩
  | .shortest admits, _, text, groups, accept =>
      tryShortest admits text fun taken => accept ⟨taken, groups⟩
  | .perhaps inner, before, text, groups, accept =>
      (inner.search before text groups accept).or (accept ⟨[], groups⟩)
  | .next first second, before, text, groups, accept =>
      first.search before text groups fun way =>
        second.search (way.taken.getLast?.or before) (text.drop way.taken.length) way.groups
          fun later => accept ⟨way.taken ++ later.taken, later.groups⟩
  | .group number inner, before, text, groups, accept =>
      inner.search before text groups fun way =>
        accept ⟨way.taken, (number, way.taken) :: way.groups⟩
  | .again number, _, text, groups, accept =>
      match groups.lookup number with
      | none => none
      | some letters => if letters.isPrefixOf text then accept ⟨letters, groups⟩ else none
  | .lineStart, before, _, groups, accept =>
      if isLineBorder before then accept ⟨[], groups⟩ else none
  | .lineStop, _, text, groups, accept =>
      if isLineBorder text.head? then accept ⟨[], groups⟩ else none
  | .wordEdge, before, text, groups, accept =>
      if before.any isWordLetter ≠ text.head?.any isWordLetter then accept ⟨[], groups⟩ else none

variable {accept : Text → Option Result} {admits : Letter → Bool} {text : Text}

/-- Where no shorter front of a run is accepted, the whole run is tried. -/
theorem tryLongest_run (refused : ∀ taken letter others, text = taken ++ letter :: others →
    admits letter → accept taken = none) :
    tryLongest admits text accept = accept (text.takeWhile admits) := by
  induction text generalizing accept with
  | nil => rfl
  | cons letter rest inductionHypothesis =>
      rw [tryLongest, List.takeWhile_cons]
      split
      · next admitted =>
          rw [refused [] letter rest rfl admitted, Option.or_none]
          apply inductionHypothesis
          intro taken later others split
          exact refused (letter :: taken) later others (by rw [split]; rfl)
      · rfl

/-- A run that is accepted is not shortened. -/
theorem tryLongest_accepted {result : Result}
    (accepted : accept (text.takeWhile admits) = some result) :
    tryLongest admits text accept = some result := by
  induction text generalizing accept with
  | nil => exact accepted
  | cons letter rest inductionHypothesis =>
      rw [List.takeWhile_cons] at accepted
      rw [tryLongest]
      split
      · next admitted =>
          rw [if_pos admitted] at accepted
          rw [inductionHypothesis accepted, Option.some_or]
      · next refused =>
          rwa [if_neg refused] at accepted

/-- A stretch of any letters ends at the first place at which what must follow it stands. -/
theorem tryShortest_found {needle : Text} {found : Text → Result} (nonempty : needle ≠ [])
    (decided : ∀ taken rest, text = taken ++ rest →
      accept taken = if needle <+: rest then some (found taken) else none) :
    tryShortest (fun _ => true) text accept =
      (Text.firstIndex needle text).map fun index => found (text.take index) := by
  induction text generalizing accept found with
  | nil =>
      rw [tryShortest, decided [] [] rfl, if_neg (by simpa using nonempty), Text.firstIndex,
        if_neg (by simpa using nonempty)]
      rfl
  | cons letter rest inductionHypothesis =>
      rw [tryShortest, decided [] (letter :: rest) rfl]
      by_cases here : needle <+: letter :: rest
      · rw [if_pos here, Text.firstIndex_of_isPrefix here]
        rfl
      · rw [if_neg here, Option.none_or, if_pos rfl, Text.firstIndex_cons_of_not_isPrefix here,
          Option.map_map]
        exact inductionHypothesis fun taken others split =>
          decided (letter :: taken) others (by rw [split]; rfl)

/-- Of words none of which begins with another at most one is found. -/
theorem findSome?_words {words : List Text} {result : Text → Option Result}
    (apart : words.Pairwise fun first second => ¬ first <+: second ∧ ¬ second <+: first) :
    (words.findSome? fun word => if word.isPrefixOf text then result word else none) =
      (words.find? fun word => word.isPrefixOf text).bind result := by
  induction words with
  | nil => rfl
  | cons word others inductionHypothesis =>
      obtain ⟨first, later⟩ := List.pairwise_cons.mp apart
      rw [List.findSome?_cons, List.find?_cons]
      by_cases here : word.isPrefixOf text
      · have alone : ∀ other ∈ others, other.isPrefixOf text = false := by
          intro other member
          rw [Bool.eq_false_iff]
          intro there
          rcases List.prefix_or_prefix_of_prefix (List.isPrefixOf_iff_prefix.mp here)
            (List.isPrefixOf_iff_prefix.mp there) with shorter | longer
          · exact (first other member).1 shorter
          · exact (first other member).2 longer
        have nothing : (others.findSome? fun word =>
            if word.isPrefixOf text then result word else none) = none := by
          rw [List.findSome?_eq_none_iff]
          intro other member
          rw [alone other member]
          rfl
        simp only [here, if_true, nothing, Option.bind_some]
        cases result word <;> rfl
      · simp only [here, Bool.false_eq_true, if_false, inductionHypothesis later]

end Pattern
end Flourish
