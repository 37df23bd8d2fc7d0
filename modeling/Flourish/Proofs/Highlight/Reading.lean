/-
This file shows that the rules of a highlighter are what is read. Main statement: in either mode the
first rule that matches makes the lexemes that are read there and leads to the mode after them, and
only at the end of plain text does no rule match.
-/

import Flourish.Proofs.Highlight.Match

namespace Flourish.Lexeme

open Pattern (Way)

/-- Pieces without letters spell nothing. -/
theorem spelled_reading (mode : Mode) (pieces : List (LexemeKind × Text)) :
    spelled (reading mode pieces).lexemes = pieces.flatMap Prod.snd := by
  induction pieces with
  | nil => rfl
  | cons piece others inductionHypothesis =>
      obtain ⟨kind, letters⟩ := piece
      rw [List.flatMap_cons, ← inductionHypothesis]
      cases letters <;> rfl

namespace Emission

variable {taken one two three four : Text} {first second third fourth : LexemeKind} {mode : Mode}

theorem lexemes_two : (byGroups [first, second]).lexemes ⟨taken, [(2, two), (1, one)]⟩ =
    (reading mode [(first, one), (second, two)]).lexemes := by
  cases one <;> cases two <;> rfl

theorem lexemes_three :
    (byGroups [first, second, third]).lexemes ⟨taken, [(3, three), (2, two), (1, one)]⟩ =
      (reading mode [(first, one), (second, two), (third, three)]).lexemes := by
  cases one <;> cases two <;> cases three <;> rfl

theorem lexemes_four :
    (byGroups [first, second, third, fourth]).lexemes
        ⟨taken, [(4, four), (3, three), (2, two), (1, one)]⟩ =
      (reading mode [(first, one), (second, two), (third, three), (fourth, four)]).lexemes := by
  cases one <;> cases two <;> cases three <;> cases four <;> rfl

theorem lexemes_whole (some_ : taken ≠ []) (groups : List (Nat × Text)) :
    (whole first).lexemes ⟨taken, groups⟩ = (reading mode [(first, taken)]).lexemes := by
  cases taken with
  | nil => exact absurd rfl some_
  | cons => rfl

end Emission

section Read

variable {text : Text}

theorem fence_ne_nil {code : Text} (found : fence? text = some code) : code ≠ [] := by
  unfold fence? at found
  split at found
  · cases found
  · simp only at found
    split at found
    · cases found
    · obtain ⟨rest, _, rfl⟩ := Option.map_eq_some_iff.mp found
      simp

theorem inlineCode_ne_nil {code : Text} (found : inlineCode? text = some code) : code ≠ [] := by
  unfold inlineCode? at found
  split at found
  · simp only at found
    split at found <;> cases found
    simp
  · cases found

theorem closer_mode {found : Reading} (closer : closer? text = some found) :
    found.mode = .root := by
  obtain ⟨name, _, rfl⟩ := Option.map_eq_some_iff.mp closer
  rfl

theorem headStart_mode {found : Reading} (head : headStart? text = some found) :
    found.mode = .head := by
  unfold headStart? at head
  split at head
  · simp only at head
    split at head
    · cases head
    · split at head <;> cases head <;> rfl
  · cases head

/-- What is read in a head behind a divider: a key with its value, or an argument. -/
theorem readHead_segment : readHead (.of ':' :: text) =
    let key := text.takeWhile Tag.isNameLetter
    let value := ((text.drop key.length).drop 1).takeWhile fun letter => !Tag.endsValue letter
    let literal := text.takeWhile fun letter => !Tag.endsValue letter && letter ≠ '='
    if key ≠ [] ∧ [.of '='] <+: text.drop key.length then
      reading .head [(.punctuation, ":"), (.parameterName, key), (.punctuation, "="),
        (.parameterValue, value)]
    else if literal ≠ [] then reading .head [(.punctuation, ":"), (.argument, literal)]
    else ⟨[], .root⟩ := by
  simp only [readHead]
  generalize text.takeWhile Tag.isNameLetter = key
  split
  · next first others after behind =>
      rw [if_pos ⟨List.cons_ne_nil _ _, after, behind.symm⟩, behind]
      rfl
  · next key _ _ other =>
      have keyless : ¬ (key ≠ [] ∧ [.of '='] <+: text.drop key.length) := by
        rintro ⟨filled, after, behind⟩
        obtain ⟨first, others, rfl⟩ := List.exists_cons_of_ne_nil filled
        exact other first others after rfl behind.symm
      rw [if_neg keyless]
      generalize text.takeWhile _ = literal
      cases literal <;> rfl

end Read

/-- The stack of a mode: a head is always read within plain text. -/
def Mode.stack : Mode → List Mode
  | .root => [.root]
  | .head => [.head, .root]

namespace Highlighter

/-- The highlighter behind lexemes that spell the front of its text. -/
def past (highlighter : Highlighter) (stack : List Mode) (lexemes : List Lexeme) : Highlighter :=
  ⟨stack, (spelled lexemes).getLast?.or highlighter.before,
    highlighter.rest.drop (spelled lexemes).length⟩

variable {highlighter : Highlighter} {stack : List Mode} {before : Option Letter} {text : Text}

/-- What a match leads to if it is made into pieces that spell what it took. -/
theorem after_pieces {rule : Rule} {way : Way} (mode : Mode) (pieces : List (LexemeKind × Text))
    (emitted : rule.emission.lexemes way = (reading mode pieces).lexemes)
    (written : way.taken = pieces.flatMap Prod.snd) :
    highlighter.after rule way = ((reading mode pieces).lexemes,
      highlighter.past (rule.turn.apply highlighter.stack) (reading mode pieces).lexemes) := by
  rw [after, past, emitted, spelled_reading, written]

/-- The steps of the rules for closers. -/
theorem stepBy_closer :
    (highlighter.stepBy? Rule.spaceCloser).or (highlighter.stepBy? Rule.nameCloser) =
      (closer? highlighter.rest).map fun found =>
        (found.lexemes, highlighter.past highlighter.stack found.lexemes) := by
  simp only [stepBy?, Rule.search_spaceCloser, Rule.search_nameCloser, closer?]
  cases Closer.nameAt? highlighter.rest with
  | none => rfl
  | some name =>
      have written (kind : LexemeKind) : closerForm name =
          ([(.punctuation, "\x7b\x7b/"), (kind, name), (.punctuation, "\x7d\x7d")] :
            List (LexemeKind × Text)).flatMap Prod.snd := by
        simp [closerForm]
      by_cases reserved : (TagKind.reserved? name).isSome
      · simp only [Option.filter_some, reserved, if_true, Option.map_some, Option.some_or]
        exact congrArg some (after_pieces .root _ Emission.lexemes_three (written .space))
      · simp only [Option.filter_some, reserved, Bool.false_eq_true, if_false, Option.map_some,
          Option.map_none, Option.none_or]
        exact congrArg some (after_pieces .root _ Emission.lexemes_three (written .tagName))

/-- The steps of the rules for the front of a head. -/
theorem stepBy_head :
    (highlighter.stepBy? Rule.spaceHead).or (highlighter.stepBy? Rule.bareHead) =
      (headStart? highlighter.rest).map fun found =>
        (found.lexemes, highlighter.past (.head :: highlighter.stack) found.lexemes) := by
  obtain ⟨stack, before, text⟩ := highlighter
  by_cases front : [.of '{', .of '{'] <+: text
  · obtain ⟨rest, rfl⟩ := front
    simp only [List.cons_append, List.nil_append, stepBy?, Rule.search_spaceHead,
      Rule.search_bareHead, headStart?]
    have wordless : (Tag.readSpace? rest).isSome → rest.takeWhile Tag.isNameLetter ≠ [] := by
      rw [Rule.isSome_readSpace_iff]
      rintro ⟨reserved, _⟩ empty
      rw [empty] at reserved
      cases reserved
    generalize ((rest.drop (rest.takeWhile Tag.isNameLetter).length).drop 1).takeWhile
      Tag.isNameLetter = name
    generalize (Tag.readSpace? rest).isSome = isSpace at wordless
    generalize rest.takeWhile Tag.isNameLetter = word at wordless
    by_cases spaced : isSpace = true ∧ name ≠ []
    · have filled : ¬ word.isEmpty = true := by simpa using wordless spaced.1
      have both : (isSpace && !name.isEmpty) = true := by simpa using spaced
      rw [if_pos spaced, if_neg filled, if_pos both, Option.some_or, Option.map_some]
      exact congrArg some (after_pieces .head _ Emission.lexemes_four (by simp))
    · have notBoth : ¬ (isSpace && !name.isEmpty) = true := by simpa using spaced
      rw [if_neg spaced, if_neg notBoth, Option.none_or]
      by_cases empty : word = []
      · simp [empty]
      · have filled : ¬ word.isEmpty = true := by simpa using empty
        rw [if_pos empty, if_neg filled, Option.map_some]
        exact congrArg some (after_pieces .head _ Emission.lexemes_two (by simp))
  · have nothing : headStart? text = none := by
      unfold headStart?
      split
      · next rest => exact absurd ⟨rest, rfl⟩ front
      · rfl
    simp only [stepBy?, Rule.spaceHead, Rule.bareHead, Pattern.all, Pattern.search_next,
      Pattern.search_group, Pattern.search_word, if_neg front, nothing]
    rfl

/-- What a rule leads to that makes one lexeme of a match. -/
theorem after_whole {rule : Rule} {kind : LexemeKind} {taken : Text}
    (emission : rule.emission = .whole kind) (some_ : taken ≠ []) (mode : Mode)
    (groups : List (Nat × Text)) :
    highlighter.after rule ⟨taken, groups⟩ = ((reading mode [(kind, taken)]).lexemes,
      highlighter.past (rule.turn.apply highlighter.stack)
        (reading mode [(kind, taken)]).lexemes) := by
  apply after_pieces
  · rw [emission]
    exact Emission.lexemes_whole some_ groups
  · simp

theorem stepBy_fence : highlighter.stepBy? Rule.fence =
    (if Pattern.isLineBorder highlighter.before then fence? highlighter.rest else none).map
      fun code => ((reading .root [(.code, code)]).lexemes,
        highlighter.past highlighter.stack (reading .root [(.code, code)]).lexemes) := by
  refine (Rule.search_fence fun code => highlighter.after Rule.fence ⟨code, []⟩).trans ?_
  apply Option.map_congr
  intro code found
  split at found
  · exact after_whole rfl (fence_ne_nil found) .root []
  · cases found

theorem stepBy_inlineCode : highlighter.stepBy? Rule.inlineCode =
    (inlineCode? highlighter.rest).map
      fun code => ((reading .root [(.code, code)]).lexemes,
        highlighter.past highlighter.stack (reading .root [(.code, code)]).lexemes) := by
  refine (Rule.search_inlineCode fun code => highlighter.after Rule.inlineCode ⟨code, []⟩).trans ?_
  apply Option.map_congr
  intro code found
  exact after_whole rfl (inlineCode_ne_nil found) .root []

/-- The steps of the rules for plain text, of which one always matches. -/
theorem stepBy_plain (some_ : highlighter.rest ≠ []) :
    (highlighter.stepBy? Rule.plainRun).or (highlighter.stepBy? Rule.plainLetter) =
      some ((plain highlighter.rest).lexemes,
        highlighter.past highlighter.stack (plain highlighter.rest).lexemes) := by
  have run : highlighter.stepBy? Rule.plainRun =
      if highlighter.rest.takeWhile isPlain = [] then none
      else some (highlighter.after Rule.plainRun ⟨highlighter.rest.takeWhile isPlain, []⟩) :=
    Rule.search_plainRun fun taken => highlighter.after Rule.plainRun ⟨taken, []⟩
  obtain ⟨letter, others, filled⟩ := List.exists_cons_of_ne_nil some_
  have single : highlighter.stepBy? Rule.plainLetter =
      some (highlighter.after Rule.plainLetter ⟨[letter], []⟩) := by
    simp only [stepBy?, Rule.plainLetter, Pattern.search, filled, if_true]
  rw [run, single, plain]
  by_cases empty : highlighter.rest.takeWhile isPlain = []
  · simp only [empty, if_true, Option.none_or, List.isEmpty_nil, Option.some.injEq]
    rw [filled]
    exact after_whole rfl (List.cons_ne_nil _ _) .root []
  · have kept : ¬ (highlighter.rest.takeWhile isPlain).isEmpty := by simpa using empty
    simp only [empty, if_false, Option.some_or, kept, Option.some.injEq]
    exact after_whole rfl empty .root []

theorem findSome?_cons_or {Item Result : Type} (item : Item) (items : List Item)
    (test : Item → Option Result) :
    (item :: items).findSome? test = (test item).or (items.findSome? test) := by
  rw [List.findSome?_cons]
  cases test item <;> rfl

/-- The rules of plain text one behind the other. -/
theorem step_rootRules : (⟨Mode.root.stack, before, text⟩ : Highlighter).step? =
    let here : Highlighter := ⟨Mode.root.stack, before, text⟩
    (here.stepBy? Rule.fence).or ((here.stepBy? Rule.inlineCode).or
      (((here.stepBy? Rule.spaceCloser).or (here.stepBy? Rule.nameCloser)).or
        (((here.stepBy? Rule.spaceHead).or (here.stepBy? Rule.bareHead)).or
          (((here.stepBy? Rule.plainRun).or (here.stepBy? Rule.plainLetter)).or
            (here.stepBy? Rule.newline))))) := by
  simp only [step?, Mode.stack, Rule.of, findSome?_cons_or, List.findSome?_nil, Option.or_none,
    Option.or_assoc]

/-- In plain text the first rule that matches makes what is read. -/
theorem step_root (some_ : text ≠ []) :
    let found := readRoot (Pattern.isLineBorder before) text
    (⟨Mode.root.stack, before, text⟩ : Highlighter).step? =
      some (found.lexemes,
        (⟨Mode.root.stack, before, text⟩ : Highlighter).past found.mode.stack found.lexemes) := by
  have plainly := @stepBy_plain ⟨Mode.root.stack, before, text⟩ some_
  rw [step_rootRules]
  simp only [stepBy_fence, stepBy_inlineCode, stepBy_closer, stepBy_head, plainly, readRoot]
  cases if Pattern.isLineBorder before then fence? text else none with
  | some code => rfl
  | none =>
      cases inlineCode? text with
      | some code => rfl
      | none =>
          cases closer : closer? text with
          | some found =>
              simp only [Option.map_none, Option.none_or, Option.map_some, Option.some_or,
                Option.getD_some, closer_mode closer]
          | none =>
              cases head : headStart? text with
              | some found =>
                  simp only [Option.map_none, Option.none_or, Option.map_some, Option.some_or,
                    Option.getD_none, Option.getD_some, headStart_mode head]
                  rfl
              | none => rfl

/-- At the end of plain text no rule matches. -/
theorem step_end : (⟨Mode.root.stack, before, []⟩ : Highlighter).step? = none := by
  have fence : (if Pattern.isLineBorder before then fence? [] else none) = none := by
    rw [show fence? [] = none from rfl, ite_self]
  rw [step_rootRules]
  simp only [stepBy_fence, fence, stepBy_inlineCode, stepBy_closer, stepBy_head]
  rfl

theorem stepBy_ending (letters : Text) : highlighter.stepBy? (Rule.ending letters) =
    if letters <+: highlighter.rest then
      some (highlighter.after (Rule.ending letters) ⟨letters, []⟩)
    else none := by
  simp only [stepBy?, Rule.ending, Pattern.search_word]

theorem stepBy_giveUp : highlighter.stepBy? Rule.giveUp =
    some ([], highlighter.past highlighter.stack.tail []) := by
  simp only [stepBy?, Rule.giveUp, Pattern.search_word, List.nil_prefix, if_true]
  rfl

/-- In a head the first rule that matches makes what is read. -/
theorem step_head :
    let found := readHead text
    let here : Highlighter := ⟨Mode.head.stack, before, text⟩
    here.step? = some (found.lexemes, here.past found.mode.stack found.lexemes) := by
  simp only [step?, Mode.stack, Rule.of, findSome?_cons_or, List.findSome?_nil, Option.or_none,
    stepBy_ending, stepBy_giveUp]
  cases text with
  | nil => rfl
  | cons letter rest =>
      by_cases slash : [.of '/', .of '}', .of '}'] <+: letter :: rest
      · obtain ⟨others, split⟩ := slash
        rw [if_pos ⟨others, split⟩, ← split]
        exact congrArg some (after_whole rfl (List.cons_ne_nil _ _) .root [])
      · by_cases braces : [.of '}', .of '}'] <+: letter :: rest
        · obtain ⟨others, split⟩ := braces
          rw [if_neg slash, if_pos ⟨others, split⟩, ← split]
          exact congrArg some (after_whole rfl (List.cons_ne_nil _ _) .root [])
        · rw [if_neg slash, if_neg braces]
          by_cases divider : letter = ':'
          · subst divider
            simp only [stepBy?, Rule.search_parameter, Rule.search_argument, readHead_segment]
            split
            · exact congrArg some (after_pieces .head _ Emission.lexemes_four (by simp))
            · split
              · exact congrArg some (after_pieces .head _ Emission.lexemes_two (by simp))
              · rfl
          · have undivided : readHead (letter :: rest) = ⟨[], .root⟩ := by
              unfold readHead
              split
              · next others split => exact absurd ⟨others, split.symm⟩ slash
              · next others split => exact absurd ⟨others, split.symm⟩ braces
              · next split => exact absurd (List.cons.inj split).1 divider
              · rfl
            have elsewhere : ¬ [.of ':'] <+: letter :: rest :=
              Pattern.not_isPrefix_cons (Ne.symm divider)
            simp only [stepBy?, Rule.parameter, Rule.argument, Pattern.all, Pattern.search_next,
              Pattern.search_group, Pattern.search_word, if_neg elsewhere, undivided]
            rfl

/-- Except at the end of plain text, the first rule that matches makes what is read. -/
theorem step_read {mode : Mode} (ahead : mode = .root → text ≠ []) :
    let found := read mode (Pattern.isLineBorder before) text
    let here : Highlighter := ⟨mode.stack, before, text⟩
    here.step? = some (found.lexemes, here.past found.mode.stack found.lexemes) := by
  cases mode with
  | root => exact step_root (ahead rfl)
  | head => exact step_head

end Highlighter
end Flourish.Lexeme
