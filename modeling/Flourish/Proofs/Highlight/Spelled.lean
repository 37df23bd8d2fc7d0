/-
This file shows that highlighting loses no letter. Main statement: in every state some rule matches
until the text is cut up, each run comes to the same end in plain text, and the lexemes spell the
text.
-/

import Flourish.Proofs.Highlight.Reading

namespace Flourish.Lexeme

variable {text : Text} {mode : Mode}

@[simp] theorem spelled_append (first second : List Lexeme) :
    spelled (first ++ second) = spelled first ++ spelled second :=
  List.flatMap_append

theorem untilNewline_isPrefix (text : Text) : untilNewline text <+: text :=
  List.takeWhile_prefix _

theorem fenceRest_isPrefix {marker body rest : Text} (found : fenceRest? marker body = some rest) :
    rest <+: body := by
  unfold fenceRest? at found
  split at found
  · next index _ =>
      cases found
      obtain ⟨others, split⟩ := untilNewline_isPrefix (body.drop (index + 1))
      refine ⟨others, ?_⟩
      rw [List.append_assoc, split, List.take_append_drop]
  · split at found
    · cases found
      exact untilNewline_isPrefix body
    · cases found

theorem fence_isPrefix {code : Text} (found : fence? text = some code) : code <+: text := by
  unfold fence? at found
  split at found
  · cases found
  · simp only at found
    split at found
    · cases found
    · next newline body behind =>
        obtain ⟨rest, read, rfl⟩ := Option.map_eq_some_iff.mp found
        obtain ⟨others, rfl⟩ := fenceRest_isPrefix read
        have split := Text.run_append_drop (· ≠ .of '\n') text
        refine ⟨others, ?_⟩
        rw [List.append_assoc, List.cons_append, ← behind]
        exact split

theorem inlineCode_isPrefix {code : Text} (found : inlineCode? text = some code) :
    code <+: text := by
  unfold inlineCode? at found
  split at found
  · next rest =>
      simp only at found
      split at found
      · next others behind =>
          cases found
          have split := Text.run_append_drop (fun letter => letter ≠ '\x60' && letter ≠ '\n') rest
          rw [behind] at split
          exact ⟨others, by rw [List.append_assoc, List.cons_append]; exact congrArg _ split⟩
      · cases found
  · cases found

theorem closer_isPrefix {found : Reading} (closer : closer? text = some found) :
    spelled found.lexemes <+: text := by
  obtain ⟨name, read, rfl⟩ := Option.map_eq_some_iff.mp closer
  rw [spelled_reading]
  simpa [closerForm] using (Closer.nameAt_written read).1

/-- A run is followed by what is left, so a front of what is left makes the front longer. -/
theorem run_append_isPrefix {test : Letter → Bool} {front : Text}
    (behind : front <+: text.drop (text.takeWhile test).length) :
    text.takeWhile test ++ front <+: text := by
  conv => right; rw [← Text.run_append_drop test text]
  exact (List.prefix_append_right_inj _).mpr behind

/-- The start of a head is read as it stands, with a namespace and without one. -/
theorem headStart_isPrefix {found : Reading} (head : headStart? text = some found) :
    spelled found.lexemes <+: text := by
  unfold headStart? at head
  split at head
  · next rest =>
      simp only at head
      split at head
      · cases head
      · split at head
        · next both =>
            cases head
            obtain ⟨spaced, _⟩ := Bool.and_eq_true_iff.mp both
            obtain ⟨_, others, behind⟩ := Rule.isSome_readSpace_iff.mp spaced
            have front : rest.takeWhile Tag.isNameLetter ++
                .of ':' :: others.takeWhile Tag.isNameLetter <+: rest := by
              apply run_append_isPrefix
              rw [← behind]
              exact (List.prefix_append_right_inj [Letter.of ':']).mpr (List.takeWhile_prefix _)
            rw [spelled_reading, ← behind]
            simpa using front
        · cases head
          rw [spelled_reading]
          simpa using List.takeWhile_prefix _
  · cases head

theorem plain_isPrefix (text : Text) : spelled (plain text).lexemes <+: text := by
  rw [plain, spelled_reading, List.flatMap_singleton]
  split
  · exact List.take_prefix _ _
  · exact List.takeWhile_prefix _

/-- What is read in plain text is code, a closer, the start of a head, or ordinary text. -/
theorem readRoot_cases {motive : Reading → Prop} (atLineStart : Bool)
    (fenced : ∀ code, fence? text = some code → motive (reading .root [(.code, code)]))
    (inline : ∀ code, inlineCode? text = some code → motive (reading .root [(.code, code)]))
    (closer : ∀ found, closer? text = some found → motive found)
    (head : ∀ found, headStart? text = some found → motive found) (other : motive (plain text)) :
    motive (readRoot atLineStart text) := by
  unfold readRoot
  split
  · next code found =>
      split at found
      · exact fenced code found
      · cases found
  · split
    · next code found => exact inline code found
    · cases closed : closer? text with
      | some found => exact closer found closed
      | none =>
          cases started : headStart? text with
          | some found => exact head found started
          | none => exact other

theorem spelled_code (code : Text) : spelled (reading .root [(.code, code)]).lexemes = code := by
  rw [spelled_reading, List.flatMap_singleton]

theorem readRoot_isPrefix (atLineStart : Bool) (text : Text) :
    spelled (readRoot atLineStart text).lexemes <+: text := by
  apply readRoot_cases atLineStart (motive := fun found => spelled found.lexemes <+: text)
  · intro code found
    rw [spelled_code]
    exact fence_isPrefix found
  · intro code found
    rw [spelled_code]
    exact inlineCode_isPrefix found
  · exact fun found => closer_isPrefix
  · exact fun found => headStart_isPrefix
  · exact plain_isPrefix text

theorem segment_isPrefix (text : Text) :
    spelled (readHead (.of ':' :: text)).lexemes <+: .of ':' :: text := by
  rw [readHead_segment]
  simp only
  split
  · next isParameter =>
      obtain ⟨_, others, behind⟩ := isParameter
      have front : text.takeWhile Tag.isNameLetter ++
          .of '=' :: others.takeWhile (fun letter => !Tag.endsValue letter) <+: text := by
        apply run_append_isPrefix
        rw [← behind]
        exact (List.prefix_append_right_inj [Letter.of '=']).mpr (List.takeWhile_prefix _)
      rw [spelled_reading, ← behind]
      simpa using front
  · split
    · rw [spelled_reading]
      simpa using List.takeWhile_prefix _
    · exact List.nil_prefix

theorem readHead_isPrefix (text : Text) : spelled (readHead text).lexemes <+: text := by
  cases text with
  | nil => exact List.nil_prefix
  | cons letter rest =>
      by_cases divider : letter = ':'
      · subst divider
        exact segment_isPrefix rest
      · unfold readHead
        split
        · next others split => exact ⟨others, split.symm⟩
        · next others split => exact ⟨others, split.symm⟩
        · next split => exact absurd (List.cons.inj split).1 divider
        · exact List.nil_prefix

/-- What is read stands at the front of the text. -/
theorem read_isPrefix (mode : Mode) (atLineStart : Bool) (text : Text) :
    spelled (read mode atLineStart text).lexemes <+: text := by
  cases mode with
  | root => exact readRoot_isPrefix atLineStart text
  | head => exact readHead_isPrefix text

theorem headStart_ne_nil {found : Reading} (head : headStart? text = some found) :
    spelled found.lexemes ≠ [] := by
  unfold headStart? at head
  split at head
  · simp only at head
    split at head
    · cases head
    · split at head <;> cases head <;> rw [spelled_reading] <;> simp
  · cases head

theorem plain_ne_nil (some_ : text ≠ []) : spelled (plain text).lexemes ≠ [] := by
  rw [plain, spelled_reading, List.flatMap_singleton]
  split
  · simpa using some_
  · next filled => simpa using filled

theorem closer_ne_nil {found : Reading} (closer : closer? text = some found) :
    spelled found.lexemes ≠ [] := by
  obtain ⟨name, _, rfl⟩ := Option.map_eq_some_iff.mp closer
  rw [spelled_reading]
  simp

theorem readRoot_ne_nil (atLineStart : Bool) (some_ : text ≠ []) :
    spelled (readRoot atLineStart text).lexemes ≠ [] := by
  apply readRoot_cases atLineStart (motive := fun found => spelled found.lexemes ≠ [])
  · intro code found
    rw [spelled_code]
    exact fence_ne_nil found
  · intro code found
    rw [spelled_code]
    exact inlineCode_ne_nil found
  · exact fun found => closer_ne_nil
  · exact fun found => headStart_ne_nil
  · exact plain_ne_nil some_

/-- A head is left without a letter if it goes wrong. Everything else takes letters. -/
theorem readHead_progress (text : Text) :
    spelled (readHead text).lexemes ≠ [] ∨ (readHead text).mode = .root := by
  unfold readHead
  split
  · exact Or.inr rfl
  · exact Or.inr rfl
  · simp only
    split
    · exact Or.inl (by rw [spelled_reading]; simp)
    · split
      · exact Or.inr rfl
      · exact Or.inl (by rw [spelled_reading]; simp)
  · exact Or.inr rfl

/-- Except at the end of plain text, letters are taken or a head is left. -/
theorem read_progress (atLineStart : Bool) (ahead : mode = .root → text ≠ []) :
    let found := read mode atLineStart text
    (0 < (spelled found.lexemes).length ∧ text ≠ []) ∨ found.mode.rank < mode.rank := by
  have filled (taken : spelled (read mode atLineStart text).lexemes ≠ []) : text ≠ [] := by
    rintro rfl
    exact taken (List.prefix_nil.mp (read_isPrefix mode atLineStart []))
  cases mode with
  | root =>
      have taken := readRoot_ne_nil atLineStart (ahead rfl)
      exact Or.inl ⟨List.length_pos_iff.mpr taken, filled taken⟩
  | head =>
      rcases readHead_progress text with taken | left
      · exact Or.inl ⟨List.length_pos_iff.mpr taken, filled taken⟩
      · exact Or.inr (by simp [read, left, Mode.rank])

namespace Highlighter

variable {before : Option Letter} {first last here : Highlighter} {lexemes others : List Lexeme}

/-- The border behind lexemes is that of their last letter, or the old one if they have none. -/
theorem isLineBorder_past (here : Highlighter) (stack : List Mode) (lexemes : List Lexeme) :
    Pattern.isLineBorder (here.past stack lexemes).before =
      ((spelled lexemes).getLast?.map (· == .of '\n')).getD (Pattern.isLineBorder here.before) := by
  rw [past]
  cases (spelled lexemes).getLast? <;> rfl

/-- From each state of a mode on, the run of the highlighter makes the lexemes that are read and
ends in plain text. -/
theorem runs_readAll (mode : Mode) (before : Option Letter) (text : Text) :
    ∃ letter, Runs ⟨mode.stack, before, text⟩ (readAll mode (Pattern.isLineBorder before) text)
      ⟨[.root], letter, []⟩ := by
  generalize border : Pattern.isLineBorder before = atLineStart
  fun_induction readAll mode atLineStart text generalizing before with
  | case1 mode atLineStart text found size progress atNewLine inductionHypothesis =>
      subst border
      have ahead : mode = .root → text ≠ [] := by
        rintro rfl rfl
        simp [Mode.rank] at progress
      let here : Highlighter := ⟨mode.stack, before, text⟩
      obtain ⟨letter, later⟩ :=
        inductionHypothesis _ (isLineBorder_past here found.mode.stack found.lexemes)
      exact ⟨letter, .step (step_read ahead) later⟩
  | case2 mode atLineStart text found size stuck =>
      have atEnd : mode = .root ∧ text = [] :=
        Decidable.byContradiction fun ahead =>
          stuck (read_progress atLineStart (not_and.mp ahead))
      obtain ⟨rfl, rfl⟩ := atEnd
      subst border
      have nothing : found.lexemes = [] := by
        show (read .root _ []).lexemes = []
        cases Pattern.isLineBorder before <;> rfl
      rw [nothing]
      exact ⟨before, .done _⟩

/-- A step keeps to the stack of a mode and takes the letters that its lexemes spell. -/
theorem step_kept (stacked : here.stack = mode.stack)
    (stepped : here.step? = some (lexemes, last)) :
    (∃ mode : Mode, last.stack = mode.stack) ∧ spelled lexemes ++ last.rest = here.rest := by
  obtain ⟨stack, before, text⟩ := here
  subst stacked
  have ahead : mode = .root → text ≠ [] := by
    rintro rfl rfl
    rw [step_end] at stepped
    cases stepped
  cases stepped.symm.trans (step_read ahead)
  exact ⟨⟨_, rfl⟩, List.prefix_iff_eq_append.mp (read_isPrefix _ _ _)⟩

/-- A run keeps to the stack of a mode and takes the letters that its lexemes spell. -/
theorem run_kept (run : Runs first lexemes last) (stacked : first.stack = mode.stack) :
    (∃ mode : Mode, last.stack = mode.stack) ∧ spelled lexemes ++ last.rest = first.rest := by
  induction run generalizing mode with
  | done => exact ⟨⟨mode, stacked⟩, rfl⟩
  | step stepped later inductionHypothesis =>
      obtain ⟨⟨next, nextStacked⟩, taken⟩ := step_kept stacked stepped
      obtain ⟨kept, takenLater⟩ := inductionHypothesis nextStacked
      refine ⟨kept, ?_⟩
      rw [spelled_append, List.append_assoc, takenLater, taken]

/-- In the stack of a mode some rule matches as long as letters are left. -/
theorem exists_rule (stacked : here.stack = mode.stack) (some_ : here.rest ≠ []) :
    ∃ rule ∈ Rule.of mode, (here.stepBy? rule).isSome := by
  obtain ⟨stack, before, text⟩ := here
  subst stacked
  have stepped : (⟨mode.stack, before, text⟩ : Highlighter).step? = _ :=
    step_read fun _ => some_
  have matched : ((Rule.of mode).findSome?
      (⟨mode.stack, before, text⟩ : Highlighter).stepBy?).isSome := by
    cases mode <;> exact Option.isSome_of_eq_some stepped
  simpa [List.findSome?_isSome_iff] using matched

/-- Each run can be continued to the end of a run that has ended. -/
theorem run_continues (run : Runs first lexemes here) (ended : Runs first others last)
    (atEnd : last.step? = none) :
    ∃ later, Runs here later last ∧ lexemes ++ later = others := by
  induction run generalizing others with
  | done => exact ⟨others, ended, rfl⟩
  | step stepped _ inductionHypothesis =>
      cases ended with
      | done =>
          rw [atEnd] at stepped
          cases stepped
      | step alsoStepped ended =>
          rw [stepped] at alsoStepped
          cases alsoStepped
          obtain ⟨later, run, rfl⟩ := inductionHypothesis ended
          exact ⟨later, run, List.append_assoc _ _ _⟩

end Highlighter

/-- The lexemes of a text are those of a run that cuts up the text. -/
theorem runs_ofText (text : Text) : ∃ letter, Highlighter.Runs
    (.ofText (normalized text)) (ofText text) ⟨Mode.root.stack, letter, []⟩ :=
  Highlighter.runs_readAll .root none (normalized text)

theorem stack_ofText (text : Text) : (Highlighter.ofText text).stack = Mode.root.stack :=
  rfl

/-- The lexemes of a text spell it. -/
theorem spelled_ofText (text : Text) : spelled (ofText text) = normalized text := by
  obtain ⟨letter, run⟩ := runs_ofText text
  have taken := (Highlighter.run_kept run (stack_ofText _)).2
  rwa [List.append_nil] at taken

/-- The lexemes of a text are those of a run of the highlighter that cuts up the whole text and ends
in plain text, and each other run leads there. On the way the stack of modes never drops below the
one of plain text, and as long as letters are left some rule of the mode in force matches. So the
lexemes spell the text, of which nothing is lost. -/
theorem ofText_spelled (text : Text) :
    ∃ letter : Option Letter,
      let first := Highlighter.ofText (normalized text)
      let last : Highlighter := ⟨[.root], letter, []⟩
      Highlighter.Runs first (ofText text) last ∧ last.step? = none ∧
      spelled (ofText text) = normalized text ∧
      ∀ lexemes here, Highlighter.Runs first lexemes here →
        (∃ later, Highlighter.Runs here later last ∧ lexemes ++ later = ofText text) ∧
        spelled lexemes ++ here.rest = normalized text ∧
        ∃ mode : Mode, here.stack = mode.stack ∧
          (here.rest ≠ [] → ∃ rule ∈ Rule.of mode, (here.stepBy? rule).isSome) := by
  obtain ⟨letter, run⟩ := runs_ofText text
  refine ⟨letter, run, Highlighter.step_end, spelled_ofText text, ?_⟩
  intro lexemes here reached
  obtain ⟨⟨mode, stacked⟩, taken⟩ := Highlighter.run_kept reached (stack_ofText _)
  exact ⟨Highlighter.run_continues reached run Highlighter.step_end, taken, mode, stacked,
    Highlighter.exists_rule stacked⟩

end Flourish.Lexeme
