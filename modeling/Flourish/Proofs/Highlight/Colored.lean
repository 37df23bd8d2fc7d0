/-
This file says what coloring does to a text. Main statement: in a format that only puts escape
sequences of colors in, as that for terminals, a colored text is the text that is cut into lexemes,
without the newline at its end, with escape sequences put in.
-/

import Flourish.Highlight.Terminal
import Flourish.Proofs.Highlight.Normalized
import Flourish.Proofs.Highlight.Spelled

namespace Flourish.Highlight

/-- The codes that are written in escape sequences: those of colors, and those of their end. -/
def IsCode (codes : Text) : Prop :=
  codes = resetCodes ∨ ∃ kind : LexemeKind, kind.colorCode? = some codes

/-- The second text is the first with escape sequences of colors put in. -/
inductive Adds : Text → Text → Prop
  | done : Adds [] []
  | keep (letter : Letter) {plain shown : Text} (rest : Adds plain shown) :
      Adds (letter :: plain) (letter :: shown)
  | insert {codes plain shown : Text} (isCode : IsCode codes) (rest : Adds plain shown) :
      Adds plain (escape codes ++ shown)

namespace Adds

variable {first second firstShown secondShown plain shown : Text}

theorem refl (text : Text) : Adds text text := by
  induction text with
  | nil => exact .done
  | cons letter rest inductionHypothesis => exact .keep letter inductionHypothesis

theorem append (before : Adds first firstShown) (behind : Adds second secondShown) :
    Adds (first ++ second) (firstShown ++ secondShown) := by
  induction before with
  | done => exact behind
  | keep letter _ inductionHypothesis => exact .keep letter inductionHypothesis
  | insert isCode _ inductionHypothesis =>
      rw [List.append_assoc]
      exact .insert isCode inductionHypothesis

theorem flatMap {Item : Type} {spell color : Item → Text} {items : List Item}
    (each : ∀ item ∈ items, Adds (spell item) (color item)) :
    Adds (items.flatMap spell) (items.flatMap color) := by
  induction items with
  | nil => exact .done
  | cons item others inductionHypothesis =>
      obtain ⟨here, later⟩ := List.forall_mem_cons.mp each
      rw [List.flatMap_cons, List.flatMap_cons]
      exact here.append (inductionHypothesis later)

/-- A letter that stands in no escape sequence is put in nowhere. -/
theorem count_eq {letter : Letter} (foreign : ∀ codes, IsCode codes → letter ∉ escape codes)
    (adds : Adds plain shown) : shown.count letter = plain.count letter := by
  induction adds with
  | done => rfl
  | keep other _ inductionHypothesis =>
      rw [List.count_cons, List.count_cons, inductionHypothesis]
  | insert isCode _ inductionHypothesis =>
      rw [List.count_append, List.count_eq_zero.mpr (foreign _ isCode), inductionHypothesis,
        Nat.zero_add]

end Adds

/-- Letters that stand in no escape sequence. -/
theorem not_mem_escape {codes : Text} (isCode : IsCode codes) :
    ∀ letter ∈ [.of '\r', .of '\n', .of '\uFEFF'], letter ∉ escape codes := by
  have foreign : [.of '\r', .of '\n', .of '\uFEFF'].all fun letter =>
      !(escape codes).contains letter := by
    rcases isCode with rfl | ⟨kind, code⟩
    · decide
    · cases kind <;> cases code <;> decide
  simpa using foreign

/-- A line that is colored by itself: it has letters, and no newline but at its end. -/
structure IsLine (line : Text) : Prop where
  filled : line ≠ []
  shape : ∃ front ending, line = front ++ ending ∧ .of '\n' ∉ front ∧
    (ending = [] ∨ ending = [.of '\n'])

theorem isLine_singleton (letter : Letter) : IsLine [letter] := by
  refine ⟨List.cons_ne_nil _ _, ?_⟩
  by_cases newline : letter = '\n'
  · exact ⟨[], [letter], rfl, List.not_mem_nil, Or.inr (by rw [newline])⟩
  · exact ⟨[letter], [], rfl, by simpa using Ne.symm newline, Or.inl rfl⟩

theorem IsLine.cons {letter : Letter} {line : Text} (isLine : IsLine line) (other : letter ≠ '\n') :
    IsLine (letter :: line) := by
  obtain ⟨front, ending, rfl, plain, ends⟩ := isLine.shape
  exact ⟨List.cons_ne_nil _ _, letter :: front, ending, rfl, by simpa using ⟨Ne.symm other, plain⟩,
    ends⟩

variable {text line codes : Text}

/-- A text is cut into its lines. -/
theorem coloredLines_lines (text : Text) :
    (coloredLines text).flatten = text ∧ ∀ line ∈ coloredLines text, IsLine line := by
  induction text with
  | nil => exact ⟨rfl, nofun⟩
  | cons letter rest inductionHypothesis =>
      obtain ⟨whole, isLine⟩ := inductionHypothesis
      rw [coloredLines]
      split
      · refine ⟨congrArg (letter :: ·) whole, ?_⟩
        exact List.forall_mem_cons.mpr ⟨isLine_singleton letter, isLine⟩
      · next inside =>
          split
          · next none_ =>
              rw [none_] at whole
              subst whole
              exact ⟨rfl, List.forall_mem_singleton.mpr (isLine_singleton letter)⟩
          · next line others lines =>
              rw [lines] at whole isLine
              obtain ⟨first, later⟩ := List.forall_mem_cons.mp isLine
              have other : letter ≠ '\n' := by
                rintro rfl
                exact inside rfl
              refine ⟨?_, List.forall_mem_cons.mpr ⟨first.cons other, later⟩⟩
              rw [← whole]
              rfl

/-- A newline is put behind the end of the color. -/
theorem colorLine_append {front ending : Text} (plain : .of '\n' ∉ front)
    (ends : ending = [] ∨ ending = [.of '\n']) :
    colorLine codes (front ++ ending) =
      escape codes ++ (front ++ (escape resetCodes ++ ending)) := by
  have shown : (front ++ ending).filter (· ≠ .of '\n') = front := by
    rw [List.filter_append, List.filter_eq_self.mpr]
    · rcases ends with rfl | rfl <;> simp
    · intro letter member
      simpa using fun same : letter = '\n' => plain (same ▸ member)
  simp only [colorLine, shown, List.drop_left, List.append_assoc]

theorem adds_colorLine (isLine : IsLine line) (isCode : IsCode codes) :
    Adds line (colorLine codes line) := by
  obtain ⟨front, ending, rfl, plain, ends⟩ := isLine.shape
  rw [colorLine_append plain ends]
  exact .insert isCode ((Adds.refl front).append (.insert (Or.inl rfl) (.refl ending)))

theorem adds_colorLexeme (lexeme : Lexeme) : Adds lexeme.value (colorLexeme lexeme) := by
  rw [colorLexeme]
  split
  · exact .refl _
  · next codes color =>
      obtain ⟨whole, isLine⟩ := coloredLines_lines lexeme.value
      have each : ∀ line ∈ coloredLines lexeme.value, Adds (id line) (colorLine codes line) := by
        intro line member
        exact adds_colorLine (isLine line member) (Or.inr ⟨lexeme.kind, color⟩)
      have lines := Adds.flatMap each
      rwa [List.flatMap_id, whole] at lines

/-- If what ends with a letter is colored so that it still does, the whole still ends with it. -/
theorem getLast?_flatMap {Item : Type} {spell color : Item → Text} {letter : Letter}
    {items : List Item} (empty : ∀ item ∈ items, spell item = [] → color item = [])
    (ends : ∀ item ∈ items, (spell item).getLast? = some letter →
      (color item).getLast? = some letter)
    (whole : (items.flatMap spell).getLast? = some letter) :
    (items.flatMap color).getLast? = some letter := by
  induction items with
  | nil => cases whole
  | cons item others inductionHypothesis =>
      obtain ⟨emptyHere, emptyLater⟩ := List.forall_mem_cons.mp empty
      obtain ⟨endsHere, endsLater⟩ := List.forall_mem_cons.mp ends
      rw [List.flatMap_cons, List.getLast?_append] at whole ⊢
      cases behind : (others.flatMap spell).getLast? with
      | some other =>
          rw [behind, Option.some_or] at whole
          rw [inductionHypothesis emptyLater endsLater (behind.trans whole), Option.some_or]
      | none =>
          rw [behind, Option.none_or] at whole
          have nothing : others.flatMap color = [] := by
            have spelledNothing := List.flatMap_eq_nil_iff.mp (List.getLast?_eq_none_iff.mp behind)
            rw [List.flatMap_eq_nil_iff]
            exact fun other member => emptyLater other member (spelledNothing other member)
          rw [nothing]
          exact endsHere whole

theorem getLast?_colorLine (isLine : IsLine line) (ends : line.getLast? = some (.of '\n')) :
    (colorLine codes line).getLast? = some (.of '\n') := by
  obtain ⟨front, ending, rfl, plain, shape⟩ := isLine.shape
  rw [colorLine_append plain shape]
  rcases shape with rfl | rfl
  · rw [List.append_nil] at ends
    exact absurd (List.mem_of_getLast? ends) plain
  · simp [List.getLast?_append]

/-- A lexeme at whose end a newline stands ends with it in color, too. -/
theorem getLast?_colorLexeme {lexeme : Lexeme} (ends : lexeme.value.getLast? = some (.of '\n')) :
    (colorLexeme lexeme).getLast? = some (.of '\n') := by
  rw [colorLexeme]
  split
  · exact ends
  · obtain ⟨whole, isLine⟩ := coloredLines_lines lexeme.value
    apply @getLast?_flatMap _ id
    · exact fun line member none_ => absurd none_ (isLine line member).filled
    · exact fun line member => getLast?_colorLine (isLine line member)
    · rwa [List.flatMap_id, whole]

theorem colorLexeme_nil {lexeme : Lexeme} (none_ : lexeme.value = []) :
    colorLexeme lexeme = [] := by
  rw [colorLexeme, none_]
  split <;> rfl

/-- A format of lexemes that shows their letters with escape sequences of colors put in, and leaves
a newline at the end outside of the colors. -/
structure Formats (format : List Lexeme → Text) : Prop where
  adds : ∀ lexemes, Adds (Lexeme.spelled lexemes) (format lexemes)
  ends : ∀ lexemes, (Lexeme.spelled lexemes).getLast? = some (.of '\n') →
    (format lexemes).getLast? = some (.of '\n')

/-- What a terminal shows is such a format. -/
theorem terminal_formats : Formats terminal where
  adds lexemes := Adds.flatMap fun lexeme _ => adds_colorLexeme lexeme
  ends lexemes := by
    apply @getLast?_flatMap _ Lexeme.value
    · exact fun lexeme _ => colorLexeme_nil
    · exact fun lexeme _ => getLast?_colorLexeme

theorem Adds.count_newline {plain shown : Text} (adds : Adds plain shown) :
    shown.count (.of '\n') = plain.count (.of '\n') :=
  adds.count_eq fun _ isCode => not_mem_escape isCode '\n' (by simp)

/-- A newline at the end of both texts is the same one. -/
theorem Adds.of_concat {plain shown : Text}
    (adds : Adds (plain ++ [.of '\n']) (shown ++ [.of '\n'])) :
    Adds plain shown := by
  generalize plainWhole : plain ++ [.of '\n'] = first at adds
  generalize shownWhole : shown ++ [.of '\n'] = second at adds
  induction adds generalizing plain shown with
  | done => simp at plainWhole
  | @keep letter plainRest shownRest rest inductionHypothesis =>
      have newlines := rest.count_newline
      rcases List.append_eq_cons_iff.mp plainWhole with ⟨rfl, same⟩ | ⟨plainFront, rfl, rfl⟩
      · cases same
        rcases List.append_eq_cons_iff.mp shownWhole with ⟨rfl, _⟩ | ⟨shownFront, rfl, rfl⟩
        · exact .done
        · simp at newlines
      · rcases List.append_eq_cons_iff.mp shownWhole with ⟨rfl, same⟩ | ⟨shownFront, rfl, rfl⟩
        · cases same
          simp at newlines
        · exact .keep letter (inductionHypothesis rfl rfl)
  | @insert codes plainRest shownRest isCode rest inductionHypothesis =>
      subst plainWhole
      have plainCodes := not_mem_escape isCode '\n' (by simp)
      rcases List.append_eq_append_iff.mp shownWhole with
        ⟨between, whole, newline⟩ | ⟨shownFront, rfl, rfl⟩
      · rcases List.singleton_eq_append_iff.mp newline with ⟨rfl, rfl⟩ | ⟨rfl, _⟩
        · rw [List.append_nil] at whole
          rw [← whole, ← List.append_nil (escape codes)]
          exact .insert isCode (inductionHypothesis rfl rfl)
        · exact absurd (by simp [whole]) plainCodes
      · exact .insert isCode (inductionHypothesis rfl rfl)

theorem Adds.nil_of {plain shown : Text} (adds : Adds plain shown) (none_ : shown = []) :
    plain = [] := by
  cases adds with
  | done => rfl
  | keep => cases none_
  | insert => cases none_

/-- No newline comes last that was not last before. -/
theorem Adds.getLast?_eq {plain shown : Text} (adds : Adds plain shown)
    (ends : shown.getLast? = some (.of '\n')) : plain.getLast? = some (.of '\n') := by
  induction adds with
  | done => exact ends
  | @keep letter plain shown rest inductionHypothesis =>
      rw [List.getLast?_cons] at ends ⊢
      cases behind : shown.getLast? with
      | some other =>
          rw [behind, Option.getD_some] at ends
          rw [inductionHypothesis (behind.trans ends), Option.getD_some]
      | none =>
          have nothing := rest.nil_of (List.getLast?_eq_none_iff.mp behind)
          rw [behind] at ends
          rw [nothing]
          exact ends
  | @insert codes plain shown isCode rest inductionHypothesis =>
      have behind : (escape codes).getLast? = some (.of 'm') := List.getLast?_concat
      rw [List.getLast?_append, behind] at ends
      cases last : shown.getLast? with
      | some other =>
          rw [last, Option.some_or] at ends
          exact inductionHypothesis (last.trans ends)
      | none =>
          rw [last] at ends
          cases ends

/-- A colored text is the text that is cut with escape sequences put in, without the newline at its
end. -/
theorem Formats.adds_colored {format : List Lexeme → Text} (formats : Formats format)
    (text : Text) : Adds (Lexeme.settled text) (coloredBy format text) := by
  have adds := formats.adds (Lexeme.ofText text)
  have ends : (format (Lexeme.ofText text)).getLast? = some (.of '\n') := by
    apply formats.ends
    rw [Lexeme.spelled_ofText, Lexeme.normalized_eq, List.getLast?_concat]
  rw [Lexeme.spelled_ofText, Lexeme.normalized_eq] at adds
  obtain ⟨shown, whole⟩ := List.getLast?_eq_some_iff.mp ends
  rw [whole] at adds
  have kept := adds.of_concat
  have last : shown.reverse.head? ≠ some (.of '\n') := by
    rw [List.head?_reverse]
    exact fun same => Text.getLast?_stripLetter _ _ (kept.getLast?_eq same)
  have stripped : coloredBy format text = shown := by
    rw [coloredBy, whole, List.reverse_append]
    show ((shown.reverse.dropWhile (· = .of '\n'))).reverse = shown
    rw [Text.dropWhile_of_head? last, List.reverse_reverse]
  rwa [stripped]

end Flourish.Highlight
