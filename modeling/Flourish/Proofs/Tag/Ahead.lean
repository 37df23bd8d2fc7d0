/-
This file reads tags before the end of a line. Main statement: a tag that is read and closed in a
text is read and closed alike if a newline and more text follow.
-/

import Flourish.Expansion.Dispatch
import Flourish.Proofs.Tag.Found

namespace Flourish

/-- A newline and what comes after it. -/
def nextLine (more : Text) : Text :=
  .of '\n' :: more

namespace Text

/-- A maximal run that a newline ends is the same if the newline comes later. -/
theorem run_nextLine (test : Letter → Bool) (breaks : test '\n' = false) (text more : Text) :
    (text ++ nextLine more).takeWhile test = text.takeWhile test :=
  run_stopped breaks text more

/-- A text without a newline stands at the front of a line only within it. -/
theorem isPrefix_nextLine {needle : Text} (inLine : .of '\n' ∉ needle) (text more : Text) :
    needle <+: text ++ nextLine more ↔ needle <+: text := by
  refine ⟨fun starts => ?_, fun starts => starts.trans (List.prefix_append _ _)⟩
  induction needle generalizing text with
  | nil => exact List.nil_prefix
  | cons first others inductionHypothesis =>
      cases text with
      | nil =>
          obtain ⟨rest, same⟩ := starts
          obtain ⟨rfl, _⟩ := List.cons.inj same
          exact absurd List.mem_cons_self inLine
      | cons letter rest =>
          obtain ⟨rfl, others⟩ := List.cons_prefix_cons.mp starts
          exact List.cons_prefix_cons.mpr ⟨rfl, inductionHypothesis
            (fun member => inLine (List.mem_cons_of_mem _ member)) rest others⟩

/-- What is found in a text is found if more follows. -/
theorem firstIndex_append {needle text : Text} {index : Nat} (more : Text)
    (found : firstIndex needle text = some index) :
    firstIndex needle (text ++ more) = some index := by
  induction text generalizing index with
  | nil =>
      simp only [firstIndex] at found
      split at found
      · next empty =>
          cases found
          obtain rfl := List.isEmpty_iff.mp empty
          cases more <;> rfl
      · cases found
  | cons letter rest inductionHypothesis =>
      by_cases starts : needle <+: letter :: rest
      · rw [firstIndex, if_pos (List.isPrefixOf_iff_prefix.mpr starts)] at found
        rw [List.cons_append, firstIndex, if_pos, found]
        exact List.isPrefixOf_iff_prefix.mpr (starts.trans ⟨more, rfl⟩)
      · rw [firstIndex_cons_of_not_isPrefix starts] at found
        obtain ⟨earlier, sought, rfl⟩ := Option.map_eq_some_iff.mp found
        have fits := (firstIndex_isPrefix sought).length_le
        have absent : ¬ needle <+: letter :: (rest ++ more) := by
          intro later
          refine starts (List.prefix_of_prefix_length_le later ⟨more, rfl⟩ ?_)
          rw [List.length_drop] at fits
          rw [List.length_cons]
          omega
        rw [List.cons_append, firstIndex_cons_of_not_isPrefix absent, inductionHypothesis sought]
        rfl

end Text

namespace Tag

variable {name text rest : Text}

/-- The parts of a head are the same if more follows behind what ends them. -/
theorem readParts_append {parts : List HeadPart} (more : Text) (ended : rest ≠ [])
    (read : readParts name text = .ok (parts, rest)) :
    readParts name (text ++ nextLine more) = .ok (parts, rest ++ nextLine more) := by
  fun_induction readParts name text generalizing parts rest with
  | case1 =>
      cases read
      exact absurd rfl ended
  | case2 => cases read
  | case3 => cases read
  | case4 => cases read
  | case5 text segment after intact part segmentRead others last =>
      rename_i tailRead inductionHypothesis
      cases read
      have fits : segment.length ≤ text.length := (List.takeWhile_prefix isSegmentLetter).length_le
      have nonempty : after ≠ [] := by
        intro empty
        rw [empty, readParts] at tailRead
        cases tailRead
        exact ended rfl
      have head : (after ++ nextLine more).head? = after.head? := by
        obtain ⟨letter, rest, same⟩ := List.exists_cons_of_ne_nil nonempty
        rw [same]
        rfl
      have behind : (text ++ nextLine more).drop (text.takeWhile isSegmentLetter).length =
          after ++ nextLine more := List.drop_append_of_le_length fits
      rw [List.cons_append, readParts, if_pos rfl, Text.run_nextLine isSegmentLetter rfl]
      simp only [behind]
      rw [head]
      apply (if_neg intact).trans
      rw [show HeadPart.ofSegment name (text.takeWhile isSegmentLetter) = .ok part
        from segmentRead]
      simp only [inductionHypothesis ended tailRead]
  | case6 letter text other =>
      cases read
      rw [List.cons_append, readParts, if_neg other]

theorem readEnding_append {closed : Bool} {size : Nat} (more : Text)
    (read : readEnding? text = some (closed, size)) :
    readEnding? (text ++ more) = some (closed, size) := by
  unfold readEnding? at read
  split at read
  · cases read
    rfl
  · cases read
    rfl
  · cases read

theorem readSpace_nextLine (text more : Text) :
    readSpace? (text ++ nextLine more) = readSpace? text := by
  have run := Text.run_nextLine isNameLetter rfl text more
  simp only [readSpace?, run]
  have fits : (text.takeWhile isNameLetter).length ≤ text.length :=
    (List.takeWhile_prefix isNameLetter).length_le
  rw [List.drop_append_of_le_length fits]
  cases TagKind.reserved? (text.takeWhile isNameLetter) with
  | none => rfl
  | some kind =>
      cases text.drop (text.takeWhile isNameLetter).length with
      | nil => rfl
      | cons letter others =>
          by_cases colon : letter = ':'
          · rw [colon]
            rfl
          · simp [colon]

theorem readHead_nextLine {tag : Tag} {size : Nat} (more : Text)
    (read : readHead text = .ok (tag, size)) :
    readHead (text ++ nextLine more) = .ok (tag, size) := by
  have fits := spaceSize_le text
  have run := Text.run_nextLine isNameLetter rfl
    (text.drop (((readSpace? text).map Prod.snd).getD 0)) more
  have nameFits := (List.takeWhile_prefix isNameLetter
    (l := text.drop (((readSpace? text).map Prod.snd).getD 0))).length_le
  simp only [readHead, readSpace_nextLine, List.drop_append_of_le_length fits, run,
    List.drop_append_of_le_length nameFits] at read ⊢
  split at read
  · cases read
  · split at read
    · cases read
    · next parts rest partsRead =>
        split at read
        · cases read
        · next closed endingSize endingRead =>
            have ended : rest ≠ [] := by
              rintro rfl
              cases endingRead
            simp only [readParts_append more ended partsRead, readEnding_append _ endingRead]
            exact read

end Tag

namespace Closer

theorem nameAt_plain {text : Text} (plain : ¬ [.of '{', .of '{', .of '/'] <+: text) :
    nameAt? text = none := by
  unfold nameAt?
  split
  · exact absurd ⟨_, rfl⟩ plain
  · rfl

/-- A closer is read alike before the end of a line. -/
theorem nameAt_nextLine (text more : Text) :
    nameAt? (text ++ nextLine more) = nameAt? text := by
  by_cases braces : [.of '{', .of '{', .of '/'] <+: text
  · obtain ⟨rest, rfl⟩ := braces
    have run := Text.run_nextLine Tag.isNameLetter rfl rest more
    have fits : (rest.takeWhile Tag.isNameLetter).length ≤ rest.length :=
      (List.takeWhile_prefix Tag.isNameLetter).length_le
    simp only [List.cons_append, List.nil_append, nameAt?, run,
      List.drop_append_of_le_length fits]
    generalize rest.takeWhile Tag.isNameLetter = name
    generalize rest.drop name.length = after
    cases name with
    | nil => rfl
    | cons letter others =>
        cases after with
        | nil => rfl
        | cons first behind =>
            cases behind with
            | nil =>
                by_cases brace : first = '}'
                · rw [brace]
                  rfl
                · simp [brace]
            | cons second last =>
                by_cases braces : first = '}' ∧ second = '}'
                · rw [braces.1, braces.2]
                  rfl
                · grind
  · have later : ¬ [.of '{', .of '{', .of '/'] <+: text ++ nextLine more := by
      rwa [Text.isPrefix_nextLine (by decide)]
    rw [nameAt_plain braces, nameAt_plain later]

end Closer

namespace Token

/-- A token is read alike before the end of a line. -/
theorem read_nextLine {position : Nat} {text : Text} {found : Option Token} (more : Text)
    (read : Token.read position text = .ok found) :
    Token.read position (text ++ nextLine more) = .ok found := by
  by_cases braces : [.of '{', .of '{'] <+: text
  · obtain ⟨after, rfl⟩ := braces
    cases after with
    | nil =>
        cases read
        rfl
    | cons letter rest =>
        simp only [List.cons_append, List.nil_append, Token.read] at read ⊢
        by_cases slash : letter = '/'
        · rw [if_pos slash] at read ⊢
          have named := Closer.nameAt_nextLine (.of '{' :: .of '{' :: letter :: rest) more
          simp only [List.cons_append] at named
          rw [named]
          exact read
        · rw [if_neg slash] at read ⊢
          by_cases begins : Tag.isNameLetter letter
          · rw [if_pos begins] at read ⊢
            split at read
            · cases read
            · next tag size headRead =>
                have head := Tag.readHead_nextLine more headRead
                rw [List.cons_append] at head
                rw [head]
                exact read
          · rw [if_neg begins] at read ⊢
            exact read
  · have later : ¬ [.of '{', .of '{'] <+: text ++ nextLine more := by
      rwa [Text.isPrefix_nextLine (by decide)]
    rw [read_plain later]
    rwa [read_plain braces] at read

/-- No more than the text is read. -/
theorem stop_le_of_read {position : Nat} {text : Text} {token : Token}
    (read : Token.read position text = .ok (some token)) :
    token.stop ≤ position + text.length := by
  cases token with
  | opening opening => exact (read_opening read).2.2
  | closer closer =>
      obtain ⟨same, written⟩ := read_closer read
      have fits := written.length_le
      rw [Closer.length_closerForm] at fits
      rw [same]
      simp only [stop, Closer.named]
      omega

/-- The text behind a token is the same but for the next line. -/
theorem behind_nextLine {position : Nat} {letter : Letter} {rest : Text} {token : Token} (more : Text)
    (read : Token.read position (letter :: rest) = .ok (some token)) :
    (rest ++ nextLine more).drop (token.stop - position - 1) =
      rest.drop (token.stop - position - 1) ++ nextLine more := by
  have fits := stop_le_of_read read
  rw [List.length_cons] at fits
  exact List.drop_append_of_le_length (by omega)

end Token

namespace Closer

/-- A closer that is found stands within the text behind its head. -/
theorem stop_le_of_findSpecific {opening : Opening} {after : Text} {closer : Closer}
    (found : findSpecific opening after = .ok closer) :
    closer.stop - opening.headStop ≤ after.length := by
  have sought := findSpecific_sought opening after
  rw [found] at sought
  obtain ⟨index, rfl, written⟩ := sought
  have fits := written.length_le
  rw [length_closerForm, List.length_drop] at fits
  simp only [named]
  omega

theorem findSpecific_append {opening : Opening} {after : Text} {closer : Closer} (more : Text)
    (found : findSpecific opening after = .ok closer) :
    findSpecific opening (after ++ more) = .ok closer := by
  simp only [findSpecific] at found ⊢
  split at found
  · next index sought =>
      rw [Text.firstIndex_append more sought]
      exact found
  · split at found <;> cases found

/-- The pursuit of a closer with a newline and more text behind. -/
def Pursuit.nextLine (more : Text) : Pursuit → Pursuit
  | .ended result => .ended result
  | .onward inner position text => .onward inner position (text ++ Flourish.nextLine more)

/-- What a token does to the search for a closer is the same if a newline and more text follow,
unless the search fails. -/
theorem pursue_nextLine {name after : Text} {inner : List Nat} {token : Token} (more : Text)
    (unfailed : ∀ failure, pursue name inner after token ≠ .ended (.error failure)) :
    pursue name inner (after ++ nextLine more) token =
      (pursue name inner after token).nextLine more := by
  cases token with
  | closer closer =>
      simp only [pursue]
      split
      · cases inner <;> rfl
      · rfl
  | opening opening =>
      simp only [pursue] at unfailed ⊢
      split
      · rfl
      · next open_ =>
          rw [if_neg open_] at unfailed
          cases policy : opening.tag.closerPolicy with
          | generic => rfl
          | specific =>
              simp only [policy] at unfailed ⊢
              cases sought : findSpecific opening after with
              | error failure => exact absurd (by rw [sought]) (unfailed failure)
              | ok closer =>
                  rw [findSpecific_append _ sought]
                  simp only [Pursuit.nextLine]
                  rw [List.drop_append_of_le_length (stop_le_of_findSpecific sought)]

/-- The search for a closer is the same if a newline and more text follow. -/
theorem findGenericFrom_nextLine {name text : Text} {outer position : Nat} {inner : List Nat}
    {closer : Closer} (more : Text)
    (found : findGenericFrom name outer inner position text = .ok closer) :
    findGenericFrom name outer inner position (text ++ nextLine more) = .ok closer := by
  match text with
  | [] =>
      rw [findGenericFrom] at found
      cases found
  | letter :: rest =>
      cases read : Token.read position (letter :: rest) with
      | error failure =>
          rw [findGenericFrom, read] at found
          cases found
      | ok token =>
          have later := Token.read_nextLine more read
          rw [List.cons_append] at later ⊢
          cases token with
          | none =>
              rw [findGenericFrom, read] at found
              rw [findGenericFrom, later]
              exact findGenericFrom_nextLine more found
          | some token =>
              have behind := Token.behind_nextLine more read
              rw [findGenericFrom_pursue read] at found
              rw [findGenericFrom_pursue later, behind, pursue_nextLine]
              · cases pursued : pursue name inner (rest.drop (token.stop - position - 1)) token with
                | ended result =>
                    rw [pursued] at found
                    exact found
                | onward waiting stop text =>
                    rw [pursued] at found
                    have fewer := Nat.le_trans (length_le_of_pursue pursued)
                      (List.drop_sublist _ _).length_le
                    exact findGenericFrom_nextLine more found
              · intro failure failed
                rw [failed] at found
                cases found
termination_by text.length
decreasing_by
  · exact Nat.lt_succ_self _
  · exact Nat.lt_succ_of_le fewer

theorem find_nextLine {policy : CloserPolicy} {opening : Opening} {after : Text} {closer : Closer}
    (more : Text) (found : find policy opening after = .ok closer) :
    find policy opening (after ++ nextLine more) = .ok closer := by
  cases policy with
  | generic => exact findGenericFrom_nextLine more found
  | specific => exact findSpecific_append _ found

end Closer

namespace Dispatch

/-- A tag that ends within a text has the same size if a newline and more text follow. -/
theorem extent_nextLine {opening : Opening} {position : Nat} {tail : Text} {size : Extent}
    (more : Text)
    (read : Token.read position (.of '{' :: .of '{' :: tail) = .ok (some (.opening opening)))
    (sized : extent opening tail = .ok size) :
    extent opening (tail ++ nextLine more) = .ok size := by
  obtain ⟨start, _, below⟩ := Token.read_opening read
  have fits : opening.headStop - opening.start - 2 ≤ tail.length := by
    simp only [List.length_cons] at below
    omega
  simp only [extent, List.drop_append_of_le_length fits] at sized ⊢
  split at sized
  · next closed =>
      rw [if_pos closed]
      exact sized
  · next open_ =>
      rw [if_neg open_]
      split at sized
      · cases sized
      · next closer found =>
          rw [Closer.find_nextLine more found]
          exact sized

end Dispatch

/-- The content of a tag that ends within a text is the same if more follows. -/
theorem Extent.contentIn_append {size : Extent} {tail : Text} (fits : size.size ≤ tail.length)
    (more : Text) : size.contentIn (tail ++ more) = size.contentIn tail := by
  simp only [Extent.size] at fits
  rw [contentIn, contentIn, List.drop_append_of_le_length (by omega),
    List.take_append_of_le_length (by rw [List.length_drop]; omega)]

end Flourish
