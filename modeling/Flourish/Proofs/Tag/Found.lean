/-
This file says where closers are found. Main statements: the closer of a tag is written after its
head, and a failure to find it stands at the tag or at the head of a tag after it. The search for a
closer passes one token after another.
-/

import Flourish.Proofs.Tag.Grammar
import Flourish.Tag.Match

namespace Flourish.Closer

/-- What may be found in a text that begins at `position`: a closer that is written there, or a
failure of the tag at `outer` or of two braces in the text. -/
def Sought (name : Text) (outer position : Nat) (text : Text) : Except Failure Closer → Prop
  | .ok closer =>
      ∃ index, closer = named name (position + index) ∧ closerForm name <+: text.drop index
  | .error failure =>
      ∃ offset : Nat, failure.offset = some (offset : Int) ∧
        (offset = outer ∨ ∃ index, offset = position + index ∧ [.of '{', .of '{'] <+: text.drop index)

variable {name text rest : Text} {outer position stop : Nat} {letter : Letter}
  {result : Except Failure Closer}

/-- What is found in a later part of a text is found in the text. -/
theorem Sought.later (behind : position ≤ stop)
    (sought : Sought name outer stop (text.drop (stop - position)) result) :
    Sought name outer position text result := by
  have shift (index : Nat) : stop + index = position + (stop - position + index) := by omega
  cases result with
  | ok closer =>
      obtain ⟨index, rfl, written⟩ := sought
      rw [List.drop_drop] at written
      exact ⟨stop - position + index, by rw [shift], written⟩
  | error failure =>
      obtain ⟨offset, placed, here | ⟨index, there, braces⟩⟩ := sought
      · exact ⟨offset, placed, Or.inl here⟩
      · rw [List.drop_drop] at braces
        exact ⟨offset, placed, Or.inr ⟨stop - position + index, there.trans (shift index), braces⟩⟩

/-- The search goes on behind a token. -/
theorem Sought.behind (ahead : position < stop)
    (sought : Sought name outer stop (rest.drop (stop - position - 1)) result) :
    Sought name outer position (letter :: rest) result := by
  refine Sought.later (Nat.le_of_lt ahead) ?_
  rwa [show stop - position = stop - position - 1 + 1 by omega, List.drop_succ_cons]

theorem findSpecific_sought (opening : Opening) (after : Text) :
    Sought opening.tag.closerName opening.start opening.headStop after
      (findSpecific opening after) := by
  simp only [findSpecific]
  split
  · next index found => exact ⟨index, rfl, Text.firstIndex_isPrefix found⟩
  · split <;> exact ⟨opening.start, rfl, Or.inl rfl⟩

/-- A specific closer is found behind the head of its tag. -/
theorem headStop_le_stop {opening : Opening} {after : Text} {closer : Closer}
    (found : findSpecific opening after = .ok closer) : opening.headStop ≤ closer.stop := by
  have sought := findSpecific_sought opening after
  rw [found] at sought
  obtain ⟨index, rfl, _⟩ := sought
  simp only [named]
  omega

/-- A failure of a specific tag stands at the tag. -/
theorem findSpecific_error {opening : Opening} {after : Text} {failure : Failure}
    (found : findSpecific opening after = .error failure) :
    failure.offset = some (opening.start : Int) := by
  simp only [findSpecific] at found
  split at found
  · cases found
  · split at found <;> cases found <;> rfl

theorem findGenericFrom_sought (name : Text) (outer : Nat) (inner : List Nat) (position : Nat)
    (text : Text) :
    Sought name outer position text (findGenericFrom name outer inner position text) := by
  -- Each token is passed, so a search that goes on begins at a later position.
  fun_induction findGenericFrom name outer inner position text with
  | case1 => exact ⟨outer, rfl, Or.inl rfl⟩
  | case2 inner position letter rest failure read =>
      obtain ⟨placed, braces⟩ := Token.read_error read
      exact ⟨position, placed, Or.inr ⟨0, rfl, braces⟩⟩
  | case3 inner position letter rest read inductionHypothesis =>
      refine Sought.behind (Nat.lt_succ_self position) ?_
      simpa using inductionHypothesis
  | case4 position letter rest closer read same =>
      obtain ⟨placed, written⟩ := Token.read_closer read
      rw [same] at placed written
      exact ⟨0, placed, written⟩
  | case5 position letter rest closer read after same head others inductionHypothesis =>
      exact inductionHypothesis.behind (Token.lt_stop_of_read read)
  | case6 inner position letter rest closer read after other inductionHypothesis =>
      exact inductionHypothesis.behind (Token.lt_stop_of_read read)
  | case7 inner position letter rest opening read after closed inductionHypothesis =>
      exact inductionHypothesis.behind (Token.lt_stop_of_read read)
  | case8 inner position letter rest opening read after open_ policy same inductionHypothesis =>
      exact inductionHypothesis.behind (Token.lt_stop_of_read read)
  | case9 inner position letter rest opening read after open_ policy other inductionHypothesis =>
      exact inductionHypothesis.behind (Token.lt_stop_of_read read)
  | case10 inner position letter rest opening read after open_ policy failure found =>
      refine ⟨position, ?_, Or.inr ⟨0, rfl, Token.braces_of_read read⟩⟩
      rw [findSpecific_error found, (Token.read_opening read).1]
  | case11 inner position letter rest opening read after open_ policy closer found
      inductionHypothesis =>
      exact (inductionHypothesis.later (headStop_le_stop found)).behind
        (Token.lt_stop_of_read read)

theorem find_sought (opening : Opening) (after : Text) (policy : CloserPolicy) :
    Sought opening.tag.closerName opening.start opening.headStop after
      (find policy opening after) := by
  cases policy with
  | generic => exact findGenericFrom_sought ..
  | specific => exact findSpecific_sought ..

/-- What a token does to the search for a closer: it ends the search, or the search goes on in the
text at a position, with the heads that wait there. -/
inductive Pursuit where
  | ended (result : Except Failure Closer)
  | onward (inner : List Nat) (position : Nat) (text : Text)

/-- What a token does to the search for a closer, given the text behind it. -/
def pursue (name : Text) (inner : List Nat) (after : Text) : Token → Pursuit
  | .closer closer =>
      if closer.name = name then
        match inner with
        | [] => .ended (.ok closer)
        | _ :: others => .onward others closer.stop after
      else .onward inner closer.stop after
  | .opening opening =>
      if opening.tag.selfClosing then .onward inner opening.headStop after
      else
        match opening.tag.closerPolicy with
        | .generic =>
            .onward (if opening.tag.closerName = name then opening.start :: inner else inner)
              opening.headStop after
        | .specific =>
            match findSpecific opening after with
            | .error failure => .ended (.error failure)
            | .ok closer =>
                .onward inner closer.stop (after.drop (closer.stop - opening.headStop))

/-- What the search comes to from there on. -/
def Pursuit.conclusion (name : Text) (outer : Nat) : Pursuit → Except Failure Closer
  | .ended result => result
  | .onward inner position text => findGenericFrom name outer inner position text

/-- The search for a closer passes the tokens of a text one by one. -/
theorem findGenericFrom_pursue {inner : List Nat} {token : Token}
    (read : Token.read position (letter :: rest) = .ok (some token)) :
    findGenericFrom name outer inner position (letter :: rest) =
      (pursue name inner (rest.drop (token.stop - position - 1)) token).conclusion name outer := by
  rw [findGenericFrom, read]
  cases token with
  | closer closer =>
      simp only [pursue, Token.stop]
      split
      · cases inner <;> rfl
      · rfl
  | opening opening =>
      simp only [pursue, Token.stop]
      split
      · rfl
      · cases opening.tag.closerPolicy with
        | generic =>
            simp only [Pursuit.conclusion]
            split <;> rfl
        | specific =>
            simp only
            cases findSpecific opening (rest.drop (opening.headStop - position - 1)) <;> rfl

/-- The search goes on in the text behind the token. -/
theorem length_le_of_pursue {inner waiting : List Nat} {after : Text} {token : Token}
    (pursued : pursue name inner after token = .onward waiting stop text) :
    text.length ≤ after.length := by
  cases token with
  | closer closer =>
      simp only [pursue] at pursued
      split at pursued
      · cases inner <;> cases pursued
        exact Nat.le_refl _
      · cases pursued
        exact Nat.le_refl _
  | opening opening =>
      simp only [pursue] at pursued
      split at pursued
      · cases pursued
        exact Nat.le_refl _
      · split at pursued
        · cases pursued
          exact Nat.le_refl _
        · split at pursued
          · cases pursued
          · cases pursued
            exact (List.drop_sublist _ _).length_le

end Flourish.Closer
