/-
This file cuts texts short. Main statement: a closer that is found in a text is found in every part
of the text that reaches to its end.
-/

import Flourish.Proofs.Tag.Found

namespace Flourish

/-- What is found before a cut is found there still. -/
theorem Text.firstIndex_take {needle text : Text} {index size : Nat}
    (found : firstIndex needle text = some index) (fits : index + needle.length ≤ size) :
    firstIndex needle (text.take size) = some index := by
  induction text generalizing index size with
  | nil => rwa [List.take_nil]
  | cons letter rest inductionHypothesis =>
      cases size with
      | zero =>
          have empty : needle = [] := List.length_eq_zero_iff.mp (by omega)
          have first : index = 0 := by omega
          rw [empty, first]
          rfl
      | succ size =>
          have starts : needle.isPrefixOf (letter :: rest.take size) ↔
              needle <+: letter :: rest ∧ needle.length ≤ size + 1 := by
            rw [List.isPrefixOf_iff_prefix, ← List.take_succ_cons, List.prefix_take_iff]
          rw [firstIndex] at found
          rw [List.take_succ_cons, firstIndex]
          split at found
          · next front =>
            rw [if_pos (starts.mpr ⟨List.isPrefixOf_iff_prefix.mp front, by omega⟩)]
            exact found
          · next absent =>
            obtain ⟨earlier, sought, rfl⟩ := Option.map_eq_some_iff.mp found
            rw [if_neg fun front => absent (List.isPrefixOf_iff_prefix.mpr (starts.mp front).1),
              inductionHypothesis sought (by omega)]
            rfl

namespace Token

variable {text : Text} {position limit : Nat}

/-- A token that ends before a cut is read there still. -/
theorem read_take {token : Token} (read : Token.read position text = .ok (some token))
    (fits : token.stop ≤ limit) :
    Token.read position (text.take (limit - position)) = .ok (some token) := by
  cases token with
  | opening opening =>
      obtain ⟨head, wellFormed, written, rfl⟩ := read_opening_iff.mp read
      simp only [stop] at fits
      exact read_opening_iff.mpr
        ⟨head, wellFormed, List.prefix_take_iff.mpr ⟨written, by omega⟩, rfl⟩
  | closer closer =>
      obtain ⟨isName, written, same⟩ := read_closer_iff.mp read
      have stops : closer.stop = position + (closerForm closer.name).length := by
        rw [same, Closer.stop_named]
        rfl
      simp only [stop] at fits
      exact read_closer_iff.mpr
        ⟨isName, List.prefix_take_iff.mpr ⟨written, by omega⟩, same⟩

/-- Ordinary text stays so however the text is cut. -/
theorem read_take_none (read : Token.read position text = .ok none) (size : Nat) :
    Token.read position (text.take size) = .ok none := by
  have whole : text.take size <+: text := List.take_prefix size text
  cases cut : Token.read position (text.take size) with
  | error failure =>
      obtain ⟨begins, _⟩ := read_error_iff.mp ⟨failure, cut⟩
      obtain ⟨letter, isLetter, front⟩ := beginsHead_iff.mp begins
      have begins : BeginsHead text := beginsHead_iff.mpr ⟨letter, isLetter, front.trans whole⟩
      have noHead : ¬ ∃ head : Head, head.WellFormed ∧ head.written <+: text := by
        rintro ⟨head, wellFormed, written⟩
        rw [read_opening_iff.mpr ⟨head, wellFormed, written, rfl⟩] at read
        cases read
      obtain ⟨_, failed⟩ := read_error_iff.mpr ⟨begins, noHead⟩
      rw [failed] at read
      cases read
  | ok found =>
      cases found with
      | none => rfl
      | some token =>
          cases token with
          | opening opening =>
              obtain ⟨head, wellFormed, written, same⟩ := read_opening_iff.mp cut
              rw [read_opening_iff.mpr ⟨head, wellFormed, written.trans whole, same⟩] at read
              cases read
          | closer closer =>
              obtain ⟨isName, written, same⟩ := read_closer_iff.mp cut
              rw [read_closer_iff.mpr ⟨isName, written.trans whole, same⟩] at read
              cases read

end Token

namespace Closer

variable {name text after : Text} {outer position limit : Nat} {inner : List Nat}
  {closer : Closer}

/-- What is found from a position on ends behind it. -/
theorem le_start_of_found
    (found : findGenericFrom name outer inner position text = .ok closer) :
    position ≤ closer.start ∧ closer.start < closer.stop := by
  have sought := findGenericFrom_sought name outer inner position text
  rw [found] at sought
  obtain ⟨index, rfl, _⟩ := sought
  simp only [named]
  omega

/-- What is found ends within the text. -/
theorem stop_le_of_found
    (found : findGenericFrom name outer inner position (text.drop position) = .ok closer) :
    closer.stop ≤ text.length := by
  have sought := findGenericFrom_sought name outer inner position (text.drop position)
  rw [found] at sought
  obtain ⟨index, rfl, written⟩ := sought
  have fits := written.length_le
  rw [length_closerForm, List.drop_drop, List.length_drop] at fits
  simp only [named]
  omega

theorem findSpecific_take {opening : Opening} (found : findSpecific opening after = .ok closer)
    (fits : closer.stop ≤ limit) :
    findSpecific opening (after.take (limit - opening.headStop)) = .ok closer := by
  simp only [findSpecific] at found ⊢
  split at found
  · next index first =>
    cases found
    rw [stop_named] at fits
    rw [Text.firstIndex_take first (by omega)]
  · split at found <;> cases found

/-- The pursuit in a text that is cut at a limit. -/
def Pursuit.cut (limit : Nat) : Pursuit → Pursuit
  | .ended result => .ended result
  | .onward inner position text => .onward inner position (text.take (limit - position))

/-- What a token does to a search that succeeds before the limit does not depend on what comes after
the limit. -/
theorem pursue_take {token : Token}
    (found : (pursue name inner after token).conclusion name outer = .ok closer)
    (fits : closer.stop ≤ limit) :
    pursue name inner (after.take (limit - token.stop)) token =
      (pursue name inner after token).cut limit := by
  cases token with
  | closer met =>
      simp only [pursue]
      split
      · cases inner <;> rfl
      · rfl
  | opening opening =>
      simp only [pursue, Token.stop] at found ⊢
      split
      · rfl
      · next open_ =>
        rw [if_neg open_] at found
        cases policy : opening.tag.closerPolicy with
        | generic => rfl
        | specific =>
            rw [policy] at found
            cases specific : findSpecific opening after with
            | error failure =>
                simp only [specific] at found
                cases found
            | ok own =>
                simp only [specific] at found
                have later := le_start_of_found found
                have passed := headStop_le_stop specific
                simp only [findSpecific_take specific (by omega : own.stop ≤ limit), Pursuit.cut,
                  List.drop_take]
                congr 2
                omega

/-- The token that a successful search meets ends no later than the closer it finds. -/
theorem stop_le_of_pursue {token : Token}
    (found : (pursue name inner after token).conclusion name outer = .ok closer) :
    token.stop ≤ closer.stop := by
  cases token with
  | closer met =>
      simp only [pursue] at found
      split at found
      · cases inner with
        | nil =>
            cases found
            exact Nat.le_refl _
        | cons top others =>
            have later := le_start_of_found found
            simp only [Token.stop]
            omega
      · have later := le_start_of_found found
        simp only [Token.stop]
        omega
  | opening opening =>
      simp only [pursue] at found
      simp only [Token.stop]
      split at found
      · have later := le_start_of_found found
        omega
      · split at found
        · have later := le_start_of_found found
          omega
        · split at found
          · cases found
          · next own specific =>
            have later := le_start_of_found found
            have passed := headStop_le_stop specific
            omega

/-- A closer that is found is found in every part of the text that reaches to its end. -/
theorem findGenericFrom_take {inner : List Nat} {position : Nat} {text : Text}
    (found : findGenericFrom name outer inner position text = .ok closer)
    (fits : closer.stop ≤ limit) :
    findGenericFrom name outer inner position (text.take (limit - position)) = .ok closer := by
  have ahead := le_start_of_found found
  match text with
  | [] =>
      rw [findGenericFrom] at found
      cases found
  | letter :: rest =>
      obtain ⟨size, same⟩ : ∃ size, limit - position = size + 1 :=
        ⟨limit - position - 1, by omega⟩
      cases read : Token.read position (letter :: rest) with
      | error failure =>
          rw [findGenericFrom, read] at found
          cases found
      | ok met =>
          cases met with
          | none =>
              rw [findGenericFrom, read] at found
              have cut := Token.read_take_none read (size + 1)
              have onward : findGenericFrom name outer inner (position + 1)
                  (rest.take (limit - (position + 1))) = .ok closer :=
                findGenericFrom_take found fits
              rw [show limit - (position + 1) = size by omega] at onward
              rw [List.take_succ_cons] at cut
              rw [same, List.take_succ_cons, findGenericFrom, cut]
              exact onward
          | some token =>
              rw [findGenericFrom_pursue read] at found
              have passed := Token.lt_stop_of_read read
              have within := stop_le_of_pursue found
              have cut := Token.read_take read (Nat.le_trans within fits)
              rw [same, List.take_succ_cons] at cut ⊢
              have behind : (rest.take size).drop (token.stop - position - 1) =
                  (rest.drop (token.stop - position - 1)).take (limit - token.stop) := by
                rw [List.drop_take]
                congr 1
                omega
              rw [findGenericFrom_pursue cut, behind, pursue_take found fits]
              cases pursued : pursue name inner (rest.drop (token.stop - position - 1)) token with
              | ended result => rwa [pursued] at found
              | onward waiting stop later =>
                  rw [pursued] at found
                  have fewer : later.length < (letter :: rest).length :=
                    Nat.lt_succ_of_le (Nat.le_trans (length_le_of_pursue pursued)
                      (List.drop_sublist _ _).length_le)
                  exact findGenericFrom_take found fits
termination_by text.length
decreasing_by
  · exact Nat.lt_succ_self _
  · exact fewer

end Closer
end Flourish
