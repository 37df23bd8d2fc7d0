/-
This file moves texts to other places. Main statement: a tag has the same size wherever it stands,
and a failure to find its closer moves along with it.
-/

import Flourish.Expansion.Dispatch
import Flourish.Proofs.Tag.Found

namespace Flourish

/-- The failure at a place that is some letters further on. -/
def Failure.moved (failure : Failure) (shift : Int) : Failure :=
  { failure with offset := failure.offset.map (· + shift) }

def Opening.moved (opening : Opening) (letters : Nat) : Opening :=
  { opening with
    start := opening.start + letters
    headStop := opening.headStop + letters }

def Closer.moved (closer : Closer) (letters : Nat) : Closer :=
  { closer with
    start := closer.start + letters
    stop := closer.stop + letters }

theorem Closer.named_moved (name : Text) (start letters : Nat) :
    named name (start + letters) = (named name start).moved letters := by
  simp only [named, moved, Closer.mk.injEq, true_and]
  omega

def Token.moved (letters : Nat) : Token → Token
  | .opening head => .opening (head.moved letters)
  | .closer found => .closer (found.moved letters)

/-- A result that tells of a place some letters further on. -/
def movedResult {Value : Type} (letters : Nat) (move : Value → Value) :
    Except Failure Value → Except Failure Value
  | .error failure => .error (failure.moved letters)
  | .ok value => .ok (move value)

theorem movedResult_eq_ok {Value : Type} {letters : Nat} {move : Value → Value}
    {result : Except Failure Value} {value : Value}
    (moved : movedResult letters move result = .ok value) :
    ∃ earlier, result = .ok earlier ∧ move earlier = value := by
  cases result with
  | error failure => cases moved
  | ok earlier => exact ⟨earlier, rfl, Except.ok.inj moved⟩

/-- A token is the same wherever its text stands. -/
theorem Token.read_moved (position letters : Nat) (text : Text) :
    Token.read (position + letters) text =
      movedResult letters (Option.map (Token.moved letters)) (Token.read position text) := by
  unfold Token.read
  split
  · next letter rest =>
      split
      · cases named : Closer.nameAt? (.of '{' :: .of '{' :: letter :: rest) with
        | none => rfl
        | some name =>
            simp only [Option.map_some, Closer.named_moved]
            rfl
      · split
        · split
          · rfl
          · next tag size _ =>
              have stop : position + letters + 2 + size = position + 2 + size + letters := by omega
              rw [stop]
              rfl
        · rfl
  · rfl

namespace Closer

variable {opening : Opening} {letters : Nat}

theorem findSpecific_moved (opening : Opening) (letters : Nat) (after : Text) :
    findSpecific (opening.moved letters) after =
      movedResult letters (Closer.moved · letters) (findSpecific opening after) := by
  have same : (opening.moved letters).tag = opening.tag := rfl
  simp only [findSpecific, same]
  split
  · next index _ =>
      have place : (opening.moved letters).headStop + index = opening.headStop + index + letters :=
        Nat.add_right_comm _ _ _
      rw [place, named_moved]
      rfl
  · split <;> rfl

def Pursuit.moved (letters : Nat) : Pursuit → Pursuit
  | .ended result => .ended (movedResult letters (Closer.moved · letters) result)
  | .onward inner position text => .onward (inner.map (· + letters)) (position + letters) text

/-- What a token does to the search for a closer moves along with it. -/
theorem pursue_moved (name : Text) (inner : List Nat) (after : Text) (token : Token)
    (letters : Nat) :
    pursue name (inner.map (· + letters)) after (token.moved letters) =
      (pursue name inner after token).moved letters := by
  cases token with
  | closer closer =>
      have same : (closer.moved letters).name = closer.name := rfl
      simp only [Token.moved, pursue, same]
      split
      · cases inner <;> rfl
      · rfl
  | opening opening =>
      have same : (opening.moved letters).tag = opening.tag := rfl
      simp only [Token.moved, pursue, same, findSpecific_moved]
      split
      · rfl
      · cases opening.tag.closerPolicy with
        | generic =>
            simp only
            split <;> rfl
        | specific =>
            simp only
            cases findSpecific opening after with
            | error failure => rfl
            | ok closer =>
                have behind : (closer.moved letters).stop - (opening.moved letters).headStop =
                    closer.stop - opening.headStop := Nat.add_sub_add_right _ _ _
                simp only [movedResult, behind]
                rfl

/-- The search for a closer is the same wherever the text stands. -/
theorem findGenericFrom_moved (name : Text) (outer : Nat) (inner : List Nat) (position : Nat)
    (text : Text) (letters : Nat) :
    findGenericFrom name (outer + letters) (inner.map (· + letters)) (position + letters) text =
      movedResult letters (Closer.moved · letters)
        (findGenericFrom name outer inner position text) := by
  match text with
  | [] =>
      rw [findGenericFrom, findGenericFrom]
      rfl
  | letter :: rest =>
      have moved := Token.read_moved position letters (letter :: rest)
      cases read : Token.read position (letter :: rest) with
      | error failure =>
          rw [findGenericFrom, moved, findGenericFrom, read]
          rfl
      | ok found =>
          rw [read] at moved
          cases found with
          | none =>
              rw [findGenericFrom, moved, findGenericFrom, read]
              have later := findGenericFrom_moved name outer inner (position + 1) rest letters
              rw [Nat.add_right_comm] at later
              exact later
          | some token =>
              let after := rest.drop (token.stop - position - 1)
              have fits : after.length < (letter :: rest).length :=
                Nat.lt_succ_of_le (List.drop_sublist _ _).length_le
              have behind : rest.drop ((token.moved letters).stop - (position + letters) - 1) =
                  after := by
                cases token <;> simp only [Token.moved, Token.stop, Opening.moved, Closer.moved,
                  Nat.add_sub_add_right, after]
              rw [findGenericFrom_pursue read, findGenericFrom_pursue moved, behind, pursue_moved]
              cases pursued : pursue name inner after token with
              | ended result => rfl
              | onward waiting stop text =>
                  have fewer := Nat.lt_of_le_of_lt (length_le_of_pursue pursued) fits
                  exact findGenericFrom_moved name outer waiting stop text letters
termination_by text.length
decreasing_by
  · exact Nat.lt_succ_self _
  · exact fewer

theorem find_moved (policy : CloserPolicy) (opening : Opening) (letters : Nat) (after : Text) :
    find policy (opening.moved letters) after =
      movedResult letters (Closer.moved · letters) (find policy opening after) := by
  cases policy with
  | generic => exact findGenericFrom_moved _ _ [] _ _ _
  | specific => exact findSpecific_moved _ _ _

end Closer

namespace Dispatch

/-- A tag has the same size wherever it stands. -/
theorem extent_moved (opening : Opening) (letters : Nat) (tail : Text) :
    extent (opening.moved letters) tail = movedResult letters id (extent opening tail) := by
  have tag : (opening.moved letters).tag = opening.tag := rfl
  have head : (opening.moved letters).headStop - (opening.moved letters).start =
      opening.headStop - opening.start := Nat.add_sub_add_right _ _ _
  simp only [extent, tag, head, Closer.find_moved]
  split
  · rfl
  · generalize Closer.find _ _ _ = found
    cases found with
    | error failure => rfl
    | ok closer =>
        simp only [movedResult, Closer.moved, Opening.moved, Nat.add_sub_add_right, id_eq]

end Dispatch
end Flourish
