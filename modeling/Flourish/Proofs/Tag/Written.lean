/-
This file says what the parts of heads and closers look like in the text from which they are read.
Main statements: a namespace, an ending or a closer that is read stands at the front of the text,
and no more than that is read.
-/

import Flourish.Proofs.Text.Search
import Flourish.Tag.Read

namespace Flourish

namespace Tag

/-- A part of a head as it is written. -/
def HeadPart.written : HeadPart → Text
  | .argument value => .of ':' :: value
  | .parameter key value => .of ':' :: key ++ .of '=' :: value

theorem HeadPart.length_written (part : HeadPart) : part.written.length = part.size := by
  cases part with
  | argument value => simp [written, size]
  | parameter key value =>
      simp only [written, size, List.length_append, List.length_cons]
      omega

theorem length_flatMap_written (parts : List HeadPart) :
    (parts.flatMap HeadPart.written).length =
      parts.foldr (fun part size => part.size + size) 0 := by
  induction parts with
  | nil => rfl
  | cons part rest inductionHypothesis =>
      simp only [List.flatMap_cons, List.length_append, List.foldr_cons, HeadPart.length_written,
        inductionHypothesis]

/-- The key and the value of a segment are what stands around its first equals sign. -/
theorem segment_split {segment : Text} (equals : .of '=' ∈ segment) :
    segment.takeWhile (· ≠ .of '=') ++ .of '=' :: (segment.dropWhile (· ≠ .of '=')).drop 1 =
      segment := by
  induction segment with
  | nil => cases equals
  | cons letter rest inductionHypothesis =>
      by_cases here : letter = '='
      · simp [here]
      · have later : .of '=' ∈ rest := by simpa [Ne.symm here] using equals
        simp only [ne_eq, here, not_false_eq_true, decide_true, List.takeWhile_cons_of_pos,
          List.dropWhile_cons_of_pos, List.cons_append] at inductionHypothesis ⊢
        rw [inductionHypothesis later]

/-- The ending of a head as it is written. -/
def ending (selfClosing : Bool) : Text :=
  if selfClosing then [.of '/', .of '}', .of '}'] else [.of '}', .of '}']

theorem readEnding_written {text : Text} {selfClosing : Bool} {size : Nat}
    (read : readEnding? text = some (selfClosing, size)) :
    (ending selfClosing).length = size ∧ ending selfClosing <+: text := by
  unfold readEnding? at read
  split at read
  · cases read
    exact ⟨rfl, _, rfl⟩
  · cases read
    exact ⟨rfl, _, rfl⟩
  · cases read

theorem readSpace_written {text : Text} {kind : TagKind} {size : Nat}
    (read : readSpace? text = some (kind, size)) :
    (kind.name ++ [Letter.of ':']).length = size ∧ kind.name ++ [.of ':'] <+: text := by
  simp only [readSpace?] at read
  split at read
  · next kind rest reserved after =>
      cases read
      have same : kind.name = text.takeWhile isNameLetter := by
        simpa using List.find?_some reserved
      refine ⟨by simp [same], rest, ?_⟩
      rw [same, List.append_assoc]
      exact (congrArg _ after.symm).trans (Text.run_append_drop isNameLetter text)
  · cases read

theorem spaceSize_le (text : Text) : ((readSpace? text).map Prod.snd).getD 0 ≤ text.length := by
  cases read : readSpace? text with
  | none => exact Nat.zero_le _
  | some space =>
      have read : readSpace? text = some (space.1, space.2) := read
      obtain ⟨length, written⟩ := readSpace_written read
      simpa [← length] using written.length_le

end Tag

namespace Closer

/-- A closer that is read stands at the front of the text. Its name is not empty. -/
theorem nameAt_written {text name : Text} (read : nameAt? text = some name) :
    closerForm name <+: text ∧ name ≠ [] ∧ ∀ letter ∈ name, Tag.isNameLetter letter := by
  unfold nameAt? at read
  split at read
  · next rest =>
      simp only at read
      split at read
      · cases read
      · next same after nonempty =>
          cases read
          have split := Text.run_append_drop Tag.isNameLetter rest
          refine ⟨⟨same, ?_⟩, nonempty, List.all_eq_true.mp List.all_takeWhile⟩
          rw [after] at split
          simp only [closerForm, List.cons_append, List.append_assoc, List.nil_append, split]
      · cases read
  · cases read

/-- The closer of a name is read wherever it is written. -/
theorem nameAt_closerForm {name : Text} (nonempty : name ≠ [])
    (letters : ∀ letter ∈ name, Tag.isNameLetter letter) (rest : Text) :
    nameAt? (closerForm name ++ rest) = some name := by
  have run : (name ++ .of '}' :: .of '}' :: rest).takeWhile Tag.isNameLetter = name :=
    Text.run_eq letters rfl
  simp only [closerForm, List.cons_append, List.append_assoc, List.nil_append, nameAt?, run,
    List.drop_left]

theorem length_closerForm (name : Text) : (closerForm name).length = name.length + 5 := by
  simp [closerForm]

theorem stop_named (name : Text) (position : Nat) :
    (named name position).stop = position + (closerForm name).length := by
  rw [length_closerForm]
  rfl

end Closer
end Flourish
