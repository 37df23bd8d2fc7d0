/-
This file reads the argument of a call back. Main statements: the arguments of heads are the
segments without an equals sign, and a call that is written with one of them is read with this
argument alone.
-/

import Flourish.Proofs.Tag.Grammar

namespace Flourish

/-- The tag that calls a component with one argument. -/
def callForm (name argument : Text) : Text :=
  selfClosingForm ("ui:" ++ (name ++ .of ':' :: argument))

/-- The head of a call with one argument. -/
def Head.ofCall (name argument : Text) : Head :=
  ⟨some .ui, name, [argument], true⟩

namespace Tag

/-- An argument of some head that can be read. -/
def IsPositional (argument : Text) : Prop :=
  ∃ text tag size, readHead text = .ok (tag, size) ∧ argument ∈ tag.arguments

variable {argument name : Text}

/-- The arguments of a head that is read are segments of it. -/
theorem isSegment_of_readHead {text : Text} {tag : Tag} {size : Nat}
    (read : readHead text = .ok (tag, size)) (member : argument ∈ tag.arguments) :
    IsSegment argument ∧ .of '=' ∉ argument := by
  simp only [readHead] at read
  split at read
  · cases read
  · split at read
    · cases read
    · next parts rest found =>
        split at read
        · cases read
        · cases read
          obtain ⟨segments, isSegment, rfl, _⟩ := readParts_segments found
          rw [filterMap_argument] at member
          obtain ⟨among, plain⟩ := List.mem_filter.mp member
          exact ⟨isSegment argument among, by simpa using plain⟩

/-- The tag of a call with one argument. -/
def call (name argument : Text) : Tag :=
  ⟨some .ui, name, [argument], [], true, none⟩

end Tag

namespace Head

variable {argument name : Text}

theorem ofCall_wellFormed (isName : Tag.IsName name) (isSegment : Tag.IsSegment argument) :
    (ofCall name argument).WellFormed where
  space := by
    rintro kind ⟨⟩
    decide
  name := isName
  bare := nofun
  segments := List.forall_mem_singleton.mpr isSegment

theorem callForm_eq (name argument : Text) : callForm name argument =
    .of '{' :: .of '{' :: ((ofCall name argument).inside ++ []) := by
  have space : writtenSpace (some .ui) = "ui:" := rfl
  simp only [callForm, selfClosingForm, ofCall, inside, space, Tag.writtenSegments, Tag.ending,
    List.flatMap_singleton, if_true, List.append_assoc, List.cons_append, List.append_nil]

theorem tag_ofCall (plain : .of '=' ∉ argument) :
    (ofCall name argument).tag = Tag.call name argument := by
  have unset : Tag.entry? argument = none := if_neg plain
  simp [tag, ofCall, Tag.call, plain, unset, Table.ofEntries, Table.insertAll]

end Head

namespace Tag

variable {argument name : Text}

theorem isPositional_iff : IsPositional argument ↔ IsSegment argument ∧ .of '=' ∉ argument := by
  constructor
  · rintro ⟨text, tag, size, read, member⟩
    exact isSegment_of_readHead read member
  · rintro ⟨isSegment, plain⟩
    have read := Head.readHead_inside
      (Head.ofCall_wellFormed (show IsName "x" by decide) isSegment) []
    rw [Head.tag_ofCall plain] at read
    exact ⟨_, _, _, read, List.mem_singleton_self argument⟩

/-- Name letters without an equals sign are an argument. -/
theorem IsName.isPositional (isName : IsName argument) : IsPositional argument := by
  have plain : .of '=' ∉ argument := not_mem_of_isNameLetter isName.2 rfl
  have unset : entry? argument = none := if_neg plain
  have letters : ∀ letter ∈ argument, isSegmentLetter letter := fun letter member =>
    isSegmentLetter_of_isNameLetter (isName.2 letter member)
  exact isPositional_iff.mpr ⟨isSegment_iff.mpr ⟨isName.1, letters, by simp [unset]⟩, plain⟩

/-- A call that is written with an argument is read with this argument alone. -/
theorem IsPositional.read_callForm (positional : IsPositional argument) (isName : IsName name)
    (position : Nat) (rest : Text) :
    Token.read position (callForm name argument ++ rest) = .ok (some (.opening
      ⟨call name argument, position, position + (callForm name argument).length⟩)) := by
  obtain ⟨isSegment, plain⟩ := isPositional_iff.mp positional
  have written : callForm name argument = (Head.ofCall name argument).written := by
    rw [Head.callForm_eq, List.append_nil, Head.written]
  rw [written, ← Head.tag_ofCall plain]
  exact Token.read_opening_iff.mpr ⟨_, Head.ofCall_wellFormed isName isSegment,
    List.prefix_append _ _, rfl⟩

end Tag
end Flourish
