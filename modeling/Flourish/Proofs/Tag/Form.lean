/-
This file reads back the forms in which tags are written. Main statements: a head without arguments
is read where it stands, a closer is read where it stands, and a search passes what does not hold
its needle.
-/

import Flourish.Proofs.Tag.Grammar
import Flourish.Tag.Match

namespace Flourish

namespace Tag

/-- The tag of a head that opens and has no arguments. -/
def plain (space : Option TagKind) (name : Text) : Tag :=
  ⟨space, name, [], [], false, none⟩

/-- The form of a head without arguments is a head of the grammar. -/
theorem exists_head_plain {space : Option TagKind} {name : Text} (isName : IsName name)
    (reserved : ∀ kind ∈ space, TagKind.reserved? kind.name = some kind) :
    ∃ head : Head, head.WellFormed ∧ head.tag = plain space name ∧
      head.written = openForm (plain space name).displayName := by
  refine ⟨⟨space, name, [], false⟩, ⟨?_, isName, ?_, ?_⟩, rfl, ?_⟩
  · intro kind member
    exact List.mem_of_find?_eq_some (reserved kind member)
  · intro _ followed
    exact absurd rfl followed
  · simp
  · cases space <;>
      simp [Head.written, Head.inside, Head.writtenSpace, writtenSegments, ending, plain, displayName,
        openForm]

end Tag

namespace Closer

/-- A search for the closer of a name passes these letters, whatever comes after them. -/
def Passes (name letters : Text) : Prop :=
  ∀ rest, Text.firstIndex (closerForm name) (letters ++ rest) =
    (Text.firstIndex (closerForm name) rest).map (· + letters.length)

namespace Passes

variable {name other letters first second : Text}

theorem nil (name : Text) : Passes name [] := by
  intro rest
  simp

theorem append (before : Passes name first) (after : Passes name second) :
    Passes name (first ++ second) := by
  intro rest
  rw [List.append_assoc, before, after, Option.map_map, List.length_append]
  congr 1
  funext index
  simp only [Function.comp_apply]
  omega

theorem cons {letter : Letter} (after : Passes name letters)
    (absent : ∀ rest, ¬ closerForm name <+: letter :: (letters ++ rest)) :
    Passes name (letter :: letters) := by
  intro rest
  rw [List.cons_append, Text.firstIndex_cons_of_not_isPrefix (absent rest), after, Option.map_map]
  rfl

/-- Letters without a brace that opens hold no closer. -/
theorem of_letters (letterOnly : .of '{' ∉ letters) : Passes name letters := by
  induction letters with
  | nil => exact nil name
  | cons letter others inductionHypothesis =>
      refine (inductionHypothesis fun later => letterOnly (List.mem_cons_of_mem _ later)).cons ?_
      rintro rest ⟨after, same⟩
      simp only [closerForm, List.cons_append, List.cons.injEq] at same
      exact letterOnly (same.1 ▸ List.mem_cons_self)

/-- Two braces hold no closer if none begins with them and no brace comes after them. -/
theorem braces (nonempty : letters ≠ []) (letterOnly : .of '{' ∉ letters)
    (absent : ∀ rest, ¬ closerForm name <+: .of '{' :: .of '{' :: (letters ++ rest)) :
    Passes name (.of '{' :: .of '{' :: letters) := by
  refine ((of_letters letterOnly).cons ?_).cons absent
  obtain ⟨letter, others, rfl⟩ := List.exists_cons_of_ne_nil nonempty
  rintro rest ⟨after, same⟩
  simp only [closerForm, List.cons_append, List.cons.injEq] at same
  exact letterOnly (by simp [← same.2.1])

theorem openForm (isName : Tag.IsName first) (letterOnly : .of '{' ∉ second) :
    Passes name (openForm (first ++ second)) := by
  have firstOnly : .of '{' ∉ first := Tag.not_mem_of_isNameLetter isName.2 rfl
  refine braces (by simp) (by simp [firstOnly, letterOnly]) ?_
  obtain ⟨letter, others, rfl⟩ := List.exists_cons_of_ne_nil isName.1
  rintro rest ⟨after, same⟩
  simp only [closerForm, List.cons_append, List.cons.injEq] at same
  obtain ⟨rfl, _⟩ := List.cons.inj same.2.2
  cases isName.2 '/' List.mem_cons_self

theorem closerForm (isName : Tag.IsName name) (otherIsName : Tag.IsName other)
    (different : other ≠ name) : Passes name (closerForm other) := by
  have letterOnly : .of '{' ∉ other := Tag.not_mem_of_isNameLetter otherIsName.2 rfl
  refine braces (by simp) (by simpa using letterOnly) ?_
  rintro rest ⟨after, same⟩
  have first := nameAt_closerForm isName.1 isName.2 after
  have second := nameAt_closerForm otherIsName.1 otherIsName.2 rest
  rw [same] at first
  exact different (Option.some.inj (second.symm.trans first))

/-- The closer is found behind letters that are passed. -/
theorem found (passes : Passes name letters) (rest : Text) :
    Text.firstIndex (Flourish.closerForm name) (letters ++ (Flourish.closerForm name ++ rest)) =
      some letters.length := by
  have starts : (Flourish.closerForm name).isPrefixOf (Flourish.closerForm name ++ rest) :=
    List.isPrefixOf_iff_prefix.mpr (List.prefix_append _ _)
  have here : Text.firstIndex (Flourish.closerForm name) (Flourish.closerForm name ++ rest) =
      some 0 := by
    simp only [Flourish.closerForm, List.cons_append] at starts ⊢
    rw [Text.firstIndex, if_pos starts]
  rw [passes, here, Option.map_some, Nat.zero_add]

end Passes

end Closer

namespace Token

variable {name : Text}

/-- A head without arguments is read where it is written. -/
theorem read_openForm {space : Option TagKind} (isName : Tag.IsName name)
    (reserved : ∀ kind ∈ space, TagKind.reserved? kind.name = some kind) (position : Nat)
    (rest : Text) :
    Token.read position (openForm (Tag.plain space name).displayName ++ rest) =
      .ok (some (.opening ⟨Tag.plain space name, position,
        position + (openForm (Tag.plain space name).displayName).length⟩)) := by
  obtain ⟨head, wellFormed, tag, written⟩ := Tag.exists_head_plain isName reserved
  rw [← written, ← tag]
  exact read_opening_iff.mpr ⟨head, wellFormed, List.prefix_append _ _, rfl⟩

/-- A closer is read where it is written. -/
theorem read_closerForm (isName : Tag.IsName name) (position : Nat) (rest : Text) :
    Token.read position (closerForm name ++ rest) =
      .ok (some (.closer (Closer.named name position))) :=
  read_closer_iff.mpr ⟨isName, List.prefix_append _ _, rfl⟩

end Token

namespace Closer

section Generic

variable {name rest : Text} {outer position : Nat} {inner : List Nat}

theorem findGenericFrom_letters {letters : Text} (letterOnly : .of '{' ∉ letters) :
    findGenericFrom name outer inner position (letters ++ rest) =
      findGenericFrom name outer inner (position + letters.length) rest := by
  induction letters generalizing position with
  | nil => rfl
  | cons letter others inductionHypothesis =>
      have noBraces : ¬ [.of '{', .of '{'] <+: letter :: (others ++ rest) := by
        rintro ⟨after, same⟩
        exact letterOnly ((List.cons.inj same).1 ▸ List.mem_cons_self)
      rw [List.cons_append, findGenericFrom, Token.read_plain noBraces,
        inductionHypothesis fun later => letterOnly (List.mem_cons_of_mem _ later),
        List.length_cons, Nat.add_assoc, Nat.add_comm 1]

theorem drop_form {letter : Letter} {others : Text} {stop : Nat}
    (size : stop = position + (letter :: others).length) :
    (others ++ rest).drop (stop - position - 1) = rest := by
  refine List.drop_left' ?_
  simp only [size, List.length_cons]
  omega

/-- The closer of a tag that waits in between is passed. -/
theorem findGenericFrom_closer (isName : Tag.IsName name) (waiting : Nat) :
    findGenericFrom name outer (waiting :: inner) position (closerForm name ++ rest) =
      findGenericFrom name outer inner (position + (closerForm name).length) rest := by
  have read := Token.read_closerForm isName position rest
  have size := stop_named name position
  obtain ⟨letter, others, form⟩ : ∃ letter others, closerForm name = letter :: others :=
    ⟨_, _, rfl⟩
  rw [form] at read size ⊢
  rw [List.cons_append] at read ⊢
  rw [findGenericFrom, read]
  simp only [show (named name position).name = name from rfl, if_true]
  rw [drop_form size, size]

/-- With no tag waiting in between the closer is found. -/
theorem findGenericFrom_end (isName : Tag.IsName name) :
    findGenericFrom name outer [] position (closerForm name ++ rest) =
      .ok (named name position) := by
  have read := Token.read_closerForm isName position rest
  obtain ⟨letter, others, form⟩ : ∃ letter others, closerForm name ++ rest = letter :: others :=
    ⟨_, _, rfl⟩
  rw [form] at read ⊢
  rw [findGenericFrom, read]
  simp only [show (named name position).name = name from rfl, if_true]

variable {space : Option TagKind} {tagName content : Text}

/-- A head that waits for the same closer is put on top of those that wait. -/
theorem findGenericFrom_opening (isName : Tag.IsName tagName)
    (reserved : ∀ kind ∈ space, TagKind.reserved? kind.name = some kind)
    (policy : (Tag.plain space tagName).closerPolicy = .generic)
    (same : (Tag.plain space tagName).closerName = name) :
    findGenericFrom name outer inner position
        (openForm (Tag.plain space tagName).displayName ++ rest) =
      findGenericFrom name outer (position :: inner)
        (position + (openForm (Tag.plain space tagName).displayName).length) rest := by
  have read := Token.read_openForm isName reserved position rest
  obtain ⟨letter, others, form⟩ :
      ∃ letter others, openForm (Tag.plain space tagName).displayName = letter :: others :=
    ⟨_, _, rfl⟩
  rw [form] at read ⊢
  rw [List.cons_append] at read ⊢
  rw [findGenericFrom, read]
  simp only [show (Tag.plain space tagName).selfClosing = false from rfl, policy, same,
    if_true, Bool.false_eq_true, if_false]
  rw [drop_form rfl]

theorem findSpecific_found (opening : Opening) (passes : Passes opening.tag.closerName content)
    (rest : Text) :
    findSpecific opening (content ++ (closerForm opening.tag.closerName ++ rest)) =
      .ok (named opening.tag.closerName (opening.headStop + content.length)) := by
  simp only [findSpecific, passes.found]

/-- A tag with a closer of its own is passed whole. -/
theorem findGenericFrom_specific (isName : Tag.IsName tagName)
    (reserved : ∀ kind ∈ space, TagKind.reserved? kind.name = some kind)
    (policy : (Tag.plain space tagName).closerPolicy = .specific)
    (passes : Passes (Tag.plain space tagName).closerName content) :
    findGenericFrom name outer inner position
        (openForm (Tag.plain space tagName).displayName ++
          (content ++ (closerForm (Tag.plain space tagName).closerName ++ rest))) =
      findGenericFrom name outer inner
        (position + (openForm (Tag.plain space tagName).displayName ++
          (content ++ closerForm (Tag.plain space tagName).closerName)).length) rest := by
  have read := Token.read_openForm isName reserved position
    (content ++ (closerForm (Tag.plain space tagName).closerName ++ rest))
  obtain ⟨letter, others, form⟩ :
      ∃ letter others, openForm (Tag.plain space tagName).displayName = letter :: others :=
    ⟨_, _, rfl⟩
  rw [form] at read ⊢
  let headStop := position + (letter :: others).length
  have found := findSpecific_found ⟨Tag.plain space tagName, position, headStop⟩ passes rest
  have stop := stop_named (Tag.plain space tagName).closerName (headStop + content.length)
  have behind : (content ++ (closerForm (Tag.plain space tagName).closerName ++ rest)).drop
      (headStop + content.length +
        (closerForm (Tag.plain space tagName).closerName).length - headStop) = rest := by
    rw [← List.append_assoc]
    refine List.drop_left' ?_
    rw [List.length_append]
    omega
  rw [List.cons_append] at read ⊢
  rw [findGenericFrom, read]
  simp only [show (Tag.plain space tagName).selfClosing = false from rfl, policy,
    Bool.false_eq_true, if_false]
  rw [drop_form rfl]
  simp only [headStop] at found stop behind
  simp only [found, stop, behind]
  congr 1
  simp only [List.length_append, List.length_cons]
  omega

end Generic

end Closer
end Flourish
