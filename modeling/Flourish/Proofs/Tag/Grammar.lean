/-
This file gives the grammar of tokens. Main statement: at a place of a text the head is read that is
written there, or the closer; a name letter behind two braces at which no head is written is a
failure there, and all else is ordinary text.
-/

import Flourish.Proofs.Tag.Head

namespace Flourish.Token

variable {text : Text} {position : Nat}

/-- The text begins with two braces and a name letter. -/
def BeginsHead (text : Text) : Prop :=
  ∃ letter rest, text = .of '{' :: .of '{' :: letter :: rest ∧ Tag.isNameLetter letter

theorem beginsHead_iff : BeginsHead text ↔
    ∃ letter, Tag.isNameLetter letter ∧ [.of '{', .of '{', letter] <+: text := by
  constructor
  · rintro ⟨letter, rest, rfl, isLetter⟩
    exact ⟨letter, isLetter, rest, rfl⟩
  · rintro ⟨letter, isLetter, rest, rfl⟩
    exact ⟨letter, rest, rfl, isLetter⟩

theorem nameAt_beginsHead (begins : BeginsHead text) : Closer.nameAt? text = none := by
  obtain ⟨letter, rest, rfl, isLetter⟩ := begins
  unfold Closer.nameAt?
  split
  · next same =>
      cases same
      cases isLetter
  · rfl

/-- What begins a head must be one. -/
theorem read_beginsHead {letter : Letter} (isLetter : Tag.isNameLetter letter) (rest : Text) :
    Token.read position (.of '{' :: .of '{' :: letter :: rest) =
      match Tag.readHead (letter :: rest) with
      | .error fault => .error ((Cause.malformedTag fault).placed position)
      | .ok (tag, size) => .ok (some (.opening ⟨tag, position, position + 2 + size⟩)) := by
  have noSlash : letter ≠ '/' := by
    rintro rfl
    cases isLetter
  cases headRead : Tag.readHead (letter :: rest) with
  | error fault => simp only [Token.read, if_neg noSlash, isLetter, if_true, headRead]
  | ok found => simp only [Token.read, if_neg noSlash, isLetter, if_true, headRead]

/-- What does not begin a head is a closer or ordinary text. -/
theorem read_not_beginsHead (other : ¬ BeginsHead text) :
    Token.read position text =
      .ok ((Closer.nameAt? text).map fun name => .closer (Closer.named name position)) := by
  unfold Token.read
  split
  · next letter rest =>
      by_cases slash : letter = '/'
      · rw [if_pos slash]
      · have noLetter : ¬ Tag.isNameLetter letter = true :=
          fun isLetter => other ⟨letter, rest, rfl, isLetter⟩
        have noName : Closer.nameAt? (.of '{' :: .of '{' :: letter :: rest) = none := by
          unfold Closer.nameAt?
          split
          · next same =>
              cases same
              exact absurd rfl slash
          · rfl
        rw [if_neg slash, if_neg noLetter, noName]
        rfl
  · next short =>
      have noName : Closer.nameAt? text = none := by
        unfold Closer.nameAt?
        split
        · next rest => exact absurd rfl (short '/' rest)
        · rfl
      rw [noName]
      rfl

/-- A head is read if one of the grammar is written at the front of the text. -/
theorem read_opening_iff {opening : Opening} :
    Token.read position text = .ok (some (.opening opening)) ↔
      ∃ head : Head, head.WellFormed ∧ head.written <+: text ∧
        opening = ⟨head.tag, position, position + head.written.length⟩ := by
  constructor
  · intro read
    by_cases begins : BeginsHead text
    · obtain ⟨letter, rest, rfl, isLetter⟩ := begins
      rw [read_beginsHead isLetter] at read
      split at read
      · cases read
      · next tag size headRead =>
          cases read
          obtain ⟨head, wellFormed, ⟨others, stands⟩, length, rfl⟩ :=
            Head.exists_of_readHead ⟨letter, rest, rfl, isLetter⟩ headRead
          refine ⟨head, wellFormed, ⟨others, ?_⟩, ?_⟩
          · rw [← stands]
            rfl
          · simp only [Head.written, List.length_cons, ← length, Nat.add_assoc, Nat.add_comm 2]
    · rw [read_not_beginsHead begins] at read
      simp at read
  · rintro ⟨head, wellFormed, ⟨others, rfl⟩, rfl⟩
    have headRead := Head.readHead_inside wellFormed others
    obtain ⟨letter, rest, front, isLetter⟩ := Head.inside_head wellFormed
    have whole : head.written ++ others = .of '{' :: .of '{' :: letter :: (rest ++ others) := by
      rw [Head.written, front]
      rfl
    rw [whole, read_beginsHead isLetter]
    rw [front, List.cons_append] at headRead
    rw [headRead]
    simp only [Head.written, front, List.length_cons, Nat.add_assoc, Nat.add_comm 2]

/-- A closer is read if it is written at the front of the text. -/
theorem read_closer_iff {closer : Closer} :
    Token.read position text = .ok (some (.closer closer)) ↔
      Tag.IsName closer.name ∧ closerForm closer.name <+: text ∧
        closer = Closer.named closer.name position := by
  constructor
  · intro read
    by_cases begins : BeginsHead text
    · obtain ⟨letter, rest, rfl, isLetter⟩ := begins
      rw [read_beginsHead isLetter] at read
      split at read <;> cases read
    · rw [read_not_beginsHead begins] at read
      obtain ⟨name, named, same⟩ := Option.map_eq_some_iff.mp (Except.ok.inj read)
      cases same
      obtain ⟨written, isName⟩ := Closer.nameAt_written named
      exact ⟨isName, written, rfl⟩
  · rintro ⟨isName, ⟨rest, rfl⟩, same⟩
    have named := Closer.nameAt_closerForm isName.1 isName.2 rest
    have other : ¬ BeginsHead (closerForm closer.name ++ rest) := by
      intro begins
      rw [nameAt_beginsHead begins] at named
      cases named
    rw [read_not_beginsHead other, named, Option.map_some, ← same]

/-- What begins a head and is none of the grammar is a failure at its place. -/
theorem read_error_iff :
    (∃ failure, Token.read position text = .error failure) ↔
      BeginsHead text ∧ ¬ ∃ head : Head, head.WellFormed ∧ head.written <+: text := by
  constructor
  · rintro ⟨failure, read⟩
    constructor
    · apply Classical.byContradiction
      intro other
      rw [read_not_beginsHead other] at read
      cases read
    · rintro ⟨head, wellFormed, written⟩
      rw [read_opening_iff.mpr ⟨head, wellFormed, written, rfl⟩] at read
      cases read
  · rintro ⟨⟨letter, rest, rfl, isLetter⟩, absent⟩
    cases headRead : Tag.readHead (letter :: rest) with
    | error fault =>
        rw [read_beginsHead isLetter, headRead]
        exact ⟨_, rfl⟩
    | ok found =>
        have read : Token.read position (.of '{' :: .of '{' :: letter :: rest) =
            .ok (some (.opening ⟨found.1, position, position + 2 + found.2⟩)) := by
          rw [read_beginsHead isLetter, headRead]
        obtain ⟨head, wellFormed, written, _⟩ := read_opening_iff.mp read
        exact absurd ⟨head, wellFormed, written⟩ absent

theorem malformed_of_read {failure : Failure} (read : Token.read position text = .error failure) :
    ∃ fault, failure = (Cause.malformedTag fault).placed position := by
  obtain ⟨⟨letter, rest, rfl, isLetter⟩, _⟩ := read_error_iff.mp ⟨failure, read⟩
  rw [read_beginsHead isLetter] at read
  split at read
  · next fault _ =>
      cases read
      exact ⟨fault, rfl⟩
  · cases read

/-- A malformed head begins with two braces, and the failure is placed there. -/
theorem read_error {failure : Failure} (read : Token.read position text = .error failure) :
    failure.offset = some (position : Int) ∧ [.of '{', .of '{'] <+: text := by
  obtain ⟨⟨letter, rest, rfl, _⟩, _⟩ := read_error_iff.mp ⟨failure, read⟩
  obtain ⟨fault, rfl⟩ := malformed_of_read read
  exact ⟨rfl, _, rfl⟩

/-- A closer that is read stands at the front of the text. -/
theorem read_closer {closer : Closer}
    (read : Token.read position text = .ok (some (.closer closer))) :
    closer = Closer.named closer.name position ∧ closerForm closer.name <+: text := by
  obtain ⟨_, written, same⟩ := read_closer_iff.mp read
  exact ⟨same, written⟩

/-- A head that is read stands at the front of the text. It has two braces at each end. -/
theorem read_opening {opening : Opening}
    (read : Token.read position text = .ok (some (.opening opening))) :
    opening.start = position ∧ position + 4 ≤ opening.headStop ∧
      opening.headStop ≤ position + text.length := by
  obtain ⟨head, _, written, rfl⟩ := read_opening_iff.mp read
  have fits := written.length_le
  have braces := head.length_written_ge
  refine ⟨rfl, ?_, ?_⟩
  · show position + 4 ≤ position + head.written.length
    omega
  · show position + head.written.length ≤ position + text.length
    omega

/-- Every token begins with two braces. -/
theorem braces_of_read {token : Token} (read : Token.read position text = .ok (some token)) :
    [.of '{', .of '{'] <+: text := by
  cases token with
  | opening opening =>
      obtain ⟨head, _, written, _⟩ := read_opening_iff.mp read
      exact List.IsPrefix.trans ⟨_, rfl⟩ written
  | closer closer => exact List.IsPrefix.trans ⟨_, rfl⟩ (read_closer read).2

theorem lt_stop_of_read {token : Token} (read : Token.read position text = .ok (some token)) :
    position < token.stop := by
  cases token with
  | opening opening =>
      have bounds := read_opening read
      simp only [stop]
      omega
  | closer closer =>
      rw [(read_closer read).1]
      simp only [stop, Closer.named]
      omega

/-- Text that does not begin with two braces holds no token. -/
theorem read_plain (plain : ¬ [.of '{', .of '{'] <+: text) : Token.read position text = .ok none := by
  cases read : Token.read position text with
  | error failure => exact absurd (read_error read).2 plain
  | ok found =>
      cases found with
      | none => rfl
      | some token => exact absurd (braces_of_read read) plain

/-- A word stands at a place of a text and ends within the limit. -/
theorem isPrefix_slice_iff_stop {word : Text} {position limit : Nat} (nonempty : word ≠ [])
    (fits : limit ≤ text.length) :
    word <+: Text.slice position limit text ↔
      ∃ stop ≤ limit, Text.slice position stop text = word := by
  rw [Text.isPrefix_slice_iff nonempty]
  constructor
  · rintro ⟨ends, same⟩
    exact ⟨_, ends, same⟩
  · rintro ⟨stop, ends, same⟩
    rw [← Text.stop_of_slice_eq nonempty (Nat.le_trans ends fits) same]
    exact ⟨ends, same⟩

section Limited

variable {limit : Nat}

/-- A head is read at a place if one of the grammar is written from there to a place that the limit
allows. -/
theorem readAt_opening_iff (fits : limit ≤ text.length) {opening : Opening} :
    readAt text position limit = .ok (some (.opening opening)) ↔
      ∃ head : Head, head.WellFormed ∧ opening.headStop ≤ limit ∧
        Text.slice position opening.headStop text = head.written ∧
        opening.start = position ∧ opening.tag = head.tag := by
  rw [readAt, read_opening_iff]
  constructor
  · rintro ⟨head, wellFormed, front, rfl⟩
    obtain ⟨ends, written⟩ := (Text.isPrefix_slice_iff head.written_ne_nil).mp front
    exact ⟨head, wellFormed, ends, written, rfl, rfl⟩
  · rintro ⟨head, wellFormed, ends, written, start, tag⟩
    have stop := Text.stop_of_slice_eq head.written_ne_nil (Nat.le_trans ends fits) written
    have front := (isPrefix_slice_iff_stop head.written_ne_nil fits).mpr ⟨_, ends, written⟩
    refine ⟨head, wellFormed, front, ?_⟩
    rw [← stop, ← tag, ← start]

/-- A closer is read at a place if it is written from there to a place that the limit allows. -/
theorem readAt_closer_iff (fits : limit ≤ text.length) {closer : Closer} :
    readAt text position limit = .ok (some (.closer closer)) ↔
      Tag.IsName closer.name ∧ closer.start = position ∧ closer.stop ≤ limit ∧
        Text.slice position closer.stop text = closerForm closer.name := by
  have nonempty : closerForm closer.name ≠ [] := List.cons_ne_nil _ _
  rw [readAt, read_closer_iff]
  constructor
  · rintro ⟨isName, front, same⟩
    obtain ⟨ends, written⟩ := (Text.isPrefix_slice_iff nonempty).mp front
    rw [← Closer.stop_named, ← same] at ends written
    exact ⟨isName, congrArg Closer.start same, ends, written⟩
  · rintro ⟨isName, start, ends, written⟩
    have stop := Text.stop_of_slice_eq nonempty (Nat.le_trans ends fits) written
    have front := (isPrefix_slice_iff_stop nonempty fits).mpr ⟨_, ends, written⟩
    rw [← Closer.stop_named, ← start] at stop
    refine ⟨isName, front, ?_⟩
    rw [← start]
    exact congrArg (Closer.mk closer.name closer.start) stop

/-- Reading fails at two braces and a name letter from which no head of the grammar is written to a
place that the limit allows. -/
theorem readAt_error_iff (fits : limit ≤ text.length) :
    (∃ failure, readAt text position limit = .error failure) ↔
      (∃ letter, Tag.isNameLetter letter ∧ position + 3 ≤ limit ∧
        Text.slice position (position + 3) text = [.of '{', .of '{', letter]) ∧
      ¬ ∃ head : Head, head.WellFormed ∧
        ∃ stop ≤ limit, Text.slice position stop text = head.written := by
  rw [readAt, read_error_iff, beginsHead_iff]
  apply and_congr
  · apply exists_congr
    intro letter
    rw [Text.isPrefix_slice_iff (List.cons_ne_nil _ _)]
    rfl
  · apply not_congr
    apply exists_congr
    intro head
    rw [isPrefix_slice_iff_stop head.written_ne_nil fits]

/-- A head that is written at a place has one stop there and one tag. -/
theorem headStop_unique (fits : limit ≤ text.length) {first second : Head}
    (firstWellFormed : first.WellFormed) (secondWellFormed : second.WellFormed)
    {firstStop secondStop : Nat} (firstEnds : firstStop ≤ limit) (secondEnds : secondStop ≤ limit)
    (firstWritten : Text.slice position firstStop text = first.written)
    (secondWritten : Text.slice position secondStop text = second.written) :
    firstStop = secondStop ∧ first.tag = second.tag := by
  have firstRead : readAt text position limit =
      .ok (some (.opening ⟨first.tag, position, firstStop⟩)) :=
    (readAt_opening_iff fits).mpr ⟨first, firstWellFormed, firstEnds, firstWritten, rfl, rfl⟩
  have secondRead : readAt text position limit =
      .ok (some (.opening ⟨second.tag, position, secondStop⟩)) :=
    (readAt_opening_iff fits).mpr ⟨second, secondWellFormed, secondEnds, secondWritten, rfl, rfl⟩
  rw [firstRead] at secondRead
  simp only [Except.ok.injEq, Option.some.injEq, Token.opening.injEq, Opening.mk.injEq] at secondRead
  exact ⟨secondRead.2.2, secondRead.1⟩

end Limited

/-- What is read at a place is the head of the grammar that is written there or the closer. The stop
of a head and its tag are unique, and a key has the value that its last segment gives it. -/
theorem readAt_grammar {position limit : Nat} (fits : limit ≤ text.length) :
    (∀ opening, readAt text position limit = .ok (some (.opening opening)) ↔
      ∃ head : Head, head.WellFormed ∧ opening.headStop ≤ limit ∧
        Text.slice position opening.headStop text = head.written ∧
        opening.start = position ∧ opening.tag = head.tag) ∧
    (∀ first second : Head, first.WellFormed → second.WellFormed →
      ∀ firstStop ≤ limit, ∀ secondStop ≤ limit,
        Text.slice position firstStop text = first.written →
        Text.slice position secondStop text = second.written →
          firstStop = secondStop ∧ first.tag = second.tag) ∧
    (∀ head : Head,
      head.tag.space = head.space ∧ head.tag.name = head.name ∧
      head.tag.selfClosing = head.selfClosing ∧
      head.tag.arguments = head.segments.filter (.of '=' ∉ ·) ∧
      ∀ key value, head.tag.parameters.find? key = some value ↔
        .of '=' ∉ key ∧ ∃ before after, head.segments = before ++ (key ++ .of '=' :: value) :: after ∧
          ∀ other, key ++ .of '=' :: other ∉ after) ∧
    (∀ closer, readAt text position limit = .ok (some (.closer closer)) ↔
      Tag.IsName closer.name ∧ closer.start = position ∧ closer.stop ≤ limit ∧
        Text.slice position closer.stop text = closerForm closer.name) ∧
    ((∃ failure, readAt text position limit = .error failure) ↔
      (∃ letter, Tag.isNameLetter letter ∧ position + 3 ≤ limit ∧
        Text.slice position (position + 3) text = [.of '{', .of '{', letter]) ∧
      ¬ ∃ head : Head, head.WellFormed ∧
        ∃ stop ≤ limit, Text.slice position stop text = head.written) ∧
    ∀ failure, readAt text position limit = .error failure →
      ∃ fault, failure = (Cause.malformedTag fault).placed position := by
  refine ⟨?_, ?_, ?_, ?_, readAt_error_iff fits, ?_⟩
  · intro opening
    exact readAt_opening_iff fits
  · intro first second firstWellFormed secondWellFormed firstStop firstEnds secondStop secondEnds
    exact headStop_unique fits firstWellFormed secondWellFormed firstEnds secondEnds
  · intro head
    exact ⟨rfl, rfl, rfl, rfl, fun key value => Head.find?_parameters⟩
  · intro closer
    exact readAt_closer_iff fits
  · intro failure read
    exact malformed_of_read read

/-- The head ends at its own braces, and the later of its two labels counts. -/
theorem readAt_repeatedLabel :
    let text : Text := "{{ui:badge:label=a=b:x:label=c/}}{{/ui}}"
    let head : Head := ⟨some .ui, "badge", ["label=a=b", "x", "label=c"], true⟩
    head.WellFormed ∧ 38 ≤ text.length ∧
      readAt text 0 38 = .ok (some (.opening ⟨head.tag, 0, 33⟩)) ∧
      head.tag.arguments = [[.of 'x']] ∧ head.tag.parameters.find? "label" = some [.of 'c'] := by
  intro text head
  have wellFormed : head.WellFormed := by decide
  have fits : 38 ≤ text.length := by decide
  obtain ⟨opening, _, tag, _⟩ := @readAt_grammar text 0 38 fits
  refine ⟨wellFormed, fits, ?_, by decide, ?_⟩
  · apply (opening _).mpr
    exact ⟨head, wellFormed, by decide, by decide, rfl, rfl⟩
  · apply ((tag head).2.2.2.2 _ _).mpr
    exact ⟨by decide, ["label=a=b", "x"], [], rfl, by simp⟩

end Flourish.Token
