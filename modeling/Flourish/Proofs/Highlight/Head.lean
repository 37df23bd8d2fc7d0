/-
This file shows that a highlighter and a reader see the same heads. Main statement: the lexemes of a
text that begins with a head are those of the tag that is read there, segment by segment, and behind
them the text goes on as plain text.
-/

import Flourish.Proofs.Highlight.Normalized
import Flourish.Proofs.Highlight.Spelled
import Flourish.Proofs.Tag.Grammar

namespace Flourish

namespace Tag

/-- A part of a head in lexemes. A value with nothing in it has none. -/
def HeadPart.lexemes : HeadPart → List Lexeme
  | .argument value => [⟨.punctuation, [.of ':']⟩, ⟨.argument, value⟩]
  | .parameter key value =>
      [⟨.punctuation, [.of ':']⟩, ⟨.parameterName, key⟩, ⟨.punctuation, [.of '=']⟩] ++
        if value = [] then [] else [⟨.parameterValue, value⟩]

/-- A namespace in lexemes. -/
def spaceLexemes : Option TagKind → List Lexeme
  | none => []
  | some kind => [⟨.space, kind.name⟩, ⟨.punctuation, [.of ':']⟩]

/-- The start of a head in lexemes. -/
def frontLexemes (space : Option TagKind) (name : Text) : List Lexeme :=
  ⟨.punctuation, [.of '{', .of '{']⟩ :: (spaceLexemes space ++ [⟨.tagName, name⟩])

/-- The head of a tag in lexemes, with its parts as they follow each other. -/
def lexemes (tag : Tag) (parts : List HeadPart) : List Lexeme :=
  frontLexemes tag.space tag.name ++
    (parts.flatMap HeadPart.lexemes ++ [⟨.punctuation, ending tag.selfClosing⟩])

end Tag

namespace Lexeme

open Tag (IsSegment HeadPart)

variable {text tail : Text} {mode : Mode} {before : Option Letter}

theorem spelled_part (part : HeadPart) : spelled part.lexemes = part.written := by
  cases part with
  | argument value => simp [spelled, HeadPart.lexemes, HeadPart.written]
  | parameter key value =>
      cases value <;> simp [spelled, HeadPart.lexemes, HeadPart.written]

theorem spelled_parts (segments : List Text) :
    spelled ((segments.map HeadPart.divided).flatMap HeadPart.lexemes) =
      Tag.writtenSegments segments := by
  rw [spelled, List.flatMap_assoc, ← Tag.flatMap_written_divided]
  congr
  funext part
  exact spelled_part part

theorem spelled_front (space : Option TagKind) (name : Text) :
    spelled (Tag.frontLexemes space name) =
      .of '{' :: .of '{' :: (Head.writtenSpace space ++ name) := by
  cases space <;> simp [spelled, Tag.frontLexemes, Tag.spaceLexemes, Head.writtenSpace]

/-- The lexemes of a head spell it. -/
theorem spelled_head (head : Head) :
    spelled (head.tag.lexemes (head.segments.map .divided)) = head.written := by
  rw [Tag.lexemes, spelled_append, spelled_append, spelled_front, spelled_parts]
  simp [Head.written, Head.inside, Head.tag, spelled]

theorem getLast?_written (head : Head) : head.written.getLast? = some (.of '}') := by
  rw [← spelled_head, Tag.lexemes, spelled_append, spelled_append, ← List.append_assoc,
    List.getLast?_append]
  cases head.tag.selfClosing <;> rfl

/-- A segment is read in a head as the part that it writes. -/
theorem readHead_part {segment behind : Text} (isSegment : IsSegment segment)
    (stop : behind.head? = some (.of ':') ∨ behind.head? = some (.of '/') ∨
      behind.head? = some (.of '}')) :
    readHead (.of ':' :: (segment ++ behind)) = ⟨(HeadPart.divided segment).lexemes, .head⟩ := by
  have inside (letter : Letter) (member : letter ∈ segment) : (!Tag.endsValue letter) = true := by
    obtain ⟨colon, slash, brace, _⟩ := isSegment.letters letter member
    simp [Tag.endsValue, colon, slash, brace]
  have outside : (behind.head?.map fun letter => !Tag.endsValue letter).getD false = false := by
    rcases stop with same | same | same <;> rw [same] <;> rfl
  rw [readHead_segment, HeadPart.divided]
  cases entry : Tag.entry? segment with
  | some found =>
      obtain ⟨key, value⟩ := found
      obtain ⟨rfl, absent⟩ := Tag.entry_eq_some_iff.mp entry
      obtain ⟨filled, letters⟩ := isSegment.key key value rfl absent
      have keyRun : (key ++ .of '=' :: value ++ behind).takeWhile Tag.isNameLetter = key := by
        rw [List.append_assoc]
        exact Text.run_eq letters rfl
      have valueRun : (value ++ behind).takeWhile (fun letter => !Tag.endsValue letter) = value :=
        Text.run_eq (fun letter member => inside letter (by simp [member])) outside
      have afterKey :
          (key ++ .of '=' :: value ++ behind).drop key.length = .of '=' :: (value ++ behind) := by
        simp
      simp only [keyRun, afterKey, List.drop_succ_cons, List.drop_zero, valueRun]
      rw [if_pos ⟨filled, _, rfl⟩]
      obtain ⟨letter, others, rfl⟩ := List.exists_cons_of_ne_nil filled
      cases value <;> rfl
  | none =>
      have absent : .of '=' ∉ segment := by
        intro equals
        rw [Tag.entry?, if_pos equals] at entry
        cases entry
      have run : (segment ++ behind).takeWhile
          (fun letter => !Tag.endsValue letter && letter ≠ '=') = segment := by
        apply Text.run_eq
        · intro letter member
          have other : letter ≠ '=' := fun same => absent (same ▸ member)
          simp [inside letter member, other]
        · rcases stop with same | same | same <;> rw [same] <;> rfl
      -- A name with an equals sign behind it would be the whole segment.
      have keyless : ¬ ((segment ++ behind).takeWhile Tag.isNameLetter ≠ [] ∧ [.of '='] <+:
          (segment ++ behind).drop ((segment ++ behind).takeWhile Tag.isNameLetter).length) := by
        rintro ⟨_, others, after⟩
        have key := Text.run_append_drop Tag.isNameLetter (segment ++ behind)
        have letters := List.all_eq_true.mp
          (List.all_takeWhile (p := Tag.isNameLetter) (l := segment ++ behind))
        generalize (segment ++ behind).takeWhile Tag.isNameLetter = name at key letters after
        rw [← after] at key
        rw [← key, Text.run_eq] at run
        · subst run
          obtain rfl := List.append_cancel_left key
          simp at stop
        · intro letter member
          have isLetter := letters letter member
          have other : letter ≠ '=' := by
            rintro rfl
            cases isLetter
          have inSegment := Tag.isSegmentLetter_of_isNameLetter isLetter
          rw [Tag.isSegmentLetter, Bool.and_eq_true] at inSegment
          simp [inSegment.1, other]
        · rfl
      simp only [run]
      rw [if_neg keyless, if_pos isSegment.nonempty]
      obtain ⟨letter, others, rfl⟩ := List.exists_cons_of_ne_nil isSegment.nonempty
      rfl

theorem readHead_ending (selfClosing : Bool) (tail : Text) :
    readHead (Tag.ending selfClosing ++ tail) =
      ⟨[⟨.punctuation, Tag.ending selfClosing⟩], .root⟩ := by
  cases selfClosing <;> rfl

/-- The start of a head of the grammar has a namespace if the head has one. -/
theorem headStart_written {head : Head} (wellFormed : head.WellFormed) (tail : Text) :
    headStart? (head.written ++ tail) =
      some ⟨Tag.frontLexemes head.space head.name, .head⟩ := by
  have spaced := Head.readSpace_inside wellFormed tail
  rcases head with ⟨space, name, segments, selfClosing⟩
  obtain ⟨_, ⟨filled, letters⟩, _, _⟩ := wellFormed
  let behind := Tag.writtenSegments segments ++ (Tag.ending selfClosing ++ tail)
  have run : (name ++ behind).takeWhile Tag.isNameLetter = name :=
    Text.run_eq letters (Tag.head_behind_name segments selfClosing tail).2
  have whole : Head.inside ⟨space, name, segments, selfClosing⟩ ++ tail =
      Head.writtenSpace space ++ (name ++ behind) := by
    simp only [Head.inside, behind, List.append_assoc]
  show headStart?
    (.of '{' :: .of '{' :: (Head.inside ⟨space, name, segments, selfClosing⟩ ++ tail)) = _
  rw [headStart?, spaced, whole]
  cases space with
  | none =>
      simp only [Head.writtenSpace, List.nil_append, run]
      obtain ⟨letter, others, rfl⟩ := List.exists_cons_of_ne_nil filled
      rfl
  | some kind =>
      have word : (kind.name ++ .of ':' :: (name ++ behind)).takeWhile Tag.isNameLetter = kind.name :=
        Text.run_eq (Tag.isName_kind kind).2 rfl
      simp only [Head.writtenSpace, List.append_assoc, List.cons_append, List.nil_append, word,
        List.drop_left, List.drop_succ_cons, List.drop_zero, run]
      obtain ⟨letter, others, rfl⟩ := List.exists_cons_of_ne_nil filled
      cases kind <;> rfl

/-- The start of a head is read in plain text, also where a fence might be. -/
theorem readRoot_front {head : Head} (wellFormed : head.WellFormed) (atLineStart : Bool)
    (tail : Text) :
    readRoot atLineStart (head.written ++ tail) =
      ⟨Tag.frontLexemes head.space head.name, .head⟩ := by
  obtain ⟨letter, rest, front, isLetter⟩ := Head.inside_head wellFormed
  have noCloser : closer? (head.written ++ tail) = none := by
    rw [closer?, Token.nameAt_beginsHead ⟨letter, rest ++ tail, ?_, isLetter⟩]
    · rfl
    · rw [Head.written, front]
      rfl
  have noFence : fence? (head.written ++ tail) = none := rfl
  have noCode : inlineCode? (head.written ++ tail) = none := rfl
  simp only [headStart_written wellFormed tail, readRoot, noFence, noCode, noCloser,
    ite_self, Option.getD_none, Option.getD_some]

namespace Highlighter

variable {first middle last : Highlighter} {lexemes others : List Lexeme}

theorem Runs.append (run : Runs first lexemes middle) (later : Runs middle others last) :
    Runs first (lexemes ++ others) last := by
  induction run with
  | done => exact later
  | step stepped _ inductionHypothesis =>
      rw [List.append_assoc]
      exact .step stepped (inductionHypothesis later)

theorem Runs.once (stepped : first.step? = some (lexemes, last)) : Runs first lexemes last := by
  have run : Runs first (lexemes ++ []) last := .step stepped (.done last)
  rwa [List.append_nil] at run

/-- A state in which no rule matches is not left. -/
theorem Runs.nothing (run : Runs first lexemes last) (atEnd : first.step? = none) :
    lexemes = [] := by
  cases run with
  | done => rfl
  | step stepped _ =>
      rw [atEnd] at stepped
      cases stepped

/-- What is read and spells the front of the text makes a step over it. -/
theorem step_spelled {next : Mode} (ahead : mode = .root → text ≠ [])
    (found : read mode (Pattern.isLineBorder before) text = ⟨lexemes, next⟩)
    (front : text = spelled lexemes ++ tail) :
    (⟨mode.stack, before, text⟩ : Highlighter).step? =
      some (lexemes, ⟨next.stack, (spelled lexemes).getLast?.or before, tail⟩) := by
  have stepped : (⟨mode.stack, before, text⟩ : Highlighter).step? = _ := step_read ahead
  rw [found] at stepped
  simp only [past, front, List.drop_left] at stepped
  rw [front]
  exact stepped

/-- The parts of a head are read one after the other, and its ending leads back to plain text. -/
theorem runs_parts {segments : List Text} (isSegment : ∀ segment ∈ segments, IsSegment segment)
    (selfClosing : Bool) (tail : Text) (before : Option Letter) :
    Runs ⟨Mode.head.stack, before,
        Tag.writtenSegments segments ++ (Tag.ending selfClosing ++ tail)⟩
      ((segments.map HeadPart.divided).flatMap HeadPart.lexemes ++
        [⟨.punctuation, Tag.ending selfClosing⟩])
      ⟨Mode.root.stack, some (.of '}'), tail⟩ := by
  have inHead {text : Text} : Mode.head = .root → text ≠ [] := fun same => absurd same (by decide)
  induction segments generalizing before with
  | nil =>
      have front : Tag.ending selfClosing ++ tail =
          spelled [⟨.punctuation, Tag.ending selfClosing⟩] ++ tail := by
        simp [spelled]
      have stepped : (⟨Mode.head.stack, before, Tag.ending selfClosing ++ tail⟩ :
          Highlighter).step? = _ :=
        step_spelled inHead (readHead_ending selfClosing tail) front
      cases selfClosing <;> exact .once stepped
  | cons segment others inductionHypothesis =>
      obtain ⟨first, later⟩ := List.forall_mem_cons.mp isSegment
      let behind := Tag.writtenSegments others ++ (Tag.ending selfClosing ++ tail)
      have stop : behind.head? = some (.of ':') ∨ behind.head? = some (.of '/') ∨
          behind.head? = some (.of '}') :=
        Tag.head_behind_segment others (Tag.ending_head selfClosing tail)
      have whole : Tag.writtenSegments (segment :: others) ++ (Tag.ending selfClosing ++ tail) =
          .of ':' :: (segment ++ behind) := by
        simp [Tag.writtenSegments, behind]
      have stepped : (⟨Mode.head.stack, before, .of ':' :: (segment ++ behind)⟩ :
          Highlighter).step? = _ :=
        step_spelled inHead (readHead_part first stop)
          (by rw [spelled_part, HeadPart.written_divided]; rfl)
      rw [whole, List.map_cons, List.flatMap_cons, List.append_assoc]
      exact .step stepped (inductionHypothesis later _)

/-- A head of the grammar is read in plain text, which is gone on with behind it. -/
theorem runs_head {head : Head} (wellFormed : head.WellFormed) (tail : Text)
    (before : Option Letter) :
    Runs ⟨Mode.root.stack, before, head.written ++ tail⟩
      (head.tag.lexemes (head.segments.map .divided)) ⟨Mode.root.stack, some (.of '}'), tail⟩ := by
  have front : head.written ++ tail = spelled (Tag.frontLexemes head.space head.name) ++
      (Tag.writtenSegments head.segments ++ (Tag.ending head.selfClosing ++ tail)) := by
    rw [spelled_front, Head.written, Head.inside]
    simp
  have stepped : (⟨Mode.root.stack, before, head.written ++ tail⟩ : Highlighter).step? = _ :=
    step_spelled (fun _ => List.cons_ne_nil _ _) (readRoot_front wellFormed _ tail) front
  exact .step stepped (runs_parts wellFormed.segments head.selfClosing tail _)

/-- What is read behind a run goes on with what is read in its last state. -/
theorem ofText_of_runs {text tail : Text} {letter : Option Letter}
    (run : Runs (.ofText (normalized text)) lexemes ⟨Mode.root.stack, letter, tail⟩) :
    Lexeme.ofText text = lexemes ++ readAll .root (Pattern.isLineBorder letter) tail := by
  obtain ⟨_, later⟩ := runs_readAll .root letter tail
  obtain ⟨_, ended⟩ := runs_ofText text
  obtain ⟨others, rest, same⟩ := run_continues (run.append later) ended step_end
  rw [← same, rest.nothing step_end, List.append_nil]

end Highlighter

/-- A text that begins with a head is cut as its tag says: first the front with the namespace and
the name, then part by part what the tag holds, and then the ending. The lexemes spell the head, and
behind it the text is read as plain text. -/
theorem ofText_head {text : Text} {tag : Tag}
    (read : Token.readAt text 0 text.length = .ok (some (.opening ⟨tag, 0, text.length⟩)))
    (rest : Text) (plain : .of '\r' ∉ text ++ rest) :
    ∃ (parts : List HeadPart) (tail : Text),
      tag.arguments = parts.filterMap HeadPart.argument? ∧
      tag.parameters = Table.ofEntries (parts.filterMap HeadPart.parameter?) ∧
      spelled (tag.lexemes parts) = text ∧ normalized (text ++ rest) = text ++ tail ∧
      Highlighter.Runs (.ofText (normalized (text ++ rest))) (tag.lexemes parts)
        ⟨[.root], some (.of '}'), tail⟩ ∧
      ofText (text ++ rest) = tag.lexemes parts ++ readAll .root false tail := by
  obtain ⟨head, wellFormed, ends, written, -, rfl⟩ :=
    (Token.readAt_opening_iff (Nat.le_refl _)).mp read
  have whole : text = head.written := by
    rw [← written, Text.slice_eq_take, List.drop_zero, Nat.sub_zero, List.take_length]
  subst whole
  have last : head.written.getLast? ≠ some (.of '\n') := by
    rw [getLast?_written]
    decide
  have cut := normalized_append rest head.written_ne_nil
    (show some (Letter.of '{') ≠ some (Letter.of '\n') by decide) last
    (show some (Letter.of '{') ≠ some (Letter.of '\uFEFF') by decide) plain
  have run := Highlighter.runs_head wellFormed
    ((rest.reverse.dropWhile (· = .of '\n')).reverse ++ [.of '\n']) none
  rw [← cut] at run
  exact ⟨head.segments.map .divided, _, (Tag.filterMap_argument _).symm,
    congrArg Table.ofEntries (Tag.filterMap_parameter _).symm, spelled_head head, cut, run,
    Highlighter.ofText_of_runs run⟩

/-- Equal signs in values, empty values and code behind the head do not mislead the highlighter. -/
theorem ofText_head_labelled :
    let head : Head := ⟨some .ui, "badge", ["label=a=b", "x", "y="], true⟩
    let rest : Text := "\x60{{ui}}\x60\n"
    Token.readAt head.written 0 head.written.length =
        .ok (some (.opening ⟨head.tag, 0, head.written.length⟩)) ∧
      .of '\r' ∉ head.written ++ rest ∧
      ∃ parts tail, spelled (head.tag.lexemes parts) = head.written ∧
        ofText (head.written ++ rest) = head.tag.lexemes parts ++ readAll .root false tail := by
  intro head rest
  have read : Token.readAt head.written 0 head.written.length =
      .ok (some (.opening ⟨head.tag, 0, head.written.length⟩)) :=
    (Token.readAt_opening_iff (Nat.le_refl _)).mpr
      ⟨head, by decide, Nat.le_refl _, by decide, rfl, rfl⟩
  have plain : .of '\r' ∉ head.written ++ rest := by decide
  obtain ⟨parts, tail, _, _, spells, _, _, cut⟩ := ofText_head read rest plain
  exact ⟨read, plain, parts, tail, spells, cut⟩

end Lexeme
end Flourish
