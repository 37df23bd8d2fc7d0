/-
This file gives the grammar of heads. Main statements: a head of the grammar is read wherever it is
written, a head that is read is one of the grammar, and a key has the value that its last segment
gives it.
-/

import Flourish.Proofs.Table
import Flourish.Proofs.Tag.Written

namespace Flourish

namespace Tag

/-- A name that a head may bear. -/
def IsName (name : Text) : Prop :=
  name ≠ [] ∧ ∀ letter ∈ name, isNameLetter letter

instance (name : Text) : Decidable (IsName name) :=
  decidable_of_iff (name ≠ [] ∧ name.all isNameLetter) (and_congr_right fun _ => List.all_eq_true)

theorem not_mem_of_isNameLetter {name : Text} {letter : Letter}
    (letters : ∀ letter ∈ name, isNameLetter letter) (other : isNameLetter letter = false) :
    letter ∉ name := by
  intro member
  rw [letters letter member] at other
  cases other

theorem isName_kind (kind : TagKind) : IsName kind.name := by
  cases kind <;> decide

theorem reserved_name {kind : TagKind} (reserved : kind ∈ TagKind.reserved) :
    TagKind.reserved? kind.name = some kind := by
  revert kind
  decide

/-- A segment of a head. What stands before its first equals sign is a name. -/
structure IsSegment (segment : Text) : Prop where
  nonempty : segment ≠ []
  letters : ∀ letter ∈ segment,
    letter ≠ ':' ∧ letter ≠ '/' ∧ letter ≠ '}' ∧ letter ≠ '{' ∧ letter ≠ '\n'
  key : ∀ key value, segment = key ++ .of '=' :: value → .of '=' ∉ key → IsName key

theorem isSegmentLetter_iff {letter : Letter} : isSegmentLetter letter ↔
    letter ≠ ':' ∧ letter ≠ '/' ∧ letter ≠ '}' ∧ letter ≠ '{' ∧ letter ≠ '\n' := by
  simp [isSegmentLetter, endsValue, breaksHead, and_assoc]

theorem isSegmentLetter_of_isNameLetter {letter : Letter} (isLetter : isNameLetter letter) :
    isSegmentLetter letter := by
  rw [isSegmentLetter_iff]
  refine ⟨?_, ?_, ?_, ?_, ?_⟩ <;>
    · rintro rfl
      cases isLetter

/-- The key and the value of a segment with an equals sign. -/
def entry? (segment : Text) : Option (Text × Text) :=
  if .of '=' ∈ segment then
    some (segment.takeWhile (· ≠ .of '='), (segment.dropWhile (· ≠ .of '=')).drop 1)
  else none

/-- A segment has an entry if it is a key and a value around its first equals sign. -/
theorem entry_eq_some_iff {segment key value : Text} :
    entry? segment = some (key, value) ↔ segment = key ++ .of '=' :: value ∧ .of '=' ∉ key := by
  constructor
  · intro found
    unfold entry? at found
    split at found
    · next equals =>
        cases found
        refine ⟨(segment_split equals).symm, ?_⟩
        intro member
        have other := List.all_eq_true.mp List.all_takeWhile (Letter.of '=') member
        simp at other
    · cases found
  · rintro ⟨rfl, absent⟩
    have before : (key ++ .of '=' :: value).takeWhile (· ≠ .of '=') = key := by
      apply Text.run_eq
      · intro letter member
        simpa using fun same : letter = '=' => absent (same ▸ member)
      · simp
    have after : (key ++ .of '=' :: value).dropWhile (· ≠ .of '=') = .of '=' :: value := by
      have whole :=
        List.takeWhile_append_dropWhile (p := (· ≠ .of '=')) (l := key ++ .of '=' :: value)
      rw [before] at whole
      exact List.append_cancel_left whole
    unfold entry?
    rw [if_pos (by simp), before, after]
    rfl

/-- The part that a segment writes. -/
def HeadPart.divided (segment : Text) : HeadPart :=
  match entry? segment with
  | some (key, value) => .parameter key value
  | none => .argument segment

/-- A segment is read by its entry, whose key must be a name. -/
theorem HeadPart.ofSegment_entry (name segment : Text) :
    HeadPart.ofSegment name segment =
      if segment = [] then .error (.emptyArgument name)
      else
        match entry? segment with
        | some (key, value) =>
            if IsName key then .ok (.parameter key value) else .error (.parameterName key name)
        | none => .ok (.argument segment) := by
  by_cases empty : segment = []
  · simp [ofSegment, empty]
  · by_cases equals : .of '=' ∈ segment
    · have named (key : Text) : (key.isEmpty || !key.all isNameLetter) = true ↔ ¬ IsName key := by
        simp only [IsName, Bool.or_eq_true, List.isEmpty_iff, Bool.not_eq_true', List.all_eq_false]
        grind
      simp only [ofSegment, entry?, List.isEmpty_iff, empty, if_false, List.contains_iff_mem, equals,
        if_true, named, ite_not]
    · simp [ofSegment, entry?, empty, equals]

/-- What the grammar asks of a segment can be computed from its entry. -/
theorem isSegment_iff {segment : Text} : IsSegment segment ↔
    segment ≠ [] ∧ (∀ letter ∈ segment, isSegmentLetter letter) ∧
      ∀ entry ∈ entry? segment, IsName entry.1 := by
  constructor
  · intro isSegment
    refine ⟨isSegment.nonempty, ?_, ?_⟩
    · intro letter member
      exact isSegmentLetter_iff.mpr (isSegment.letters letter member)
    · intro entry found
      obtain ⟨whole, absent⟩ := entry_eq_some_iff.mp (Option.mem_def.mp found)
      exact isSegment.key _ _ whole absent
  · rintro ⟨nonempty, letters, named⟩
    constructor
    · exact nonempty
    · intro letter member
      exact isSegmentLetter_iff.mp (letters letter member)
    · intro key value whole absent
      exact named (key, value) (entry_eq_some_iff.mpr ⟨whole, absent⟩)

instance (segment : Text) : Decidable (IsSegment segment) :=
  decidable_of_iff
    (segment ≠ [] ∧ segment.all isSegmentLetter ∧ ∀ entry ∈ entry? segment, IsName entry.1)
    (by rw [isSegment_iff, List.all_eq_true])

/-- A segment is read if it is one of the grammar. -/
theorem HeadPart.ofSegment_eq_ok_iff {name segment : Text} {part : HeadPart}
    (letters : ∀ letter ∈ segment, isSegmentLetter letter) :
    HeadPart.ofSegment name segment = .ok part ↔ IsSegment segment ∧ part = .divided segment := by
  rw [ofSegment_entry, isSegment_iff, iff_true_intro letters, true_and, divided]
  by_cases empty : segment = []
  · simp [empty]
  · cases found : entry? segment with
    | none => simp [empty, eq_comm]
    | some entry =>
        by_cases named : IsName entry.1
        · simp [empty, named, eq_comm]
        · simp [empty, named]

theorem HeadPart.written_divided (segment : Text) :
    (divided segment).written = .of ':' :: segment := by
  unfold divided
  cases found : entry? segment with
  | none => rfl
  | some entry =>
      obtain ⟨key, value⟩ := entry
      rw [(entry_eq_some_iff.mp found).1]
      rfl

/-- Segments as they are written behind a name. -/
def writtenSegments (segments : List Text) : Text :=
  segments.flatMap (.of ':' :: ·)

theorem flatMap_written_divided (segments : List Text) :
    (segments.map HeadPart.divided).flatMap HeadPart.written = writtenSegments segments := by
  rw [List.flatMap_map, writtenSegments]
  congr
  funext segment
  exact HeadPart.written_divided segment

/-- What is read behind a name are segments that are written there. -/
theorem readParts_segments {name text rest : Text} {parts : List HeadPart}
    (read : readParts name text = .ok (parts, rest)) :
    ∃ segments, (∀ segment ∈ segments, IsSegment segment) ∧ parts = segments.map .divided ∧
      text = writtenSegments segments ++ rest := by
  fun_induction readParts name text generalizing parts rest with
  | case1 =>
      cases read
      exact ⟨[], by simp, rfl, rfl⟩
  | case2 => cases read
  | case3 => cases read
  | case4 => cases read
  | case5 text segment after intact part segmentRead others last =>
      rename_i tailRead inductionHypothesis
      cases read
      obtain ⟨segments, isSegment, rfl, behind⟩ := inductionHypothesis tailRead
      obtain ⟨first, rfl⟩ := (HeadPart.ofSegment_eq_ok_iff
        (List.all_eq_true.mp List.all_takeWhile)).mp segmentRead
      refine ⟨segment :: segments, List.forall_mem_cons.mpr ⟨first, isSegment⟩, rfl, ?_⟩
      have whole := Text.run_append_drop isSegmentLetter text
      rw [writtenSegments, List.flatMap_cons, ← writtenSegments, List.append_assoc, ← behind]
      exact congrArg (.of ':' :: ·) whole.symm
  | case6 =>
      cases read
      exact ⟨[], by simp, rfl, rfl⟩

/-- A segment ends at the colon of the next one or at the ending of the head. -/
theorem head_behind_segment (segments : List Text) {rest : Text}
    (ends : rest.head? = some (.of '/') ∨ rest.head? = some (.of '}')) :
    (writtenSegments segments ++ rest).head? = some (.of ':') ∨
      (writtenSegments segments ++ rest).head? = some (.of '/') ∨
      (writtenSegments segments ++ rest).head? = some (.of '}') := by
  cases segments with
  | nil => exact Or.inr ends
  | cons => exact Or.inl rfl

/-- Segments are read as they are written, if what follows ends a head. -/
theorem readParts_writtenSegments {name rest : Text} {segments : List Text}
    (isSegment : ∀ segment ∈ segments, IsSegment segment)
    (ends : rest.head? = some (.of '/') ∨ rest.head? = some (.of '}')) :
    readParts name (writtenSegments segments ++ rest) = .ok (segments.map .divided, rest) := by
  induction segments with
  | nil =>
      cases rest with
      | nil => simp at ends
      | cons letter others =>
          have other : letter ≠ ':' := by
            rintro rfl
            simp at ends
          rw [writtenSegments, List.flatMap_nil, List.nil_append, readParts, if_neg other]
          rfl
  | cons segment others inductionHypothesis =>
      obtain ⟨first, later⟩ := List.forall_mem_cons.mp isSegment
      have letters : ∀ letter ∈ segment, isSegmentLetter letter := by
        intro letter member
        exact isSegmentLetter_iff.mpr (first.letters letter member)
      let tail := writtenSegments others ++ rest
      have stop : tail.head? = some (.of ':') ∨ tail.head? = some (.of '/') ∨
          tail.head? = some (.of '}') :=
        head_behind_segment others ends
      have run : (segment ++ tail).takeWhile isSegmentLetter = segment := by
        apply Text.run_eq letters
        rcases stop with same | same | same <;> rw [same] <;> rfl
      have intact : (tail.head?.map breaksHead).getD false = false := by
        rcases stop with same | same | same <;> rw [same] <;> rfl
      have whole : writtenSegments (segment :: others) ++ rest = .of ':' :: (segment ++ tail) := by
        simp [writtenSegments, tail]
      have read : HeadPart.ofSegment name segment = .ok (.divided segment) :=
        (HeadPart.ofSegment_eq_ok_iff letters).mpr ⟨first, rfl⟩
      rw [whole, readParts, if_pos rfl]
      simp only [run, List.drop_left, intact, read, tail, inductionHypothesis later]
      rfl

end Tag

/-- What a head consists of: its namespace, its name, its segments, and whether it closes itself. -/
structure Head where
  space : Option TagKind
  name : Text
  segments : List Text
  selfClosing : Bool

namespace Head

open Tag (IsName IsSegment)

/-- A head of the grammar. A name that segments follow is no namespace if none stands before it. -/
structure WellFormed (head : Head) : Prop where
  space : ∀ kind ∈ head.space, kind ∈ TagKind.reserved
  name : IsName head.name
  bare : head.space = none → head.segments ≠ [] → ∀ kind ∈ TagKind.reserved, head.name ≠ kind.name
  segments : ∀ segment ∈ head.segments, IsSegment segment

instance (head : Head) : Decidable head.WellFormed :=
  decidable_of_iff
    ((∀ kind ∈ head.space, kind ∈ TagKind.reserved) ∧ IsName head.name ∧
      (head.space = none → head.segments ≠ [] → ∀ kind ∈ TagKind.reserved, head.name ≠ kind.name) ∧
      ∀ segment ∈ head.segments, IsSegment segment)
    ⟨fun ⟨space, name, bare, segments⟩ => ⟨space, name, bare, segments⟩,
      fun wellFormed =>
        ⟨wellFormed.space, wellFormed.name, wellFormed.bare, wellFormed.segments⟩⟩

/-- The namespace of a head as it is written. -/
def writtenSpace : Option TagKind → Text
  | none => []
  | some kind => kind.name ++ [.of ':']

/-- A head without its opening braces as it is written. -/
def inside (head : Head) : Text :=
  writtenSpace head.space ++ (head.name ++ (Tag.writtenSegments head.segments ++
    Tag.ending head.selfClosing))

/-- A head as it is written. -/
def written (head : Head) : Text :=
  .of '{' :: .of '{' :: head.inside

theorem written_ne_nil (head : Head) : head.written ≠ [] :=
  List.cons_ne_nil _ _

/-- A head has two braces at each end. -/
theorem length_written_ge (head : Head) : 4 ≤ head.written.length := by
  have ends : 2 ≤ (Tag.ending head.selfClosing).length := by
    cases head.selfClosing <;> decide
  simp only [written, inside, List.length_cons, List.length_append]
  omega

/-- The tag of a head. -/
def tag (head : Head) : Tag where
  space := head.space
  name := head.name
  arguments := head.segments.filter (.of '=' ∉ ·)
  parameters := Table.ofEntries (head.segments.filterMap Tag.entry?)
  selfClosing := head.selfClosing
  body := none

end Head

namespace Tag

/-- What a reader takes for a namespace depends on the name at the front and on what follows it. -/
theorem readSpace_name {name tail : Text} (letters : ∀ letter ∈ name, isNameLetter letter)
    (stop : (tail.head?.map isNameLetter).getD false = false) :
    readSpace? (name ++ tail) =
      if tail.head? = some (.of ':') then
        (TagKind.reserved? name).map fun kind => (kind, name.length + 1)
      else none := by
  have word : (name ++ tail).takeWhile isNameLetter = name := Text.run_eq letters stop
  simp only [readSpace?, word, List.drop_left]
  cases TagKind.reserved? name with
  | none => simp
  | some kind =>
      cases tail with
      | nil => rfl
      | cons letter others =>
          by_cases colon : letter = ':'
          · simp [colon]
          · simp [colon]

theorem readEnding_ending (selfClosing : Bool) (rest : Text) :
    readEnding? (ending selfClosing ++ rest) = some (selfClosing, (ending selfClosing).length) := by
  cases selfClosing <;> rfl

theorem ending_head (selfClosing : Bool) (rest : Text) :
    (ending selfClosing ++ rest).head? = some (.of '/') ∨
      (ending selfClosing ++ rest).head? = some (.of '}') := by
  cases selfClosing
  · exact Or.inr rfl
  · exact Or.inl rfl

/-- What follows the name of a head begins with a colon if there are segments. -/
theorem head_behind_name (segments : List Text) (selfClosing : Bool) (rest : Text) :
    ((writtenSegments segments ++ (ending selfClosing ++ rest)).head? = some (.of ':') ↔
        segments ≠ []) ∧
      ((writtenSegments segments ++ (ending selfClosing ++ rest)).head?.map isNameLetter).getD false =
        false := by
  cases segments with
  | nil =>
      cases selfClosing
      · exact ⟨by simp [writtenSegments, ending], rfl⟩
      · exact ⟨by simp [writtenSegments, ending], rfl⟩
  | cons segment others => exact ⟨by simp [writtenSegments], rfl⟩

theorem filterMap_argument (segments : List Text) :
    (segments.map HeadPart.divided).filterMap HeadPart.argument? =
      segments.filter (.of '=' ∉ ·) := by
  induction segments with
  | nil => rfl
  | cons segment others inductionHypothesis =>
      rw [List.map_cons, List.filterMap_cons, inductionHypothesis]
      by_cases equals : .of '=' ∈ segment <;>
        simp [HeadPart.divided, entry?, equals, HeadPart.argument?]

theorem filterMap_parameter (segments : List Text) :
    (segments.map HeadPart.divided).filterMap HeadPart.parameter? = segments.filterMap entry? := by
  rw [List.filterMap_map]
  congr
  funext segment
  by_cases equals : .of '=' ∈ segment <;>
    simp [HeadPart.divided, entry?, equals, HeadPart.parameter?]

end Tag

namespace Head

variable {head : Head}

theorem readSpace_inside (wellFormed : head.WellFormed) (rest : Text) :
    Tag.readSpace? (head.inside ++ rest) =
      head.space.map fun kind => (kind, (writtenSpace head.space).length) := by
  rcases head with ⟨space, name, segments, selfClosing⟩
  obtain ⟨spaceReserved, isName, bare, _⟩ := wellFormed
  cases space with
  | none =>
      obtain ⟨colon, stop⟩ := Tag.head_behind_name segments selfClosing rest
      simp only [inside, writtenSpace, List.nil_append, List.append_assoc]
      rw [Tag.readSpace_name isName.2 stop]
      split
      · next begins =>
          have unreserved : TagKind.reserved? name = none := by
            apply List.find?_eq_none.mpr
            intro kind reserved
            simpa [eq_comm] using bare rfl (colon.mp begins) kind reserved
          rw [unreserved]
          rfl
      · rfl
  | some kind =>
      have reserved := Tag.reserved_name (spaceReserved kind rfl)
      simp only [inside, writtenSpace, List.append_assoc, List.cons_append, List.nil_append]
      rw [Tag.readSpace_name (Tag.isName_kind kind).2 rfl, reserved]
      simp

/-- A head of the grammar is read wherever it is written. -/
theorem readHead_inside (wellFormed : head.WellFormed) (rest : Text) :
    Tag.readHead (head.inside ++ rest) = .ok (head.tag, head.inside.length) := by
  have spaced := readSpace_inside wellFormed rest
  rcases head with ⟨space, name, segments, selfClosing⟩
  obtain ⟨_, isName, _, isSegment⟩ := wellFormed
  let tail := Tag.writtenSegments segments ++ (Tag.ending selfClosing ++ rest)
  have whole : inside ⟨space, name, segments, selfClosing⟩ ++ rest =
      writtenSpace space ++ (name ++ tail) := by
    simp only [inside, tail, List.append_assoc]
  have size : ((space.map fun kind => (kind, (writtenSpace space).length)).map Prod.snd).getD 0 =
      (writtenSpace space).length := by
    cases space <;> rfl
  have word : (name ++ tail).takeWhile Tag.isNameLetter = name :=
    Text.run_eq isName.2 (Tag.head_behind_name segments selfClosing rest).2
  have parts : Tag.readParts name tail =
      .ok (segments.map .divided, Tag.ending selfClosing ++ rest) :=
    Tag.readParts_writtenSegments isSegment (Tag.ending_head selfClosing rest)
  have kept : (space.map fun kind => (kind, (writtenSpace space).length)).map Prod.fst = space := by
    cases space <;> rfl
  rw [whole] at spaced ⊢
  simp only [Tag.readHead, spaced, size, List.drop_left, word, kept]
  split
  · exact absurd rfl isName.1
  · simp only [parts, Tag.readEnding_ending, Tag.filterMap_argument, Tag.filterMap_parameter,
      ← Tag.length_flatMap_written, Tag.flatMap_written_divided, tag, inside, List.length_append,
      Nat.add_assoc]

/-- A namespace that is read is reserved and stands at the front of the text. -/
theorem readSpace_writtenSpace (text : Text) :
    let space := (Tag.readSpace? text).map Prod.fst
    (∀ kind ∈ space, kind ∈ TagKind.reserved) ∧ writtenSpace space <+: text ∧
      ((Tag.readSpace? text).map Prod.snd).getD 0 = (writtenSpace space).length := by
  intro space
  cases read : Tag.readSpace? text with
  | none => simp [space, read, writtenSpace]
  | some found =>
      obtain ⟨kind, size⟩ := found
      obtain ⟨length, written⟩ := Tag.readSpace_written read
      simp only [space, read, Option.map_some, Option.getD_some]
      refine ⟨?_, written, length.symm⟩
      intro other same
      cases same
      simp only [Tag.readSpace?] at read
      split at read
      · next reserved _ =>
          cases read
          exact List.mem_of_find?_eq_some reserved
      · cases read

/-- Where no namespace is read, a name that segments follow is none. -/
theorem bare_of_readSpace (letters : ∀ letter ∈ head.name, Tag.isNameLetter letter)
    (bare : head.space = none) {rest : Text} (read : Tag.readSpace? (head.inside ++ rest) = none)
    (followed : head.segments ≠ []) : ∀ kind ∈ TagKind.reserved, head.name ≠ kind.name := by
  intro kind reserved same
  obtain ⟨colon, stop⟩ := Tag.head_behind_name head.segments head.selfClosing rest
  have front : head.inside ++ rest = head.name ++
      (Tag.writtenSegments head.segments ++ (Tag.ending head.selfClosing ++ rest)) := by
    simp only [inside, bare, writtenSpace, List.nil_append, List.append_assoc]
  rw [front, Tag.readSpace_name letters stop, if_pos (colon.mpr followed), same,
    Tag.reserved_name reserved] at read
  cases read

/-- A head that is read is one of the grammar, and it is written at the front of the text. -/
theorem exists_of_readHead {text : Text} {tag : Tag} {size : Nat}
    (begins : ∃ letter rest, text = letter :: rest ∧ Tag.isNameLetter letter)
    (read : Tag.readHead text = .ok (tag, size)) :
    ∃ head : Head, head.WellFormed ∧ head.inside <+: text ∧ head.inside.length = size ∧
      tag = head.tag := by
  obtain ⟨reserved, ⟨after, whole⟩, spaceSize⟩ := readSpace_writtenSpace text
  have behindSpace : text.drop (((Tag.readSpace? text).map Prod.snd).getD 0) = after := by
    rw [spaceSize]
    generalize writtenSpace _ = front at whole
    rw [← whole, List.drop_left]
  simp only [Tag.readHead, behindSpace] at read
  split at read
  · cases read
  · next named =>
      have word := Text.run_append_drop Tag.isNameLetter after
      have letters := List.all_eq_true.mp (List.all_takeWhile (p := Tag.isNameLetter) (l := after))
      -- Behind a namespace the reader asks for a name; else the text itself begins with one.
      have nonempty : after.takeWhile Tag.isNameLetter ≠ [] := by
        intro empty
        cases space : Tag.readSpace? text with
        | some found => exact named found.1 found.2 space empty
        | none =>
            obtain ⟨letter, following, rfl, isLetter⟩ := begins
            rw [space] at whole
            rw [show after = letter :: following from whole,
              List.takeWhile_cons_of_pos isLetter] at empty
            cases empty
      generalize after.takeWhile Tag.isNameLetter = own at read word letters nonempty
      split at read
      · cases read
      · next parts rest partsRead =>
          split at read
          · cases read
          · next selfClosing endingSize endingRead =>
              cases read
              obtain ⟨segments, isSegment, rfl, behind⟩ := Tag.readParts_segments partsRead
              obtain ⟨endingLength, others, ended⟩ := Tag.readEnding_written endingRead
              let head : Head :=
                ⟨(Tag.readSpace? text).map Prod.fst, own, segments, selfClosing⟩
              have stands : head.inside ++ others = text := by
                simp only [head, inside, List.append_assoc, ended, ← behind, word, whole]
              refine ⟨head, ⟨reserved, ⟨nonempty, letters⟩, ?_, isSegment⟩, ⟨others, stands⟩, ?_, ?_⟩
              · intro bare
                apply bare_of_readSpace letters bare
                rw [stands]
                exact Option.map_eq_none_iff.mp bare
              · simp only [head, inside, List.length_append, spaceSize, ← Tag.length_flatMap_written,
                  Tag.flatMap_written_divided, endingLength, Nat.add_assoc]
              · simp only [head, Head.tag, Tag.filterMap_argument, Tag.filterMap_parameter]

/-- A key has the value that its last segment gives it. -/
theorem find?_parameters {key value : Text} :
    head.tag.parameters.find? key = some value ↔
      .of '=' ∉ key ∧ ∃ before after, head.segments = before ++ (key ++ .of '=' :: value) :: after ∧
        ∀ other, key ++ .of '=' :: other ∉ after := by
  rw [tag, Table.find?_ofEntries_eq_some_iff]
  constructor
  · rintro ⟨earlier, later, entries, last⟩
    obtain ⟨before, rest, whole, _, found⟩ := List.filterMap_eq_append_iff.mp entries
    obtain ⟨between, segment, after, restWhole, skipped, entry, rfl⟩ :=
      List.filterMap_eq_cons_iff.mp found
    obtain ⟨segmentWhole, absent⟩ := Tag.entry_eq_some_iff.mp entry
    refine ⟨absent, before ++ between, after, ?_, ?_⟩
    · rw [whole, restWhole, segmentWhole, List.append_assoc]
    · intro other member
      have written := List.mem_filterMap.mpr
        ⟨_, member, Tag.entry_eq_some_iff.mpr ⟨rfl, absent⟩⟩
      exact last _ written rfl
  · rintro ⟨absent, before, after, whole, last⟩
    have entry : Tag.entry? (key ++ .of '=' :: value) = some (key, value) :=
      Tag.entry_eq_some_iff.mpr ⟨rfl, absent⟩
    refine ⟨before.filterMap Tag.entry?, after.filterMap Tag.entry?, ?_, ?_⟩
    · rw [whole, List.filterMap_append, List.filterMap_cons_some entry]
    · rintro ⟨other, otherValue⟩ member rfl
      obtain ⟨segment, segmentMember, found⟩ := List.mem_filterMap.mp member
      obtain ⟨rfl, _⟩ := Tag.entry_eq_some_iff.mp found
      exact last otherValue segmentMember

theorem inside_head (wellFormed : head.WellFormed) :
    ∃ letter rest, head.inside = letter :: rest ∧ Tag.isNameLetter letter := by
  have front {name : Text} (isName : Tag.IsName name) (others : Text) :
      ∃ letter rest, name ++ others = letter :: rest ∧ Tag.isNameLetter letter := by
    obtain ⟨letter, rest, rfl⟩ := List.exists_cons_of_ne_nil isName.1
    exact ⟨letter, rest ++ others, rfl, isName.2 letter List.mem_cons_self⟩
  rw [inside]
  cases head.space with
  | none => exact front wellFormed.name _
  | some kind =>
      rw [writtenSpace, List.append_assoc]
      exact front (Tag.isName_kind kind) _

end Head
end Flourish
