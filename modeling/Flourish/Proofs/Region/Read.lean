/-
This file compares what is read in place with what is read from the text that is seen. Main
statement: a token is read at a place of a region as from the letters between that place and the
limit.
-/

import Flourish.Proofs.Tag.Grammar
import Flourish.Region.Read

namespace Flourish

namespace Region

open Tag (HeadPart isNameLetter isSegmentLetter breaksHead)

/-- What is seen of a text from a position on. -/
def behind (region : Region) (position : Nat) : Text :=
  Text.slice position region.limit region.text

variable {region : Region} {position : Nat} {word : Text}

theorem drop_behind (region : Region) (position size : Nat) :
    (region.behind position).drop size = region.behind (position + size) := by
  rw [behind, Text.slice, List.drop_drop]
  rfl

theorem head?_behind (region : Region) (position : Nat) :
    (region.behind position).head? = region.letter? position := by
  rw [behind, Text.slice, List.head?_drop, List.getElem?_take, letter?]

theorem map_head?_behind (region : Region) (position : Nat) (test : Letter → Bool) :
    ((region.behind position).head?.map test).getD false = (region.letter? position).any test := by
  rw [head?_behind]
  cases region.letter? position <;> rfl

theorem behind_of_letter {letter : Letter} (found : region.letter? position = some letter) :
    region.behind position = letter :: region.behind (position + 1) := by
  rw [← head?_behind] at found
  obtain ⟨rest, seen⟩ := List.head?_eq_some_iff.mp found
  rw [← drop_behind, seen]
  rfl

theorem behind_eq_nil (absent : region.letter? position = none) : region.behind position = [] := by
  rwa [← head?_behind, List.head?_eq_none_iff] at absent

/-- A word stands in place if it is the first that is seen there. -/
theorem holds_iff (nonempty : word ≠ []) :
    region.holds word position ↔ word <+: region.behind position := by
  have positive := List.length_pos_iff.mpr nonempty
  rw [holds, Bool.and_eq_true, decide_eq_true_iff, List.isPrefixOf_iff_prefix, behind,
    Text.slice_eq_take, List.prefix_take_iff, and_comm]
  apply and_congr_right
  intro _
  omega

/-- The letters of a run are those that are seen and pass the test. -/
theorem runStop_eq (region : Region) (test : Letter → Bool) (position : Nat) :
    region.runStop test position =
      position + ((region.behind position).takeWhile test).length := by
  fun_induction runStop region test position with
  | case1 position passes inductionHypothesis =>
      obtain ⟨letter, found, passed⟩ := (Option.any_eq_true _ _).mp passes
      rw [inductionHypothesis, behind_of_letter found, List.takeWhile_cons_of_pos passed,
        List.length_cons]
      omega
  | case2 position ended =>
      cases found : region.letter? position with
      | none =>
          rw [behind_eq_nil found]
          rfl
      | some letter =>
          rw [found] at ended
          rw [behind_of_letter found, List.takeWhile_cons_of_neg (by simpa using ended)]
          rfl

/-- The text of a run. -/
theorem slice_runStop (region : Region) (test : Letter → Bool) (position : Nat) :
    Text.slice position (region.runStop test position) region.text =
      (region.behind position).takeWhile test := by
  have written : (region.behind position).takeWhile test <+: region.text.drop position := by
    rw [behind, Text.slice_eq_take]
    exact (List.takeWhile_prefix test).trans (List.take_prefix _ _)
  rw [runStop_eq, Text.slice_eq_take, Nat.add_sub_cancel_left]
  exact (List.prefix_iff_eq_take.mp written).symm

/-- What is seen behind a run. -/
theorem behind_runStop (region : Region) (test : Letter → Bool) (position : Nat) :
    region.behind (region.runStop test position) =
      (region.behind position).drop ((region.behind position).takeWhile test).length := by
  rw [drop_behind, runStop_eq]

/-- A word is found in place as it is found in what is seen. -/
theorem find?_eq (nonempty : word ≠ []) (position : Nat) :
    region.find? word position =
      (Text.firstIndex word (region.behind position)).map (position + ·) := by
  fun_induction find? region word position with
  | case1 position fits here =>
      rw [Text.firstIndex_of_isPrefix ((holds_iff nonempty).mp here)]
      rfl
  | case2 position fits elsewhere inductionHypothesis =>
      rw [holds_iff nonempty] at elsewhere
      rw [inductionHypothesis]
      cases found : region.letter? position with
      | none =>
          have seen := behind_eq_nil found
          have later : region.behind (position + 1) = [] := by
            rw [← drop_behind, seen, List.drop_nil]
          rw [seen, later, Text.firstIndex, if_neg (by simpa using nonempty)]
          rfl
      | some letter =>
          rw [behind_of_letter found] at elsewhere ⊢
          rw [Text.firstIndex_cons_of_not_isPrefix elsewhere, Option.map_map]
          congr
          funext index
          exact Nat.add_right_comm _ _ _
  | case3 position short =>
      cases found : Text.firstIndex word (region.behind position) with
      | none => rfl
      | some index =>
          have fits := (Text.firstIndex_isPrefix found).length_le
          rw [drop_behind, behind, Text.slice, List.length_drop, List.length_take] at fits
          have positive := List.length_pos_iff.mpr nonempty
          omega

/-- A closer is read in place as it is read from what is seen. -/
theorem closer?_eq (region : Region) (position : Nat) :
    region.closer? position =
      (Closer.nameAt? (region.behind position)).map (Closer.named · position) := by
  by_cases opens : [.of '{', .of '{', .of '/'] <+: region.behind position
  · have here := (holds_iff (List.cons_ne_nil _ _)).mpr opens
    obtain ⟨rest, seen⟩ := opens
    have later : region.behind (position + 3) = rest := by
      rw [← drop_behind, ← seen]
      rfl
    have size := runStop_eq region isNameLetter (position + 3)
    have run := slice_runStop region isNameLetter (position + 3)
    have after := behind_runStop region isNameLetter (position + 3)
    rw [closer?, if_pos here, ← seen]
    simp only [Closer.nameAt?, List.cons_append, List.nil_append]
    rw [later] at size run after
    rw [← after, run]
    generalize rest.takeWhile isNameLetter = name at size
    generalize region.runStop isNameLetter (position + 3) = stop at size
    have closes : region.holds [.of '}', .of '}'] stop ↔ [.of '}', .of '}'] <+: region.behind stop :=
      holds_iff (List.cons_ne_nil _ _)
    cases name with
    | nil => rw [if_neg (by simp [size]), Option.map_none]
    | cons letter others =>
        rw [List.length_cons] at size
        split
        · next both =>
            obtain ⟨tail, ended⟩ := closes.mp (Bool.and_eq_true_iff.mp both).2
            rw [← ended]
            simp only [List.cons_append, Option.map_some, Closer.named, Option.some.injEq,
              Closer.mk.injEq, true_and, List.length_cons]
            omega
        · next open_ =>
            split
            · trivial
            · next ended nonempty =>
                refine absurd (Bool.and_eq_true_iff.mpr ⟨decide_eq_true ?_, closes.mpr ?_⟩) open_
                · omega
                · rw [ended]
                  exact ⟨_, rfl⟩
            · rfl
  · have here : ¬ region.holds [.of '{', .of '{', .of '/'] position := by
      rwa [holds_iff (List.cons_ne_nil _ _)]
    rw [closer?, if_neg here, Closer.nameAt?]
    · rfl
    · intro rest seen
      exact opens ⟨rest, seen.symm⟩

/-- What is read from a colon on is a segment and what is read behind it. -/
theorem readParts_colon {name : Text} (colon : region.letter? position = some (.of ':')) :
    let stop := region.runStop isSegmentLetter (position + 1)
    Tag.readParts name (region.behind position) =
      if (region.letter? stop).any breaksHead then .error .unterminated
      else
        match HeadPart.ofSegment name (Text.slice (position + 1) stop region.text) with
        | .error fault => .error fault
        | .ok part =>
            match Tag.readParts name (region.behind stop) with
            | .error fault => .error fault
            | .ok (parts, rest) => .ok (part :: parts, rest) := by
  intro stop
  have segment : Text.slice (position + 1) stop region.text = _ :=
    slice_runStop region isSegmentLetter (position + 1)
  have after : region.behind stop = _ := behind_runStop region isSegmentLetter (position + 1)
  rewrite [behind_of_letter colon, Tag.readParts, if_pos rfl, segment, ← map_head?_behind, after]
  rfl

/-- The parts of a head are read in place as they are read from what is seen. -/
theorem readParts_behind (region : Region) (name : Text) (position : Nat) :
    Tag.readParts name (region.behind position) =
      (region.readParts name position).map (Prod.map id region.behind) := by
  fun_induction readParts region name position with
  | case1 position colon stop broken =>
      rw [readParts_colon colon, if_pos broken]
      rfl
  | case2 position colon stop intact fault segmentRead =>
      rw [readParts_colon colon, if_neg intact, segmentRead]
      rfl
  | case3 position colon stop intact part segmentRead fault tailRead inductionHypothesis =>
      rw [readParts_colon colon, if_neg intact, segmentRead, inductionHypothesis, tailRead]
      rfl
  | case4 position colon stop intact part segmentRead parts last tailRead inductionHypothesis =>
      rw [readParts_colon colon, if_neg intact, segmentRead, inductionHypothesis, tailRead]
      rfl
  | case5 position other =>
      cases found : region.letter? position with
      | none =>
          rw [behind_eq_nil found, Tag.readParts]
          exact congrArg Except.ok (congrArg _ (behind_eq_nil found).symm)
      | some letter =>
          rw [found] at other
          have noColon : letter ≠ ':' := fun same => other (congrArg some same)
          rw [behind_of_letter found, Tag.readParts, if_neg noColon, ← behind_of_letter found]
          rfl

/-- The parts of a head are as long as they are written. -/
theorem stop_of_readParts {name : Text} {parts : List HeadPart} {last : Nat}
    (read : region.readParts name position = .ok (parts, last)) :
    last = position + parts.foldr (fun part size => part.size + size) 0 := by
  fun_induction readParts region name position generalizing parts last with
  | case1 => cases read
  | case2 => cases read
  | case3 => cases read
  | case4 position colon stop intact part segmentRead parts last tailRead =>
      rename_i inductionHypothesis
      cases read
      have behind := inductionHypothesis tailRead
      have segment : HeadPart.ofSegment name ((region.behind (position + 1)).takeWhile
          isSegmentLetter) = .ok part := by rwa [slice_runStop] at segmentRead
      obtain ⟨_, rfl⟩ := (HeadPart.ofSegment_eq_ok_iff
        (List.all_eq_true.mp List.all_takeWhile)).mp segment
      have size := congrArg List.length (HeadPart.written_divided
        ((region.behind (position + 1)).takeWhile isSegmentLetter))
      rw [HeadPart.length_written, List.length_cons] at size
      have stops := runStop_eq region isSegmentLetter (position + 1)
      rw [List.foldr_cons, size, behind]
      simp only [stop]
      omega
  | case5 =>
      cases read
      rfl

/-- The ending of a head is read in place as it is read from what is seen. -/
theorem readEnding?_eq (region : Region) (position : Nat) :
    region.readEnding? position =
      (Tag.readEnding? (region.behind position)).map (Prod.map id (position + ·)) := by
  have slash : region.holds [.of '/', .of '}', .of '}'] position ↔ _ :=
    holds_iff (List.cons_ne_nil _ _)
  have brace : region.holds [.of '}', .of '}'] position ↔ _ := holds_iff (List.cons_ne_nil _ _)
  simp only [readEnding?, slash, brace]
  generalize region.behind position = seen
  split
  · next here =>
      obtain ⟨rest, rfl⟩ := here
      rfl
  · next noSlash =>
      split
      · next here =>
          obtain ⟨rest, rfl⟩ := here
          rfl
      · next noBrace =>
          unfold Tag.readEnding?
          split
          · exact absurd ⟨_, rfl⟩ noSlash
          · exact absurd ⟨_, rfl⟩ noBrace
          · rfl

/-- The namespace of a head is read in place as it is read from what is seen. -/
theorem readSpace?_eq (region : Region) (position : Nat) :
    region.readSpace? position =
      (Tag.readSpace? (region.behind position)).map (Prod.map id (position + ·)) := by
  have size := runStop_eq region isNameLetter position
  simp only [readSpace?, Tag.readSpace?, slice_runStop, ← behind_runStop]
  cases TagKind.reserved? ((region.behind position).takeWhile isNameLetter) with
  | none => rfl
  | some kind =>
      by_cases colon : region.letter? (region.runStop isNameLetter position) = some (.of ':')
      · simp only [if_pos colon, behind_of_letter colon]
        rw [size]
        rfl
      · simp only [if_neg colon]
        split
        · next seen =>
            rw [← head?_behind, seen] at colon
            exact absurd rfl colon
        · rfl

/-- The rest of a head is read in place as it is read from what is seen. -/
theorem readTag_eq (region : Region) (space : Option TagKind) (name : Text)
    (position width : Nat) :
    region.readTag space name (position + width + name.length) =
      Except.map (Prod.map id (position + ·))
        (match Tag.readParts name (region.behind (position + width + name.length)) with
        | .error fault => .error fault
        | .ok (parts, rest) =>
            match Tag.readEnding? rest with
            | none => .error (.unfinished name)
            | some (selfClosing, size) =>
                let tag : Tag := {
                  space := space
                  name := name
                  arguments := parts.filterMap HeadPart.argument?
                  parameters := Table.ofEntries (parts.filterMap HeadPart.parameter?)
                  selfClosing := selfClosing
                  body := none }
                let partsSize := parts.foldr (fun part size => part.size + size) 0
                .ok (tag, width + name.length + partsSize + size)) := by
  rw [readTag, readParts_behind]
  cases read : region.readParts name (position + width + name.length) with
  | error fault => rfl
  | ok found =>
      obtain ⟨parts, last⟩ := found
      have stops := stop_of_readParts read
      simp only [Except.map, Prod.map, id_eq, readEnding?_eq]
      cases Tag.readEnding? (region.behind last) with
      | none => rfl
      | some ended =>
          refine congrArg Except.ok (Prod.ext rfl ?_)
          show last + ended.2 = position + (width + name.length + _ + ended.2)
          omega

/-- A head is read in place as it is read from what is seen. -/
theorem readHead_eq (region : Region) (position : Nat) :
    region.readHead position =
      (Tag.readHead (region.behind position)).map (Prod.map id (position + ·)) := by
  have start (space : Option (TagKind × Nat)) :
      ((space.map (Prod.map id (position + ·))).map Prod.snd).getD position =
        position + (space.map Prod.snd).getD 0 := by
    cases space <;> rfl
  simp only [readHead, Tag.readHead, readSpace?_eq, start, slice_runStop]
  simp only [drop_behind, runStop_eq]
  generalize Tag.readSpace? (region.behind position) = space
  generalize (region.behind (position + (space.map Prod.snd).getD 0)).takeWhile isNameLetter = name
  cases space with
  | none => exact readTag_eq _ _ _ _ _
  | some space =>
      cases name with
      | nil => rfl
      | cons letter others => exact readTag_eq _ _ _ _ _

/-- A token is read at a place of a region as from what is seen there. -/
theorem read_eq (region : Region) (position : Nat) :
    region.read position = Token.read position (region.behind position) := by
  by_cases braces : [.of '{', .of '{'] <+: region.behind position
  · have here := (holds_iff (List.cons_ne_nil _ _)).mpr braces
    obtain ⟨rest, seen⟩ := braces
    have later : region.behind (position + 2) = rest := by
      rw [← drop_behind, ← seen]
      rfl
    rw [read, if_pos here, ← head?_behind, later, closer?_eq, readHead_eq, later, ← seen]
    cases rest with
    | nil => rfl
    | cons letter others =>
        simp only [List.head?_cons, List.cons_append, List.nil_append, Token.read]
        split
        · rw [Option.map_map]
          rfl
        · split
          · cases Tag.readHead (letter :: others) <;> rfl
          · rfl
  · have here : ¬ region.holds [.of '{', .of '{'] position := by
      rwa [holds_iff (List.cons_ne_nil _ _)]
    rw [read, if_neg here, Token.read_plain braces]

/-- A failure to read a token is that of a malformed head at the place. -/
theorem malformed_of_read {failure : Failure} (failed : region.read position = .error failure) :
    ∃ fault, failure = (Cause.malformedTag fault).placed position := by
  rw [read_eq] at failed
  exact Token.malformed_of_read failed

/-- Reading fails in no other way than at malformed heads. -/
theorem false_of_read {failure : Failure} (failed : region.read position = .error failure)
    (other : ∀ fault offset, failure = ⟨.malformedTag fault, offset⟩ → False) : False := by
  obtain ⟨fault, placed⟩ := malformed_of_read failed
  exact other fault _ placed

end Region
end Flourish
