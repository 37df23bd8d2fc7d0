/-
This file compares a region with the text cut out of it. Main statement: the tags, the closers and
the failures in a part of a text are the same, some letters further on, as in that part alone.
-/

import Flourish.Proofs.Region.Read
import Flourish.Proofs.Span.Join
import Flourish.Proofs.Tag.Ahead
import Flourish.Proofs.Tag.Descent
import Flourish.Proofs.Tag.Moved
import Flourish.Region.Match
import Flourish.Span.Refine

namespace Flourish

namespace Region

variable {region : Region} {position : Nat}

/-- The first closer in place has the name of the first closer that is seen. -/
theorem name_firstCloser? (region : Region) (position : Nat) :
    (region.firstCloser? position).map Closer.name =
      Closer.firstName? (region.behind position) := by
  fun_induction firstCloser? region position with
  | case1 position inside closer found =>
      rw [closer?_eq] at found
      obtain ⟨name, named, rfl⟩ := Option.map_eq_some_iff.mp found
      cases seen : region.behind position with
      | nil =>
          rw [seen] at named
          cases named
      | cons letter rest =>
          rw [seen] at named
          rw [Closer.firstName?, named]
          rfl
  | case2 position inside absent inductionHypothesis =>
      rw [closer?_eq, Option.map_eq_none_iff] at absent
      rw [inductionHypothesis, ← drop_behind]
      cases seen : region.behind position with
      | nil => rfl
      | cons letter rest =>
          rw [seen] at absent
          rw [Closer.firstName?, absent]
          rfl
  | case3 position outside =>
      rw [behind_eq_nil (if_neg outside)]
      rfl

/-- The closer of a tag with a closer of its own is found in place as in what is seen. -/
theorem findSpecific_eq (region : Region) (opening : Opening) :
    region.findSpecific opening =
      Closer.findSpecific opening (region.behind opening.headStop) := by
  have other := region.name_firstCloser? opening.headStop
  have nonempty : closerForm opening.tag.closerName ≠ [] := List.cons_ne_nil _ _
  simp only [findSpecific, Closer.findSpecific, find?_eq nonempty, ← other]
  cases Text.firstIndex (closerForm opening.tag.closerName)
    (region.behind opening.headStop) with
  | some index => rfl
  | none => cases region.firstCloser? opening.headStop <;> rfl

/-- The search for a closer goes on at the next braces. -/
theorem findGenericFrom_seen (region : Region) (name : Text) (outer : Nat) (inner : List Nat)
    (position : Nat) :
    Closer.findGenericFrom name outer inner position (region.behind position) =
      match region.find? [.of '{', .of '{'] position with
      | none => .error ((Cause.unclosedTag name).placed outer)
      | some start => Closer.findGenericFrom name outer inner start (region.behind start) := by
  rw [Closer.findGenericFrom_braces, find?_eq (List.cons_ne_nil _ _)]
  cases Text.firstIndex [.of '{', .of '{'] (region.behind position) with
  | none => rfl
  | some index => simp only [Option.map_some, drop_behind]

/-- Braces that are found stand in what is seen. -/
theorem lt_length_of_find? {start : Nat}
    (found : region.find? [.of '{', .of '{'] position = some start) :
    start < (region.text.take region.limit).length := by
  rw [find?_eq (List.cons_ne_nil _ _)] at found
  obtain ⟨index, sought, rfl⟩ := Option.map_eq_some_iff.mp found
  exact Closer.lt_length_of_firstIndex sought

/-- The search for a closer passes the token at the next braces. -/
theorem findGenericFrom_met {name : Text} {outer start : Nat} {inner : List Nat} {token : Token}
    (found : region.find? [.of '{', .of '{'] position = some start)
    (met : region.read start = .ok (some token)) :
    Closer.findGenericFrom name outer inner position (region.behind position) =
      (Closer.pursue name inner (region.behind token.stop) token).conclusion name outer := by
  rw [read_eq] at met
  rw [findGenericFrom_seen, found]
  exact Closer.findGenericFrom_token (lt_length_of_find? found) met

/-- The closer of a tag that is matched through the tags opened after it is found in place as in
what is seen. -/
theorem findGenericFrom_eq (region : Region) (name : Text) (outer : Nat) (inner : List Nat)
    (position : Nat) :
    region.findGenericFrom name outer inner position =
      Closer.findGenericFrom name outer inner position (region.behind position) := by
  fun_induction findGenericFrom region name outer inner position with
  | case1 inner position start found met inductionHypothesis =>
      rw [read_eq] at met
      rw [inductionHypothesis, findGenericFrom_seen region name outer inner position, found]
      exact (Closer.findGenericFrom_plain (lt_length_of_find? found) met).symm
  | case2 position start found closer met same =>
      rw [findGenericFrom_met found met, Closer.pursue, if_pos same]
      rfl
  | case3 position start found closer met same head others inductionHypothesis =>
      rw [inductionHypothesis, findGenericFrom_met found met, Closer.pursue, if_pos same]
      rfl
  | case4 inner position start found closer met other inductionHypothesis =>
      rw [inductionHypothesis, findGenericFrom_met found met]
      simp only [Closer.pursue, if_neg other]
      rfl
  | case5 inner position start found opening met closed inductionHypothesis =>
      rw [inductionHypothesis, findGenericFrom_met found met, Closer.pursue, if_pos closed]
      rfl
  | case6 inner position start found opening met open_ policy same inductionHypothesis =>
      rw [inductionHypothesis, findGenericFrom_met found met, Closer.pursue, if_neg open_, policy]
      simp only [if_pos same]
      rfl
  | case7 inner position start found opening met open_ policy other inductionHypothesis =>
      rw [inductionHypothesis, findGenericFrom_met found met, Closer.pursue, if_neg open_, policy]
      simp only [if_neg other]
      rfl
  | case8 inner position start found opening met open_ policy failure sought =>
      rw [findSpecific_eq] at sought
      rw [findGenericFrom_met found met, Closer.pursue, if_neg open_, policy]
      simp only [Token.stop, sought]
      rfl
  | case9 inner position start found opening met open_ policy closer sought
      inductionHypothesis =>
      have passed := le_stop_of_findSpecific sought
      rw [findSpecific_eq] at sought
      rw [inductionHypothesis, findGenericFrom_met found met, Closer.pursue, if_neg open_, policy]
      simp only [Token.stop, sought, drop_behind, Nat.add_sub_of_le passed]
      rfl
  | case10 inner position start found failure met =>
      rw [read_eq] at met
      rw [findGenericFrom_seen, found]
      exact (Closer.findGenericFrom_failed (lt_length_of_find? found) met).symm
  | case11 inner position absent => rw [findGenericFrom_seen, absent]

/-- The closer of a tag is found in place as in what is seen. -/
theorem findCloser_eq (region : Region) (policy : CloserPolicy) (opening : Opening) :
    region.findCloser policy opening =
      Closer.find policy opening (region.behind opening.headStop) := by
  cases policy with
  | generic => exact findGenericFrom_eq ..
  | specific => exact findSpecific_eq ..

/-- A token ends before the limit. -/
theorem stop_le_of_read {token : Token} (met : region.read position = .ok (some token)) :
    token.stop ≤ region.limit := by
  rw [read_eq] at met
  have braces := (Token.braces_of_read met).length_le
  have ends := Token.stop_le_of_read met
  simp only [behind, Text.slice, List.length_drop, List.length_take, List.length_cons,
    List.length_nil] at braces ends
  omega

/-- A closer that is found ends before the limit. -/
theorem stop_le_of_findCloser {policy : CloserPolicy} {opening : Opening} {closer : Closer}
    (found : region.findCloser policy opening = .ok closer) : closer.stop ≤ region.limit := by
  have sought := Closer.find_sought opening (region.behind opening.headStop) policy
  rw [← findCloser_eq, found] at sought
  obtain ⟨index, rfl, written⟩ := sought
  have fits := written.length_le
  rw [Closer.length_closerForm, drop_behind, behind, Text.slice, List.length_drop,
    List.length_take] at fits
  simp only [Closer.named]
  omega

variable {text : Text} {start limit : Nat}

theorem behind_whole (text : Text) (position : Nat) :
    (whole text).behind position = text.drop position := by
  rw [behind, Text.slice, whole, List.take_length]

/-- What is seen of a part alone is what is seen of the text in that part. -/
theorem behind_whole_slice (text : Text) (start limit place : Nat) :
    (whole (Text.slice start limit text)).behind place =
      behind ⟨text, limit⟩ (place + start) := by
  rw [behind_whole, behind, Text.slice, Text.slice, List.drop_drop, Nat.add_comm]

theorem read_moved (text : Text) (start limit place : Nat) :
    read ⟨text, limit⟩ (place + start) =
      movedResult start (Option.map (Token.moved start))
        ((whole (Text.slice start limit text)).read place) := by
  rw [read_eq, read_eq, behind_whole_slice, Token.read_moved]

theorem findCloser_moved (text : Text) (start limit : Nat) (policy : CloserPolicy)
    (opening : Opening) :
    findCloser ⟨text, limit⟩ policy (opening.moved start) =
      movedResult start (Closer.moved · start)
        ((whole (Text.slice start limit text)).findCloser policy opening) := by
  rw [findCloser_eq, findCloser_eq, behind_whole_slice, Closer.find_moved]
  rfl

theorem find?_moved {word : Text} (nonempty : word ≠ []) (text : Text) (start limit place : Nat) :
    find? ⟨text, limit⟩ word (place + start) =
      ((whole (Text.slice start limit text)).find? word place).map (· + start) := by
  rw [find?_eq nonempty, find?_eq nonempty, behind_whole_slice, Option.map_map]
  congr
  funext index
  exact Nat.add_right_comm _ _ _

theorem literalFrom_moved (start stop letters : Nat) :
    Span.literalFrom (start + letters) (stop + letters) =
      (Span.literalFrom start stop).map (Span.moved letters) := by
  simp only [Span.literalFrom, Nat.add_lt_add_iff_right]
  split <;> rfl

/-- The spans that divide a part of a text are those of the part alone. -/
theorem refineFrom_moved (inside : start ≤ limit) (fits : limit ≤ text.length)
    (literal place : Nat) :
    Span.refineFrom ⟨text, limit⟩ (literal + start) (place + start) =
      (Span.refineFrom (whole (Text.slice start limit text)) literal place).map
        (List.map (Span.moved start)) := by
  have braces (place : Nat) :=
    find?_moved (List.cons_ne_nil (Letter.of '{') [.of '{']) text start limit place
  have read := read_moved text start limit
  have ends : (whole (Text.slice start limit text)).limit + start = limit := by
    rw [whole, Text.length_slice fits, Nat.sub_add_cancel inside]
  generalize whole (Text.slice start limit text) = alone at braces read ends
  fun_induction Span.refineFrom alone literal place with
  | case1 literal place there found token met inductionHypothesis =>
      have stops : (token.moved start).stop = token.stop + start := by cases token <;> rfl
      rw [Span.refineFrom_step, braces, found]
      simp only [Option.map_some, read, met, movedResult, stops, inductionHypothesis,
        literalFrom_moved]
      cases Span.refineFrom alone token.stop token.stop with
      | error failure => rfl
      | ok later => simp only [Except.map, List.map_append]; rfl
  | case2 literal place there found met inductionHypothesis =>
      rw [Span.refineFrom_step, braces, found]
      simp only [Option.map_some, read, met, movedResult, Option.map_none]
      rw [Nat.add_right_comm, inductionHypothesis]
  | case3 literal place there found fault offset met inductionHypothesis =>
      rw [Span.refineFrom_step, braces, found]
      simp only [Option.map_some, read, met, movedResult, Failure.moved]
      rw [Nat.add_right_comm, inductionHypothesis]
  | case4 literal place there found failure other met =>
      exact (false_of_read met other).elim
  | case5 literal place absent =>
      rw [Span.refineFrom_step, braces, absent]
      simp only [Option.map_none, Except.map, ← literalFrom_moved, ends]

/-- What is read at a place of a part of a text, a tag, a closer or a failure, is what is read in
the part alone, as many letters further on as the part begins, and so is what is found as the closer
of a tag whose head is in the part. The part alone is read and searched as the letters from a place
on or behind a head are. No token and no closer reaches over the end of the part, and the spans that
divide it are those of the part alone. -/
theorem read_part (text : Text) {start limit : Nat} (inside : start ≤ limit)
    (fits : limit ≤ text.length) :
    let region : Region := ⟨text, limit⟩
    let part := Text.slice start limit text
    (∀ place, region.read (place + start) =
        movedResult start (Option.map (Token.moved start)) ((whole part).read place) ∧
      (whole part).read place = Token.read place (part.drop place)) ∧
    (∀ policy opening, region.findCloser policy (opening.moved start) =
        movedResult start (Closer.moved · start) ((whole part).findCloser policy opening) ∧
      (whole part).findCloser policy opening =
        Closer.find policy opening (part.drop opening.headStop)) ∧
    (∀ position token, region.read position = .ok (some token) → token.stop ≤ limit) ∧
    (∀ policy opening closer, region.findCloser policy opening = .ok closer →
      closer.stop ≤ limit) ∧
    Span.refineFrom region start start =
      (Span.refineFrom (whole part) 0 0).map (List.map (Span.moved start)) := by
  intro region part
  refine ⟨fun place => ⟨read_moved text start limit place, ?_⟩,
    fun policy opening => ⟨findCloser_moved text start limit policy opening, ?_⟩,
    fun position token => stop_le_of_read, fun policy opening closer => stop_le_of_findCloser, ?_⟩
  · rw [read_eq, behind_whole]
  · rw [findCloser_eq, behind_whole]
  · have moved := refineFrom_moved inside fits 0 0
    rwa [Nat.zero_add] at moved

/-- The closer loses its last letter at the end of the part, and one more closer follows. -/
theorem read_part_cut :
    let text : Text := "ab{{it}}cd{{/it}}{{/it}}"
    let opening : Opening := ⟨⟨none, "it", [], [], false, none⟩, 0, 6⟩
    2 ≤ 16 ∧ 16 ≤ text.length ∧ read ⟨text, 16⟩ 2 = .ok (some (.opening (opening.moved 2))) ∧
      findCloser ⟨text, 16⟩ .specific (opening.moved 2) =
        .error ((Cause.unclosedTag "it").placed 2) := by
  intro text opening
  have inside : 2 ≤ 16 := by decide
  have fits : 16 ≤ text.length := by decide
  obtain ⟨reads, closers, _⟩ := read_part text inside fits
  refine ⟨inside, fits, ?_, ?_⟩
  · rw [(reads 0).1, (reads 0).2]
    with_unfolding_all rfl
  · rw [(closers .specific opening).1, (closers .specific opening).2]
    with_unfolding_all rfl

end Region
end Flourish
