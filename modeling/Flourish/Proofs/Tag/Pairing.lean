/-
This file relates the searches for the closers of nested tags. Main statement: a head that waits on
the stack of a search is closed by the closer that a search of its own finds, in the whole text and in
the body of the outer tag alone, and the extents of two such heads are nested or apart.
-/

import Flourish.Proofs.Tag.Cut
import Flourish.Proofs.Tag.Descent
import Flourish.Proofs.Tag.Moved

namespace Flourish.Closer

/-- What a search does to its stack of heads. -/
inductive Mark where
  | pushed (opening : Opening)
  | popped (opening : Opening) (closer : Closer)
  deriving DecidableEq

/-- What a search finds, and what it does to its stack, in order. -/
structure Trace where
  marks : List Mark
  result : Except Failure Closer

def Trace.after (marks : List Mark) (trace : Trace) : Trace :=
  { trace with marks := marks ++ trace.marks }

theorem Trace.after_after (first second : List Mark) (trace : Trace) :
    (trace.after second).after first = trace.after (first ++ second) := by
  simp only [after, List.append_assoc]

/-- The search for the closer of a tag with what it does to its stack. -/
def scan (text : Text) (outer : Nat) (waiting : List Opening) (position : Nat) : Trace :=
  match next text position with
  | .nothing => ⟨[], .error ((Cause.unclosedTag TagKind.ui.name).placed outer)⟩
  | .malformed _ failure _ => ⟨[], .error failure⟩
  | .plain start _ _ => scan text outer waiting (start + 1)
  | .closer closer _ _ =>
      if closer.name = TagKind.ui.name then
        match waiting with
        | [] => ⟨[], .ok closer⟩
        | top :: others => (scan text outer others closer.stop).after [.popped top closer]
      else scan text outer waiting closer.stop
  | .opening opening _ _ =>
      if opening.tag.selfClosing then scan text outer waiting opening.headStop
      else if opening.tag.space = some .ui then
        (scan text outer (opening :: waiting) opening.headStop).after [.pushed opening]
      else
        match specificEnd? text opening with
        | none => ⟨[], .error (missing text opening)⟩
        | some ⟨stop, _⟩ => scan text outer waiting stop
termination_by text.length - position

/-- The search is the one that keeps no record. -/
theorem scan_result (text : Text) (outer : Nat) (waiting : List Opening) (position : Nat) :
    (scan text outer waiting position).result =
      findGenericFrom TagKind.ui.name outer (waiting.map Opening.start) position
        (text.drop position) := by
  fun_induction scan text outer waiting position with
  | case1 waiting position coming => rw [findGenericFrom_next, coming]
  | case2 waiting position start failure behind coming => rw [findGenericFrom_next, coming]
  | case3 waiting position start behind inside coming inductionHypothesis =>
      rw [findGenericFrom_next, coming]
      exact inductionHypothesis
  | case4 position closer ahead inside coming same =>
      rw [findGenericFrom_next, coming]
      exact (if_pos same).symm
  | case5 position closer ahead inside coming same top others inductionHypothesis =>
      rw [findGenericFrom_next, coming]
      exact inductionHypothesis.trans (if_pos same).symm
  | case6 waiting position closer ahead inside coming other inductionHypothesis =>
      rw [findGenericFrom_next, coming]
      exact inductionHypothesis.trans (if_neg other).symm
  | case7 waiting position opening ahead inside coming closed inductionHypothesis =>
      rw [findGenericFrom_next, coming]
      exact inductionHypothesis.trans (if_pos closed).symm
  | case8 waiting position opening ahead inside coming open_ ui inductionHypothesis =>
      rw [findGenericFrom_next, coming]
      simp only [if_neg open_, if_pos ui]
      exact inductionHypothesis
  | case9 waiting position opening ahead inside coming open_ other absent =>
      rw [findGenericFrom_next, coming]
      simp only [if_neg open_, if_neg other, absent]
  | case10 waiting position opening ahead inside coming open_ other stop behind found
      inductionHypothesis =>
      rw [findGenericFrom_next, coming]
      simp only [if_neg open_, if_neg other, found]
      exact inductionHypothesis

/-- A head that is read in a part of a text and waits for a closer, with the closer that its own
search finds in that part. -/
structure Paired (text : Text) (low high : Nat) (opening : Opening) (closer : Closer) : Prop where
  behind : low ≤ opening.start
  read : Token.read opening.start (text.drop opening.start) = .ok (some (.opening opening))
  ui : opening.tag.space = some .ui
  found : findGeneric opening (text.drop opening.headStop) = .ok closer
  ahead : closer.stop ≤ high

/-- Marks in which every head that is pushed in a part of a text is popped by the closer that its own
search finds, and in between only heads of its body are. -/
inductive Matched (text : Text) : Nat → Nat → List Mark → Prop where
  | nil {low high : Nat} (fits : low ≤ high) : Matched text low high []
  | pair {low high : Nat} {opening : Opening} {closer : Closer} {inside later : List Mark}
      (paired : Paired text low high opening closer)
      (within : Matched text opening.headStop closer.start inside)
      (after : Matched text closer.stop high later) :
      Matched text low high (.pushed opening :: (inside ++ .popped opening closer :: later))

variable {text : Text} {low high lowest : Nat} {opening other : Opening} {closer last : Closer}
  {marks : List Mark}

namespace Paired

theorem bounds (paired : Paired text low high opening closer) :
    opening.start < opening.headStop ∧ opening.headStop ≤ closer.start ∧
      closer.start < closer.stop := by
  have head := (Token.read_opening paired.read).2.1
  have content := le_start_of_found paired.found
  omega

theorem widen (paired : Paired text low high opening closer) (below : lowest ≤ low) {highest : Nat}
    (above : high ≤ highest) : Paired text lowest highest opening closer :=
  { paired with
    behind := Nat.le_trans below paired.behind
    ahead := Nat.le_trans paired.ahead above }

end Paired

namespace Matched

theorem le (matched : Matched text low high marks) : low ≤ high := by
  cases matched with
  | nil fits => exact fits
  | pair paired within after =>
      have bounds := paired.bounds
      have behind := paired.behind
      have ahead := paired.ahead
      omega

theorem widen (matched : Matched text low high marks) (below : lowest ≤ low) :
    Matched text lowest high marks := by
  cases matched with
  | nil fits => exact .nil (Nat.le_trans below fits)
  | pair paired within after =>
      exact .pair (paired.widen below (Nat.le_refl _)) within after

/-- A head that is popped is paired with its closer. -/
theorem paired (matched : Matched text low high marks) (member : .popped opening closer ∈ marks) :
    Paired text low high opening closer := by
  induction matched with
  | nil => cases member
  | pair first within after insideHypothesis laterHypothesis =>
      have bounds := first.bounds
      have behind := first.behind
      have ahead := first.ahead
      simp only [List.mem_cons, List.mem_append, reduceCtorEq, false_or, Mark.popped.injEq] at member
      obtain inside | ⟨rfl, rfl⟩ | later := member
      · exact (insideHypothesis inside).widen (by omega) (by omega)
      · exact first
      · exact (laterHypothesis later).widen (by omega) (Nat.le_refl _)

/-- A head that is pushed is popped. -/
theorem exists_popped (matched : Matched text low high marks) (member : .pushed opening ∈ marks) :
    ∃ closer, .popped opening closer ∈ marks := by
  induction matched with
  | nil => cases member
  | pair first within after insideHypothesis laterHypothesis =>
      simp only [List.mem_cons, List.mem_append, reduceCtorEq, false_or, Mark.pushed.injEq] at member
      obtain rfl | inside | later := member
      · exact ⟨_, List.mem_cons_of_mem _ (List.mem_append_right _ List.mem_cons_self)⟩
      · obtain ⟨closer, popped⟩ := insideHypothesis inside
        exact ⟨closer, List.mem_cons_of_mem _ (List.mem_append_left _ popped)⟩
      · obtain ⟨closer, popped⟩ := laterHypothesis later
        exact ⟨closer, List.mem_cons_of_mem _
          (List.mem_append_right _ (List.mem_cons_of_mem _ popped))⟩

end Matched

/-- The first tag ends before the second one, or is written in its content. -/
def BeforeOrWithin (opening : Opening) (closer : Closer) (other : Opening) (last : Closer) : Prop :=
  closer.stop ≤ other.start ∨ other.headStop ≤ opening.start ∧ closer.stop ≤ last.start

/-- Of two tags that are popped, one is before or within the other. -/
theorem Matched.laminar (matched : Matched text low high marks)
    (member : .popped opening closer ∈ marks) (another : .popped other last ∈ marks)
    (distinct : opening ≠ other) :
    BeforeOrWithin opening closer other last ∨ BeforeOrWithin other last opening closer := by
  induction matched with
  | nil => cases member
  | pair first within after insideHypothesis laterHypothesis =>
      simp only [List.mem_cons, List.mem_append, reduceCtorEq, false_or, Mark.popped.injEq]
        at member another
      obtain inside | ⟨rfl, rfl⟩ | later := member <;>
        obtain inside' | ⟨rfl, rfl⟩ | later' := another
      · exact insideHypothesis inside inside'
      · have one := within.paired inside
        exact Or.inl (Or.inr ⟨one.behind, one.ahead⟩)
      · have one := within.paired inside
        have two := after.paired later'
        have bounds := first.bounds
        have ahead := one.ahead
        have behind := two.behind
        exact Or.inl (Or.inl (by omega))
      · have two := within.paired inside'
        exact Or.inr (Or.inr ⟨two.behind, two.ahead⟩)
      · exact absurd rfl distinct
      · have two := after.paired later'
        exact Or.inl (Or.inl two.behind)
      · have one := after.paired later
        have two := within.paired inside'
        have bounds := first.bounds
        have ahead := two.ahead
        have behind := one.behind
        exact Or.inr (Or.inl (by omega))
      · have one := after.paired later
        exact Or.inr (Or.inl one.behind)
      · exact laterHypothesis later later'

/-- What a search does once the body of the last waiting head has ended at a closer. -/
def unwind (text : Text) (outer : Nat) (waiting : List Opening) (closer : Closer) : Trace :=
  match waiting with
  | [] => ⟨[], .ok closer⟩
  | top :: others => (scan text outer others closer.stop).after [.popped top closer]

/-- A search passes a body that ends with a closer, and leaves the stack as it was. -/
theorem scan_body (outer : Nat) (waiting : List Opening) {position : Nat}
    {ahead : position < closer.stop} (ended : body text position = .closed closer ahead) :
    ∃ marks, Matched text position closer.start marks ∧
      scan text outer waiting position = (unwind text outer waiting closer).after marks := by
  fun_induction body text position generalizing waiting closer with
  | case1 => cases ended
  | case2 => cases ended
  | case3 position start behind inside coming inductionHypothesis =>
      obtain ⟨_, ended⟩ := BodyEnd.closed_of_since ended
      obtain ⟨marks, matched, scanned⟩ := inductionHypothesis waiting ended
      rw [scan, coming]
      exact ⟨marks, matched.widen (by omega), scanned⟩
  | case4 position met ahead inside coming same =>
      have read := next_read text position
      rw [coming] at read
      cases ended
      refine ⟨[], .nil read.1, ?_⟩
      rw [scan, coming]
      simp only [if_pos same]
      cases waiting <;> rfl
  | case5 position met passed inside coming other inductionHypothesis =>
      obtain ⟨_, ended⟩ := BodyEnd.closed_of_since ended
      obtain ⟨marks, matched, scanned⟩ := inductionHypothesis waiting ended
      rw [scan, coming]
      exact ⟨marks, matched.widen (by omega), (if_neg other).trans scanned⟩
  | case6 position met passed inside coming closed inductionHypothesis =>
      obtain ⟨_, ended⟩ := BodyEnd.closed_of_since ended
      obtain ⟨marks, matched, scanned⟩ := inductionHypothesis waiting ended
      rw [scan, coming]
      exact ⟨marks, matched.widen (by omega), (if_pos closed).trans scanned⟩
  | case7 position met passed inside coming open_ ui own behind nested nestedHypothesis
      laterHypothesis =>
      -- The nested body is scanned with its head on the stack, and its closer takes that head off.
      have read := next_read text position
      rw [coming] at read
      obtain ⟨_, ended⟩ := BodyEnd.closed_of_since ended
      obtain ⟨within, matchedWithin, scannedWithin⟩ := nestedHypothesis (met :: waiting) nested
      obtain ⟨later, matchedLater, scannedLater⟩ := laterHypothesis waiting ended
      have found : findGeneric met (text.drop met.headStop) = .ok own := by
        rw [findGeneric_body text ui, nested]
        rfl
      refine ⟨.pushed met :: (within ++ .popped met own :: later),
        .pair ⟨read.1, read.2, ui, found, matchedLater.le⟩ matchedWithin matchedLater, ?_⟩
      rw [scan, coming]
      simp only [if_neg open_, if_pos ui, scannedWithin, unwind, scannedLater, Trace.after_after,
        List.singleton_append]
  | case8 => cases ended
  | case9 => cases ended
  | case10 => cases ended
  | case11 position met passed inside coming open_ other stop behind found
      inductionHypothesis =>
      obtain ⟨_, ended⟩ := BodyEnd.closed_of_since ended
      obtain ⟨marks, matched, scanned⟩ := inductionHypothesis waiting ended
      rw [scan, coming]
      simp only [if_neg open_, if_neg other, found]
      exact ⟨marks, matched.widen (by omega), scanned⟩

/-- In the part of the text alone, a head that is paired is read and closed as in the whole text. -/
theorem Paired.alone (paired : Paired text low high opening closer) :
    let part := Text.slice low high text
    ∃ inside : Opening, ∃ within : Closer,
      inside.moved low = opening ∧ within.moved low = closer ∧
        Token.readAt part inside.start part.length = .ok (some (.opening inside)) ∧
        findGeneric inside (Text.slice inside.headStop part.length part) = .ok within := by
  intro part
  have bounds := paired.bounds
  have behind := paired.behind
  have ahead := paired.ahead
  have rest (position : Nat) : Text.slice position part.length part =
      (text.drop (position + low)).take (high - (position + low)) := by
    simp only [part, Text.slice, List.take_length, List.drop_drop, List.drop_take]
    congr 1
    · omega
    · rw [Nat.add_comm]
  have read := Token.read_take paired.read
    (show opening.headStop ≤ high by omega)
  obtain ⟨start, starts⟩ : ∃ start, opening.start = start + low :=
    ⟨opening.start - low, by omega⟩
  rw [starts, Token.read_moved] at read
  obtain ⟨met, readInside, movedMet⟩ := movedResult_eq_ok read
  obtain ⟨token, rfl, movedToken⟩ := Option.map_eq_some_iff.mp movedMet
  cases token with
  | closer closer => cases movedToken
  | opening inside =>
      cases movedToken
      have begins : inside.start = start := Nat.add_right_cancel starts
      have found := findGenericFrom_take paired.found ahead
      obtain ⟨within, foundInside, movedWithin⟩ := movedResult_eq_ok
        ((find_moved .generic inside low _).symm.trans found)
      refine ⟨inside, within, rfl, movedWithin, ?_, ?_⟩
      · rw [Token.readAt, rest, begins]
        exact readInside
      · rw [rest]
        exact foundInside

/-- The search of a tag ends as the one that keeps a record, also where it fails. Each head that
waits on the stack of a successful search is taken off it. The closer that takes it off is what a
search of its own finds, and stands in the body of the outer tag. In that body alone the head is read
and closed by the same letters. The extents of two such heads are nested or apart. -/
theorem findGeneric_scan (text : Text) (limit : Nat) {outer : Opening}
    (ui : outer.tag.space = some .ui) :
    let trace := scan (text.take limit) outer.start [] outer.headStop
    trace.result = findGeneric outer (Text.slice outer.headStop limit text) ∧
    ∀ last, findGeneric outer (Text.slice outer.headStop limit text) = .ok last →
      let part := Text.slice outer.headStop last.start text
      (∀ opening, .pushed opening ∈ trace.marks →
        ∃ closer, .popped opening closer ∈ trace.marks) ∧
      (∀ opening closer, .popped opening closer ∈ trace.marks →
        Token.readAt text opening.start limit = .ok (some (.opening opening)) ∧
        findGeneric opening (Text.slice opening.headStop limit text) = .ok closer ∧
        opening.headStop ≤ closer.start ∧ closer.stop ≤ last.start ∧
        ∃ inside : Opening, ∃ within : Closer,
          inside.moved outer.headStop = opening ∧ within.moved outer.headStop = closer ∧
            Token.readAt part inside.start part.length = .ok (some (.opening inside)) ∧
            findGeneric inside (Text.slice inside.headStop part.length part) = .ok within) ∧
      ∀ opening closer other another, .popped opening closer ∈ trace.marks →
        .popped other another ∈ trace.marks → opening ≠ other →
          BeforeOrWithin opening closer other another ∨
            BeforeOrWithin other another opening closer := by
  intro trace
  have searched : trace.result = findGeneric outer (Text.slice outer.headStop limit text) := by
    rw [findGeneric, (closerPolicy_of_ui ui).2]
    exact scan_result (text.take limit) outer.start [] outer.headStop
  refine ⟨searched, fun last found => ?_⟩
  intro part
  have answered := (findGeneric_body (text.take limit) ui).symm.trans found
  obtain ⟨_, ended⟩ := BodyEnd.closed_of_answer answered
  obtain ⟨marks, matched, scanned⟩ := scan_body outer.start [] ended
  have scanned : trace = ⟨marks ++ [], .ok last⟩ := scanned
  rw [List.append_nil] at scanned
  -- The body ends before the limit, so it is the same part of the text as of what is seen.
  have stops : last.stop ≤ (text.take limit).length := stop_le_of_found found
  have starts := le_start_of_found found
  have seen : Text.slice outer.headStop last.start (text.take limit) = part := by
    rw [List.length_take] at stops
    rw [Text.slice, List.take_take, Nat.min_eq_left (by omega)]
    rfl
  rw [scanned]
  refine ⟨fun opening pushed => matched.exists_popped pushed, ?_, ?_⟩
  · intro opening closer popped
    have paired := matched.paired popped
    have alone := paired.alone
    rw [seen] at alone
    exact ⟨paired.read, paired.found, paired.bounds.2.1, paired.ahead, alone⟩
  · intro opening closer other another popped poppedOther distinct
    exact matched.laminar popped poppedOther distinct

/-- Three heads wait on the stack, the second of them above the first. The closer in the content of
the tag with a closer of its own takes none off. -/
theorem findGeneric_scan_nested :
    let text : Text :=
      "{{ui:a}}{{ui:b}}{{ui:c}}{{/ui}}{{/ui}}{{it}}{{/ui}}{{/it}}{{ui:d}}{{/ui}}{{/ui}}."
    let outer : Opening := ⟨⟨some .ui, "a", [], [], false, none⟩, 0, 8⟩
    let inner : Opening := ⟨⟨some .ui, "c", [], [], false, none⟩, 16, 24⟩
    let trace := scan (text.take 81) outer.start [] outer.headStop
    outer.tag.space = some .ui ∧
      findGeneric outer (Text.slice outer.headStop 81 text) = .ok (named "ui" 73) ∧
      trace.marks.length = 6 ∧ .popped inner (named "ui" 24) ∈ trace.marks ∧
      findGeneric inner (Text.slice inner.headStop 81 text) = .ok (named "ui" 24) := by
  intro text outer inner trace
  have found : findGeneric outer (Text.slice outer.headStop 81 text) = .ok (named "ui" 73) := by
    with_unfolding_all rfl
  have popped : .popped inner (named "ui" 24) ∈ trace.marks := by
    with_unfolding_all decide
  obtain ⟨_, paired, _⟩ := (findGeneric_scan text 81 rfl).2 _ found
  exact ⟨rfl, found, by with_unfolding_all rfl, popped, (paired inner _ popped).2.1⟩

end Flourish.Closer
