/-
This file matches tags by recursive descent: the body of a tag is followed through the tags opened in
it, each of which has a body of its own. Main statement: the search for a closer that keeps the heads
that wait on a stack ends as the descent does.
-/

import Flourish.Proofs.Tag.Found

namespace Flourish.Closer

/-- What comes next from a position on in a text of some size. -/
inductive Next (size position : Nat) where
  | nothing
  | malformed (start : Nat) (failure : Failure) (behind : position ≤ start)
  | plain (start : Nat) (behind : position ≤ start) (inside : start < size)
  | closer (closer : Closer) (ahead : position < closer.stop) (inside : position < size)
  | opening (opening : Opening) (ahead : position < opening.headStop) (inside : position < size)

/-- Two braces that are found stand in the text. -/
theorem lt_length_of_firstIndex {text : Text} {position index : Nat}
    (found : Text.firstIndex [.of '{', .of '{'] (text.drop position) = some index) :
    position + index < text.length := by
  have written := (Text.firstIndex_isPrefix found).length_le
  simp only [List.drop_drop, List.length_drop, List.length_cons, List.length_nil] at written
  omega

/-- The next two braces from a position on, and what is read there. -/
def next (text : Text) (position : Nat) : Next text.length position :=
  match found : Text.firstIndex [.of '{', .of '{'] (text.drop position) with
  | none => .nothing
  | some index =>
      have inside := lt_length_of_firstIndex found
      match read : Token.read (position + index) (text.drop (position + index)) with
      | .error failure => .malformed (position + index) failure (by omega)
      | .ok none => .plain (position + index) (by omega) inside
      | .ok (some (.closer closer)) =>
          have ahead : position + index < closer.stop := Token.lt_stop_of_read read
          .closer closer (by omega) (by omega)
      | .ok (some (.opening opening)) =>
          have ahead : position + index < opening.headStop := Token.lt_stop_of_read read
          .opening opening (by omega) (by omega)

/-- Behind the first exact closer of a tag with a closer of its own. -/
def specificEnd? (text : Text) (opening : Opening) :
    Option { stop : Nat // opening.headStop ≤ stop } :=
  (Text.firstIndex (closerForm opening.tag.closerName) (text.drop opening.headStop)).map
    fun index => ⟨opening.headStop + index + (closerForm opening.tag.closerName).length, by omega⟩

/-- The failure of a tag whose own closer is missing: another closer follows, or none does. -/
def missing (text : Text) (opening : Opening) : Failure :=
  match firstName? (text.drop opening.headStop) with
  | some other =>
      (Cause.mismatchedCloser (some opening.tag.closerName) other).placed opening.start
  | none => (Cause.unclosedTag opening.tag.closerName).placed opening.start

/-- How the body that begins at a position ends: with its closer, with the end of the text, or with a
failure of a tag in it. -/
inductive BodyEnd (position : Nat) where
  | closed (closer : Closer) (ahead : position < closer.stop)
  | ranOut
  | failed (failure : Failure)

namespace BodyEnd

variable {position later : Nat}

/-- The end of a later part of a body is the end of the body. -/
def since (behind : position ≤ later) : BodyEnd later → BodyEnd position
  | .closed closer ahead => .closed closer (Nat.lt_of_le_of_lt behind ahead)
  | .ranOut => .ranOut
  | .failed failure => .failed failure

theorem closed_of_since {behind : position ≤ later} {ended : BodyEnd later} {closer : Closer}
    {ahead : position < closer.stop} (closed : ended.since behind = .closed closer ahead) :
    ∃ later, ended = .closed closer later := by
  cases ended <;> cases closed
  exact ⟨_, rfl⟩

theorem failed_of_since {behind : position ≤ later} {ended : BodyEnd later} {failure : Failure}
    (failed : ended.since behind = .failed failure) : ended = .failed failure := by
  cases ended <;> cases failed
  rfl

/-- What is found for the tag at `outer` that has the body. -/
def answer (outer : Nat) : BodyEnd position → Except Failure Closer
  | .closed closer _ => .ok closer
  | .ranOut => .error ((Cause.unclosedTag TagKind.ui.name).placed outer)
  | .failed failure => .error failure

theorem closed_of_answer {outer : Nat} {ended : BodyEnd position} {closer : Closer}
    (found : ended.answer outer = .ok closer) : ∃ ahead, ended = .closed closer ahead := by
  cases ended <;> cases found
  exact ⟨_, rfl⟩

end BodyEnd

/-- The end of the body that begins at a position of a text. Braces that are no token, heads that
close themselves and closers of other tags are passed over. A tag with a closer of its own is passed
with all up to that closer, and a tag like the outer one with its own body. -/
def body (text : Text) (position : Nat) : BodyEnd position :=
  match next text position with
  | .nothing => .ranOut
  | .malformed _ failure _ => .failed failure
  | .plain start _ _ => (body text (start + 1)).since (by omega)
  | .closer closer ahead _ =>
      if closer.name = TagKind.ui.name then .closed closer ahead
      else (body text closer.stop).since (Nat.le_of_lt ahead)
  | .opening opening ahead _ =>
      if opening.tag.selfClosing then (body text opening.headStop).since (Nat.le_of_lt ahead)
      else if opening.tag.space = some .ui then
        match body text opening.headStop with
        | .closed closer behind => (body text closer.stop).since (by omega)
        | .ranOut => .ranOut
        | .failed failure => .failed failure
      else
        match specificEnd? text opening with
        | none => .failed (missing text opening)
        | some ⟨stop, behind⟩ => (body text stop).since (by omega)
termination_by text.length - position

/-- What comes next is read where it stands. -/
def Next.Read (text : Text) {position : Nat} : Next text.length position → Prop
  | .nothing => True
  | .malformed start failure _ => Token.read start (text.drop start) = .error failure
  | .plain start _ _ => Token.read start (text.drop start) = .ok none
  | .closer met _ _ =>
      position ≤ met.start ∧ Token.read met.start (text.drop met.start) = .ok (some (.closer met))
  | .opening met _ _ =>
      position ≤ met.start ∧ Token.read met.start (text.drop met.start) = .ok (some (.opening met))

theorem next_read (text : Text) (position : Nat) : (next text position).Read text := by
  generalize same : next text position = result
  unfold next at same
  split at same
  · subst same
    trivial
  · split at same
    · next read =>
      subst same
      exact read
    · next read =>
      subst same
      exact read
    · next closer read =>
      subst same
      have start : closer.start = _ := congrArg Closer.start (Token.read_closer read).1
      simp only [named] at start
      simp only [Next.Read, start]
      exact ⟨Nat.le_add_right _ _, read⟩
    · next opening read =>
      subst same
      simp only [Next.Read, (Token.read_opening read).1]
      exact ⟨Nat.le_add_right _ _, read⟩

/-- The search passes what stands before the next two braces. -/
theorem findGenericFrom_braces (name : Text) (outer : Nat) (inner : List Nat) (position : Nat)
    (text : Text) :
    findGenericFrom name outer inner position text =
      match Text.firstIndex [.of '{', .of '{'] text with
      | none => .error ((Cause.unclosedTag name).placed outer)
      | some index => findGenericFrom name outer inner (position + index) (text.drop index) := by
  induction text generalizing position with
  | nil =>
      rw [findGenericFrom]
      rfl
  | cons letter rest inductionHypothesis =>
      by_cases braces : [.of '{', .of '{'] <+: letter :: rest
      · have found : Text.firstIndex [.of '{', .of '{'] (letter :: rest) = some 0 := by
          rw [Text.firstIndex, if_pos (by simpa using braces)]
        rw [found]
        rfl
      · rw [findGenericFrom, Token.read_plain braces, inductionHypothesis,
          Text.firstIndex_cons_of_not_isPrefix braces]
        cases Text.firstIndex [.of '{', .of '{'] rest with
        | none => rfl
        | some index =>
            simp only [Option.map_some, List.drop_succ_cons]
            rw [Nat.add_right_comm, Nat.add_assoc]

variable {text : Text} {position outer : Nat} {inner : List Nat} {name : Text}

theorem findGenericFrom_failed {failure : Failure} (inside : position < text.length)
    (read : Token.read position (text.drop position) = .error failure) :
    findGenericFrom name outer inner position (text.drop position) = .error failure := by
  rw [List.drop_eq_getElem_cons inside] at read ⊢
  rw [findGenericFrom, read]

theorem findGenericFrom_plain (inside : position < text.length)
    (read : Token.read position (text.drop position) = .ok none) :
    findGenericFrom name outer inner position (text.drop position) =
      findGenericFrom name outer inner (position + 1) (text.drop (position + 1)) := by
  rw [List.drop_eq_getElem_cons inside] at read ⊢
  rw [findGenericFrom, read]

theorem findGenericFrom_token {token : Token} (inside : position < text.length)
    (read : Token.read position (text.drop position) = .ok (some token)) :
    findGenericFrom name outer inner position (text.drop position) =
      (pursue name inner (text.drop token.stop) token).conclusion name outer := by
  have ahead := Token.lt_stop_of_read read
  have behind : (text.drop (position + 1)).drop (token.stop - position - 1) =
      text.drop token.stop := by
    rw [List.drop_drop]
    congr 1
    omega
  rw [List.drop_eq_getElem_cons inside] at read ⊢
  rw [findGenericFrom_pursue read, behind]

/-- A tag like the outer one is matched through the tags opened after it. -/
theorem closerPolicy_of_ui {tag : Tag} (ui : tag.space = some .ui) :
    tag.closerPolicy = .generic ∧ tag.closerName = TagKind.ui.name := by
  simp only [Tag.closerPolicy, Tag.closerName, ui, and_self]

theorem closerPolicy_of_other {tag : Tag} (other : tag.space ≠ some .ui) :
    tag.closerPolicy = .specific := by
  unfold Tag.closerPolicy
  split
  · next ui => exact absurd ui other
  · rfl

/-- The search for the closer of a specific tag finds its first exact closer. -/
theorem findSpecific_specificEnd (text : Text) (opening : Opening) :
    match specificEnd? text opening with
    | none =>
        findSpecific opening (text.drop opening.headStop) = .error (missing text opening)
    | some stop =>
        ∃ closer, findSpecific opening (text.drop opening.headStop) = .ok closer ∧
          closer.stop = stop := by
  simp only [specificEnd?, findSpecific, missing]
  cases Text.firstIndex (closerForm opening.tag.closerName) (text.drop opening.headStop) with
  | none =>
      simp only [Option.map_none]
      cases firstName? (text.drop opening.headStop) <;> rfl
  | some index => exact ⟨_, rfl, stop_named _ _⟩

/-- The search for the closer of a tag, by what comes next. -/
theorem findGenericFrom_next (text : Text) (position outer : Nat) (inner : List Nat) :
    findGenericFrom TagKind.ui.name outer inner position (text.drop position) =
      match next text position with
      | .nothing => .error ((Cause.unclosedTag TagKind.ui.name).placed outer)
      | .malformed _ failure _ => .error failure
      | .plain start _ _ =>
          findGenericFrom TagKind.ui.name outer inner (start + 1) (text.drop (start + 1))
      | .closer closer _ _ =>
          if closer.name = TagKind.ui.name then
            match inner with
            | [] => .ok closer
            | _ :: others =>
                findGenericFrom TagKind.ui.name outer others closer.stop (text.drop closer.stop)
          else findGenericFrom TagKind.ui.name outer inner closer.stop (text.drop closer.stop)
      | .opening opening _ _ =>
          if opening.tag.selfClosing then
            findGenericFrom TagKind.ui.name outer inner opening.headStop
              (text.drop opening.headStop)
          else if opening.tag.space = some .ui then
            findGenericFrom TagKind.ui.name outer (opening.start :: inner) opening.headStop
              (text.drop opening.headStop)
          else
            match specificEnd? text opening with
            | none => .error (missing text opening)
            | some stop =>
                findGenericFrom TagKind.ui.name outer inner stop (text.drop stop) := by
  rw [findGenericFrom_braces]
  generalize same : next text position = result
  unfold next at same
  split at same
  · next absent =>
    subst same
    rw [absent]
  · next index found =>
    have inside := lt_length_of_firstIndex found
    simp only [found, List.drop_drop]
    split at same
    · next failure read =>
      subst same
      exact findGenericFrom_failed inside read
    · next read =>
      subst same
      exact findGenericFrom_plain inside read
    · next closer read =>
      subst same
      rw [findGenericFrom_token inside read]
      simp only [pursue, Token.stop]
      split
      · cases inner <;> rfl
      · rfl
    · next opening read =>
      subst same
      rw [findGenericFrom_token inside read]
      simp only [pursue, Token.stop]
      by_cases closed : opening.tag.selfClosing
      · rw [if_pos closed, if_pos closed]
        rfl
      rw [if_neg closed, if_neg closed]
      by_cases ui : opening.tag.space = some .ui
      · rw [if_pos ui, (closerPolicy_of_ui ui).1, (closerPolicy_of_ui ui).2]
        rfl
      · rw [if_neg ui, closerPolicy_of_other ui]
        have ends := findSpecific_specificEnd text opening
        cases specific : specificEnd? text opening with
        | none =>
            rw [specific] at ends
            simp only [ends]
            rfl
        | some stop =>
            rw [specific] at ends
            obtain ⟨closer, found, stops⟩ := ends
            simp only [found, Pursuit.conclusion, List.drop_drop]
            rw [← Nat.add_sub_assoc (headStop_le_stop found), Nat.add_sub_cancel_left, stops]

/-- What the search comes to once the body of the last waiting head has ended: it goes on with the
head that waits below. -/
def resume (text : Text) (outer : Nat) (inner : List Nat) : BodyEnd position →
    Except Failure Closer
  | .closed closer _ =>
      match inner with
      | [] => .ok closer
      | _ :: others =>
          findGenericFrom TagKind.ui.name outer others closer.stop (text.drop closer.stop)
  | .ranOut => .error ((Cause.unclosedTag TagKind.ui.name).placed outer)
  | .failed failure => .error failure

theorem resume_since {later : Nat} (behind : position ≤ later) (ended : BodyEnd later) :
    resume text outer inner (ended.since behind) = resume text outer inner ended := by
  cases ended <;> rfl

theorem resume_nil (ended : BodyEnd position) : resume text outer [] ended = ended.answer outer := by
  cases ended <;> rfl

/-- The search with heads that wait on a stack first comes to the end of the body of the last one. -/
theorem findGenericFrom_body (text : Text) (outer : Nat) (inner : List Nat) (position : Nat) :
    findGenericFrom TagKind.ui.name outer inner position (text.drop position) =
      resume text outer inner (body text position) := by
  -- A nested body is searched with its head on the stack, which its closer takes off again.
  fun_induction body text position generalizing inner with
  | case1 position coming => rw [findGenericFrom_next, coming]; rfl
  | case2 position start failure behind coming => rw [findGenericFrom_next, coming]; rfl
  | case3 position start behind inside coming inductionHypothesis =>
      rw [findGenericFrom_next, coming, resume_since]
      exact inductionHypothesis inner
  | case4 position closer ahead inside coming same =>
      rw [findGenericFrom_next, coming]
      exact if_pos same
  | case5 position closer ahead inside coming other inductionHypothesis =>
      rw [findGenericFrom_next, coming, resume_since]
      exact (if_neg other).trans (inductionHypothesis inner)
  | case6 position opening ahead inside coming closed inductionHypothesis =>
      rw [findGenericFrom_next, coming, resume_since]
      exact (if_pos closed).trans (inductionHypothesis inner)
  | case7 position opening ahead inside coming open_ ui closer behind nested
      nestedHypothesis laterHypothesis =>
      rw [findGenericFrom_next, coming, resume_since]
      simp only [if_neg open_, if_pos ui]
      rw [nestedHypothesis, nested]
      exact laterHypothesis inner
  | case8 position opening ahead inside coming open_ ui nested nestedHypothesis =>
      rw [findGenericFrom_next, coming]
      simp only [if_neg open_, if_pos ui]
      rw [nestedHypothesis, nested]
      rfl
  | case9 position opening ahead inside coming open_ ui failure nested nestedHypothesis =>
      rw [findGenericFrom_next, coming]
      simp only [if_neg open_, if_pos ui]
      rw [nestedHypothesis, nested]
      rfl
  | case10 position opening ahead inside coming open_ other absent =>
      rw [findGenericFrom_next, coming]
      simp only [if_neg open_, if_neg other, absent]
      rfl
  | case11 position opening ahead inside coming open_ other stop behind found
      inductionHypothesis =>
      rw [findGenericFrom_next, coming, resume_since]
      simp only [if_neg open_, if_neg other, found]
      exact inductionHypothesis inner

/-- The closer of a tag that is matched through the tags opened after it ends its body. -/
theorem findGeneric_body (text : Text) {opening : Opening} (ui : opening.tag.space = some .ui) :
    findGeneric opening (text.drop opening.headStop) =
      (body text opening.headStop).answer opening.start := by
  rw [findGeneric, (closerPolicy_of_ui ui).2, findGenericFrom_body, resume_nil]

/-- A head at which a body fails: it is malformed, or it opens a tag with a closer of its own that is
missing. -/
inductive Faulty (text : Text) (failure : Failure) : Nat → Prop where
  | malformed {start : Nat} (read : Token.read start (text.drop start) = .error failure) :
      Faulty text failure start
  | missing {met : Opening}
      (read : Token.read met.start (text.drop met.start) = .ok (some (.opening met)))
      (open_ : ¬ met.tag.selfClosing) (other : met.tag.space ≠ some .ui)
      (absent : specificEnd? text met = none) (same : failure = Closer.missing text met) :
      Faulty text failure met.start

/-- A body fails at a head in it. -/
theorem body_failed (text : Text) (position : Nat) {failure : Failure}
    (failed : body text position = .failed failure) :
    ∃ start, position ≤ start ∧ Faulty text failure start := by
  fun_induction body text position with
  | case1 position coming => cases failed
  | case2 position start failure' behind coming =>
      have read := next_read text position
      rw [coming] at read
      cases failed
      exact ⟨start, behind, .malformed read⟩
  | case3 position start behind inside coming inductionHypothesis =>
      obtain ⟨at_, later, faulty⟩ := inductionHypothesis (BodyEnd.failed_of_since failed)
      exact ⟨at_, by omega, faulty⟩
  | case4 position closer ahead inside coming same => cases failed
  | case5 position closer ahead inside coming other inductionHypothesis =>
      obtain ⟨at_, later, faulty⟩ := inductionHypothesis (BodyEnd.failed_of_since failed)
      exact ⟨at_, by omega, faulty⟩
  | case6 position opening ahead inside coming closed inductionHypothesis =>
      obtain ⟨at_, later, faulty⟩ := inductionHypothesis (BodyEnd.failed_of_since failed)
      exact ⟨at_, by omega, faulty⟩
  | case7 position opening ahead inside coming open_ ui closer behind nested
      nestedHypothesis laterHypothesis =>
      obtain ⟨at_, later, faulty⟩ := laterHypothesis (BodyEnd.failed_of_since failed)
      exact ⟨at_, by omega, faulty⟩
  | case8 position opening ahead inside coming open_ ui nested nestedHypothesis => cases failed
  | case9 position opening ahead inside coming open_ ui failure' nested nestedHypothesis =>
      cases failed
      obtain ⟨at_, later, faulty⟩ := nestedHypothesis nested
      exact ⟨at_, by omega, faulty⟩
  | case10 position opening ahead inside coming open_ other absent =>
      have read := next_read text position
      rw [coming] at read
      cases failed
      exact ⟨opening.start, read.1, .missing read.2 open_ other absent rfl⟩
  | case11 position opening ahead inside coming open_ other stop behind found
      inductionHypothesis =>
      obtain ⟨at_, later, faulty⟩ := inductionHypothesis (BodyEnd.failed_of_since failed)
      exact ⟨at_, by omega, faulty⟩

/-- In a text of which nothing from a limit on is seen, the closer of a tag that is matched through
the tags opened after it ends the body behind its head. The search fails where the descent does: at the
tag itself if the text runs out in its body or in a body within, and else at a head in the body that
is malformed or that opens a tag with a closer of its own that is missing. -/
theorem findGeneric_descent (text : Text) (limit : Nat) {opening : Opening}
    (ui : opening.tag.space = some .ui) :
    findGeneric opening (Text.slice opening.headStop limit text) =
        (body (text.take limit) opening.headStop).answer opening.start ∧
      ∀ failure, body (text.take limit) opening.headStop = .failed failure →
        ∃ start, opening.headStop ≤ start ∧
          ((∃ fault, Token.readAt text start limit = .error failure ∧
              failure = (Cause.malformedTag fault).placed start) ∨
            ∃ met : Opening, met.start = start ∧
              Token.readAt text start limit = .ok (some (.opening met)) ∧
              ¬ met.tag.selfClosing ∧ met.tag.space ≠ some .ui ∧
              Text.firstIndex (closerForm met.tag.closerName)
                (Text.slice met.headStop limit text) = none ∧
              failure = missing (text.take limit) met) := by
  constructor
  · exact findGeneric_body (text.take limit) ui
  · intro failure failed
    obtain ⟨start, behind, faulty⟩ := body_failed _ _ failed
    refine ⟨start, behind, ?_⟩
    cases faulty with
    | malformed read =>
        obtain ⟨fault, placed⟩ := Token.malformed_of_read read
        exact Or.inl ⟨fault, read, placed⟩
    | missing read open_ other absent same =>
        exact Or.inr ⟨_, rfl, read, open_, other, Option.map_eq_none_iff.mp absent, same⟩

/-- The closer of the outer tag is the third one of its name: one stands in the content of a tag with
a closer of its own, and one closes the nested tag. -/
theorem findGeneric_descent_nested :
    let text : Text := "{{ui:a}}{{it}}{{/ui}}{{/it}}{{ui:b}}x{{/ui}}y{{/ui}}"
    let opening : Opening := ⟨⟨some .ui, "a", [], [], false, none⟩, 0, 8⟩
    opening.tag.space = some .ui ∧
      (body (text.take 52) opening.headStop).answer opening.start = .ok (named "ui" 45) := by
  intro text opening
  refine ⟨rfl, ?_⟩
  rw [← (findGeneric_descent text 52 rfl).1]
  with_unfolding_all rfl

end Flourish.Closer
