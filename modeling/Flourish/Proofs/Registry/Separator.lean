/-
This file says which texts and failures the value of a separator gives, whatever division of texts
into clusters is used. Main statement: a value gives the text of a named separator or itself as one
cluster, or it fails in one of three ways, and neither white space around it nor the limit of the
line makes a difference.
-/

import Flourish.Proofs.Registry.Lookup
import Flourish.Registry.Separator
import Mathlib.Data.List.TakeWhile

namespace Flourish

/-- The kinds of failures, without what a failure is about. -/
inductive FailureKind where
  | stated
  | unclosedTag
  | mismatchedCloser
  | malformedTag
  | unknown (subject : Subject)
  | contextMismatch
  | unsupportedLetter
  | invalidParameter
  | missingArgument
  | shapeMismatch
  | limitExceeded
  | rendererFailed
  | configuration
  deriving DecidableEq, Repr

def Failure.kind (failure : Failure) : FailureKind :=
  match failure.cause with
  | .stated _ => .stated
  | .unclosedTag _ => .unclosedTag
  | .mismatchedCloser _ _ => .mismatchedCloser
  | .malformedTag _ => .malformedTag
  | .unknown subject _ _ => .unknown subject
  | .contextMismatch _ _ _ _ => .contextMismatch
  | .unsupportedLetter _ _ => .unsupportedLetter
  | .invalidParameter _ _ _ => .invalidParameter
  | .missingArgument _ _ => .missingArgument
  | .shapeMismatch _ _ => .shapeMismatch
  | .limitExceeded _ _ => .limitExceeded
  | .rendererFailed _ _ => .rendererFailed
  | .configuration _ => .configuration

namespace Text

theorem trimEnd_append {text : Text} {back : Text} (blank : ∀ letter ∈ back, isBlank letter) :
    trimEnd (text ++ back) = trimEnd text := by
  rw [trimEnd, trimEnd, List.reverse_append, List.dropWhile_append_of_pos]
  intro letter member
  exact blank letter (List.mem_reverse.mp member)

/-- White space around a text does not count once it is trimmed. -/
theorem trim_padded {front back : Text} (before : ∀ letter ∈ front, isBlank letter)
    (after : ∀ letter ∈ back, isBlank letter) (text : Text) :
    trim (front ++ text ++ back) = trim text := by
  have start : trimStart (front ++ text ++ back) = trimStart (text ++ back) := by
    rw [trimStart, List.append_assoc, List.dropWhile_append_of_pos before, trimStart]
  rw [trim, trim, start, trimStart, List.dropWhile_append]
  split
  · next empty =>
      have blank : back.dropWhile isBlank = [] := List.dropWhile_eq_nil_iff.mpr after
      rw [trimStart, List.isEmpty_iff.mp empty, blank]
  · exact trimEnd_append after

end Text

namespace Registry

variable {segment : Text → List Text} {registry : Registry} {name value : Text} {context : Context}
  {limit bound : Int}

/-- Some entry has the name, and no entry of the name may be used. -/
def Refuses (registry : Registry) (name : Text) (context : Context) : Prop :=
  (∃ kind entry, Entry.find? (registry.entries kind) name = some entry) ∧
    ∀ kind entry, Entry.find? (registry.entries kind) name = some entry → ¬ entry.UsableIn context

theorem resolve_of_refuses (refuses : registry.Refuses name context) :
    ∃ failure, registry.resolve name context = .error failure ∧
      failure.kind = .contextMismatch := by
  obtain ⟨⟨kind, entry, known⟩, unusable⟩ := refuses
  simp only [resolve, find?_candidates_eq_none_iff.mpr unusable]
  split
  · next empty =>
      rw [candidates_eq, List.filterMap_eq_nil_iff] at empty
      cases known.symm.trans (candidate?_eq_none_iff.mp (empty kind kind.mem_all))
  · exact ⟨mismatch _ _ _ _, rfl, rfl⟩

theorem resolve_of_not_refuses (admitted : ¬ registry.Refuses name context) :
    ∃ found, registry.resolve name context = .ok found := by
  simp only [resolve]
  split
  · exact ⟨_, rfl⟩
  · next unchosen =>
      split
      · exact ⟨_, rfl⟩
      · next kind summary rest listed =>
          rw [candidates_eq, List.filterMap_eq_cons_iff] at listed
          obtain ⟨_, _, _, _, _, known, _⟩ := listed
          obtain ⟨entry, there, _⟩ := candidate?_eq_some_iff.mp known
          exact absurd ⟨⟨_, entry, there⟩, find?_candidates_eq_none_iff.mp unchosen⟩ admitted

/-- On a line with room for a cluster the limit does not count. -/
theorem literalSeparator_inline (room : 1 ≤ limit) (trimmed : Text) :
    registry.literalSeparator segment value trimmed (Context.inline limit) =
      if (segment trimmed).length = 1 then
        if trimmed.any reservedLetters.contains then .error (separatorFault value .reservedLetter)
        else .ok trimmed
      else .error (unknownIn .separator registry.separators trimmed) := by
  have fits : ((segment trimmed).length = 1 &&
      (((segment trimmed).length : Int) ≤ (Context.inline limit).limit.getD 1)) =
        decide ((segment trimmed).length = 1) := by
    by_cases one : (segment trimmed).length = 1
    · simp [one, Context.inline, room]
    · simp [one]
  simp only [literalSeparator, fits, decide_eq_true_eq]

/-- Values that are equal once they are trimmed give the same on any lines. -/
theorem separatorBy_congr {other : Text} (room : 1 ≤ limit) (space : 1 ≤ bound)
    (same : Text.trim value = Text.trim other) :
    (registry.separatorBy segment value (Context.inline limit)).mapError Failure.kind =
      (registry.separatorBy segment other (Context.inline bound)).mapError Failure.kind := by
  simp only [separatorBy, same]
  split
  · rfl
  split
  · rfl
  simp only [resolveIn]
  cases Entry.find? registry.separators (Text.trim other) with
  | some entry =>
      have alike : (Context.inline limit).admits entry.contexts =
          (Context.inline bound).admits entry.contexts := rfl
      simp only [alike]
      cases (Context.inline bound).admits entry.contexts <;> rfl
  | none =>
      by_cases refuses : registry.Refuses (Text.trim other) (Context.inline bound)
      · obtain ⟨first, failed, firstKind⟩ :=
          resolve_of_refuses (show registry.Refuses _ (Context.inline limit) from refuses)
        obtain ⟨second, alsoFailed, secondKind⟩ := resolve_of_refuses refuses
        simp only [failed, alsoFailed, Except.mapError, firstKind, secondKind]
      · obtain ⟨_, passed⟩ :=
          resolve_of_not_refuses (show ¬ registry.Refuses _ (Context.inline limit) from refuses)
        obtain ⟨_, alsoPassed⟩ := resolve_of_not_refuses refuses
        simp only [passed, alsoPassed, literalSeparator_inline room, literalSeparator_inline space]
        split
        · split <;> rfl
        · rfl

/-- A blank value and a value that is one reserved letter are no separators, whatever they name. -/
def Barred (trimmed : Text) : Prop :=
  trimmed = [] ∨ ∃ letter ∈ reservedLetters, trimmed = [letter]

theorem separatorBy_of_barred (barred : Barred (Text.trim value)) (segment : Text → List Text)
    (registry : Registry) (context : Context) :
    (registry.separatorBy segment value context).mapError Failure.kind =
      .error .invalidParameter := by
  simp only [separatorBy]
  split
  · rfl
  · next visible =>
      obtain empty | ⟨letter, member, same⟩ := barred
      · exact absurd (List.isEmpty_iff.mpr empty) visible
      · rw [if_pos (List.any_eq_true.mpr ⟨letter, member, decide_eq_true same⟩)]
        rfl

theorem visible_of_not_barred {trimmed : Text} (free : ¬ Barred trimmed) :
    ¬ trimmed.isEmpty = true := fun empty =>
  free (Or.inl (List.isEmpty_iff.mp empty))

theorem unreserved_of_not_barred {trimmed : Text} (free : ¬ Barred trimmed) :
    ¬ (reservedLetters.any fun letter => trimmed = [letter]) = true := by
  intro reserved
  obtain ⟨letter, member, same⟩ := List.any_eq_true.mp reserved
  exact free (Or.inr ⟨letter, member, of_decide_eq_true same⟩)

/-- Any other value is looked up, first as a separator. -/
theorem separatorBy_of_named (free : ¬ Barred (Text.trim value)) {entry : Entry SeparatorBody}
    (known : Entry.find? registry.separators (Text.trim value) = some entry) :
    registry.separatorBy segment value context =
      if context.admits entry.contexts then .ok entry.body.text
      else .error (mismatch registry.separators entry (Text.trim value) context) := by
  simp only [separatorBy, if_neg (visible_of_not_barred free),
    if_neg (unreserved_of_not_barred free), resolveIn, known]
  cases context.admits entry.contexts <;> rfl

/-- A value that is no name of a separator is looked up in all tables before it counts as it is. -/
theorem separatorBy_of_unnamed (free : ¬ Barred (Text.trim value))
    (unknown : Entry.find? registry.separators (Text.trim value) = none) :
    registry.separatorBy segment value context =
      (registry.resolve (Text.trim value) context).bind fun _ =>
        registry.literalSeparator segment value (Text.trim value) context := by
  simp only [separatorBy, if_neg (visible_of_not_barred free),
    if_neg (unreserved_of_not_barred free), resolveIn, unknown]
  cases registry.resolve (Text.trim value) context <;> rfl

/-- A value that names entries of which none may be used here is a mismatch. -/
theorem separatorBy_of_refuses (free : ¬ Barred (Text.trim value))
    (refuses : registry.Refuses (Text.trim value) context) :
    (registry.separatorBy segment value context).mapError Failure.kind =
      .error .contextMismatch := by
  cases known : Entry.find? registry.separators (Text.trim value) with
  | some entry =>
      have unusable : ¬ context.admits entry.contexts = true := fun admitted =>
        refuses.2 .separator entry known (Entry.admits_iff.mp admitted)
      rw [separatorBy_of_named free known, if_neg unusable]
      rfl
  | none =>
      obtain ⟨failure, failed, kind⟩ := resolve_of_refuses refuses
      rw [separatorBy_of_unnamed free known, failed]
      exact congrArg Except.error kind

/-- What a value gives is the text of a separator of that name, or the value as it is. -/
theorem separatorBy_eq_ok (room : 1 ≤ limit) {result : Text}
    (given : registry.separatorBy segment value (Context.inline limit) = .ok result) :
    (∃ entry, Entry.find? registry.separators (Text.trim value) = some entry ∧
        entry.UsableIn (Context.inline limit) ∧ entry.body.text = result) ∨
      (result = Text.trim value ∧ (segment result).length = 1 ∧
        (∀ letter ∈ reservedLetters, letter ∉ result) ∧
        Entry.find? registry.separators result = none) := by
  have free : ¬ Barred (Text.trim value) := by
    intro barred
    have refused := separatorBy_of_barred barred segment registry (Context.inline limit)
    rw [given] at refused
    cases refused
  cases known : Entry.find? registry.separators (Text.trim value) with
  | some entry =>
      rw [separatorBy_of_named free known] at given
      split at given
      · next admitted =>
          exact Or.inl ⟨entry, rfl, Entry.admits_iff.mp admitted, Except.ok.inj given⟩
      · cases given
  | none =>
      rw [separatorBy_of_unnamed free known, literalSeparator_inline room] at given
      cases resolved : registry.resolve (Text.trim value) (Context.inline limit) with
      | error failure =>
          rw [resolved] at given
          cases given
      | ok found =>
          rw [resolved] at given
          change (if _ then _ else _) = _ at given
          split at given
          · next one =>
              split at given
              · cases given
              · next bare =>
                  cases given
                  refine Or.inr ⟨rfl, one, ?_, known⟩
                  intro letter reserved member
                  exact bare
                    (List.any_eq_true.mpr ⟨letter, member, List.contains_iff_mem.mpr reserved⟩)
          · cases given

/-- A value that gives no separator is invalid, a mismatch or unknown. -/
theorem separatorBy_eq_error (room : 1 ≤ limit) {failure : Failure}
    (failed : registry.separatorBy segment value (Context.inline limit) = .error failure) :
    failure.kind = .invalidParameter ∨ failure.kind = .contextMismatch ∨
      failure.kind = .unknown .separator := by
  have failedKind {kind : FailureKind}
      (known : (registry.separatorBy segment value (Context.inline limit)).mapError Failure.kind =
        .error kind) : failure.kind = kind := by
    rw [failed] at known
    exact Except.error.inj known
  by_cases barred : Barred (Text.trim value)
  · exact Or.inl (failedKind (separatorBy_of_barred barred segment registry _))
  by_cases refuses : registry.Refuses (Text.trim value) (Context.inline limit)
  · exact Or.inr (Or.inl (failedKind (separatorBy_of_refuses barred refuses)))
  cases known : Entry.find? registry.separators (Text.trim value) with
  | some entry =>
      rw [separatorBy_of_named barred known] at failed
      split at failed
      · cases failed
      · cases failed
        exact Or.inr (Or.inl rfl)
  | none =>
      obtain ⟨found, passed⟩ := resolve_of_not_refuses refuses
      rw [separatorBy_of_unnamed barred known, passed, literalSeparator_inline room] at failed
      change (if _ then _ else _) = _ at failed
      split at failed
      · split at failed
        · cases failed
          exact Or.inl rfl
        · cases failed
      · cases failed
        exact Or.inr (Or.inr rfl)

/-- However texts are divided into clusters, on a line with room for one a value gives the text of a
separator of that name or itself as one cluster, or it is invalid, a mismatch or unknown. If it names
entries of which none may be used it is a mismatch, unless it is blank or one reserved letter, which
is invalid. White space around the value and the limit of the line make no difference. -/
theorem separator_settled (segment : Text → List Text) (registry : Registry) {limit : Int}
    (room : 1 ≤ limit) (value : Text) :
    (∀ result, registry.separatorBy segment value (Context.inline limit) = .ok result →
        (∃ entry, Entry.find? registry.separators (Text.trim value) = some entry ∧
            entry.UsableIn (Context.inline limit) ∧ entry.body.text = result) ∨
          (result = Text.trim value ∧ (segment result).length = 1 ∧
            (∀ letter ∈ reservedLetters, letter ∉ result) ∧
            Entry.find? registry.separators result = none)) ∧
      (∀ failure, registry.separatorBy segment value (Context.inline limit) = .error failure →
        failure.kind = .invalidParameter ∨ failure.kind = .contextMismatch ∨
          failure.kind = .unknown .separator) ∧
      (Barred (Text.trim value) →
        (registry.separatorBy segment value (Context.inline limit)).mapError Failure.kind =
          .error .invalidParameter) ∧
      (registry.Refuses (Text.trim value) (Context.inline limit) → ¬ Barred (Text.trim value) →
        (registry.separatorBy segment value (Context.inline limit)).mapError Failure.kind =
          .error .contextMismatch) ∧
      (∀ front back : Text, (∀ letter ∈ front, Text.isBlank letter) →
        (∀ letter ∈ back, Text.isBlank letter) →
        (registry.separatorBy segment (front ++ value ++ back)
            (Context.inline limit)).mapError Failure.kind =
          (registry.separatorBy segment value (Context.inline limit)).mapError Failure.kind) ∧
      ∀ bound : Int, 1 ≤ bound →
        (registry.separatorBy segment value (Context.inline bound)).mapError Failure.kind =
          (registry.separatorBy segment value (Context.inline limit)).mapError Failure.kind := by
  refine ⟨fun result => separatorBy_eq_ok room, fun failure => separatorBy_eq_error room,
    fun barred => separatorBy_of_barred barred segment registry _,
    fun refuses free => separatorBy_of_refuses free refuses, ?_, ?_⟩
  · intro front back before after
    exact separatorBy_congr room room (Text.trim_padded before after value)
  · intro bound space
    exact separatorBy_congr space room rfl

theorem separator_settled_crossing :
    (1 : Int) ≤ 2 ∧ crossing.Refuses (Text.trim " bold\n") (Context.inline 2) ∧
      ¬ Barred (Text.trim " bold\n") ∧
      (crossing.separator " bold\n" (Context.inline 2)).mapError Failure.kind =
        .error .contextMismatch := by
  have refuses : crossing.Refuses (Text.trim " bold\n") (Context.inline 2) := by
    refine ⟨⟨.style, _, rfl⟩, ?_⟩
    intro kind entry known
    cases kind with
    | style =>
        cases known
        rintro ⟨declared, member, promotes⟩
        cases List.mem_singleton.mp member
        cases promotes
    | frame | badge | separator | component | partials => cases known
  have free : ¬ Barred (Text.trim " bold\n") := by
    rintro (empty | ⟨letter, _, same⟩)
    · cases empty
    · cases same
  exact ⟨by decide, refuses, free,
    (separator_settled Text.clusters crossing (by decide) " bold\n").2.2.2.1 refuses free⟩

/-- A file in which a style for blocks only has the empty name. -/
def namelessFile : DocumentFile :=
  .document (.mapping [("styles", .mapping [("", .mapping [("contexts", .list [.text "block"])])])])

def nameless : Registry where
  styles := [⟨[], [], [.block], .text [], ⟨.text [], [], [], [], []⟩⟩]
  frames := []
  badges := []
  separators := []
  components := []
  partials := []
  palette := []
  shieldStyles := []
  defaultShieldStyle := "flat-square"

theorem nameless_accepted : nameless.Accepted :=
  .read (show ofFile "registry.yaml" namelessFile [] = .ok nameless by with_unfolding_all rfl)

theorem nameless_refuses : nameless.Refuses [] (Context.inline 1) := by
  refine ⟨⟨.style, _, rfl⟩, ?_⟩
  intro kind entry known
  cases kind with
  | style =>
      cases known
      rintro ⟨declared, member, promotes⟩
      cases List.mem_singleton.mp member
      cases promotes
  | frame | badge | separator | component | partials => cases known

/-- The empty value names the style, which may not be used on a line, and is invalid. -/
theorem separator_nameless :
    nameless.Accepted ∧ nameless.Refuses (Text.trim []) (Context.inline 1) ∧
      (∀ letter ∈ reservedLetters, Text.trim [] ≠ [letter]) ∧
      (nameless.separator [] (Context.inline 1)).mapError Failure.kind =
        .error .invalidParameter :=
  ⟨nameless_accepted, nameless_refuses, fun letter _ => (List.cons_ne_nil letter []).symm, rfl⟩

end Registry
end Flourish
