/-
This file says that templates do not look at the content that is put into them. Main statement:
the texts around the copies of the content, and whether there are any, are the same for every
content, and the copies begin at the offsets that go with the text.
-/

import Flourish.Proofs.Component
import Flourish.Proofs.Text.Fields
import Mathlib.Data.List.Chain

namespace Flourish

/-- A text is made of pieces with a copy of a content between each two of them, and the copies begin
at these places. -/
structure Woven (content : Text) (pieces : List Text) (text : Text) (starts : List Nat) :
    Prop where
  joined : text = Text.join content pieces
  counted : starts.length + 1 = pieces.length
  placed : ∀ index < starts.length,
    starts[index]? = some (Text.join content (pieces.take (index + 1))).length
  inserted : Inserted content text starts

namespace Filled

/-- The texts around the copies of the content. -/
def around : List Filled → List Text
  | [] => [[]]
  | .letters own :: rest => (around rest).modifyHead (own ++ ·)
  | .content :: rest => [] :: around rest

theorem around_ne_nil (filled : List Filled) : around filled ≠ [] := by
  induction filled with
  | nil => exact List.cons_ne_nil _ _
  | cons part rest inductionHypothesis =>
      cases part with
      | letters own => simpa [around] using inductionHypothesis
      | content => exact List.cons_ne_nil _ _

theorem text_around (content : Text) (filled : List Filled) :
    text content filled = Text.join content (around filled) := by
  induction filled with
  | nil => simp [text, around]
  | cons part rest inductionHypothesis =>
      cases part with
      | letters own =>
          rw [around, Text.join_modifyHead content own (around_ne_nil rest), ← inductionHypothesis]
          rfl
      | content =>
          rw [around, Text.join_cons content [] (around_ne_nil rest), ← inductionHypothesis]
          rfl

theorem length_starts (size position : Nat) (filled : List Filled) :
    (starts size position filled).length + 1 = (around filled).length := by
  induction filled generalizing position with
  | nil => rfl
  | cons part rest inductionHypothesis =>
      cases part with
      | letters own => simpa [starts, around] using inductionHypothesis (position + own.length)
      | content => simpa [starts, around] using inductionHypothesis (position + size)

/-- A copy of the content begins behind the texts before it with the copies between them. -/
theorem getElem_starts (content : Text) (position : Nat) (filled : List Filled) {index : Nat}
    (inside : index < (starts content.length position filled).length) :
    (starts content.length position filled)[index]? =
      some (position + (Text.join content ((around filled).take (index + 1))).length) := by
  induction filled generalizing position index with
  | nil => cases inside
  | cons part rest inductionHypothesis =>
      have some_ : (around rest).take (index + 1) ≠ [] := by
        simpa using around_ne_nil rest
      cases part with
      | letters own =>
          rw [starts, inductionHypothesis _ inside, around, List.take_modifyHead,
            Text.join_modifyHead content own some_, List.length_append, Nat.add_assoc]
      | content =>
          cases index with
          | zero => simp [starts, around]
          | succ earlier =>
              have within : earlier <
                  (starts content.length (position + content.length) rest).length :=
                Nat.lt_of_succ_lt_succ inside
              have before : (around rest).take (earlier + 1) ≠ [] := by
                simpa using around_ne_nil rest
              rw [starts, List.getElem?_cons_succ, inductionHypothesis _ within, around,
                List.take_succ_cons, Text.join_cons content [] before, List.nil_append,
                List.length_append, Nat.add_assoc]

/-- A filled template is woven of the texts around the copies of the content. -/
theorem woven (content : Text) (filled : List Filled) :
    Woven content (around filled) (text content filled) (starts content.length 0 filled) where
  joined := text_around content filled
  counted := length_starts content.length 0 filled
  placed index inside := by rw [getElem_starts content 0 filled inside, Nat.zero_add]
  inserted := inserted content filled

end Filled

/-- Only one text is woven of given pieces, with one list of places. -/
theorem Woven.unique {content text other : Text} {pieces : List Text} {starts others : List Nat}
    (woven : Woven content pieces text starts) (second : Woven content pieces other others) :
    text = other ∧ starts = others := by
  have size : starts.length = others.length :=
    Nat.succ.inj (woven.counted.trans second.counted.symm)
  refine ⟨woven.joined.trans second.joined.symm, List.ext_getElem? fun index => ?_⟩
  by_cases inside : index < starts.length
  · rw [woven.placed index inside, second.placed index (size ▸ inside)]
  · rw [List.getElem?_eq_none (Nat.le_of_not_lt inside),
      List.getElem?_eq_none (size ▸ Nat.le_of_not_lt inside)]

namespace Substitution

/-- No dollar sign of a template has a decimal digit behind it. -/
def Unnumbered (template : Text) : Prop :=
  template.IsChain fun letter next => letter = .of '$' → ¬ Text.isDecimal next

instance (template : Text) : Decidable (Unnumbered template) :=
  inferInstanceAs (Decidable (List.IsChain _ _))

/-- Where no digit follows a dollar sign there is no place of a numbered argument. -/
theorem Unnumbered.digits {letter : Letter} {rest : Text} (unnumbered : Unnumbered (letter :: rest)) :
    (if letter = '$' then rest.takeWhile Text.isDecimal else []) = [] := by
  split
  · next dollar =>
      cases rest with
      | nil => rfl
      | cons next others =>
          rw [List.takeWhile_cons_of_neg ((List.isChain_cons_cons.mp unnumbered).1 dollar)]
  · rfl

theorem Unnumbered.isFirstMark {template : Text} (unnumbered : Unnumbered template) :
    isFirstMark template = false := by
  have decimal : Text.isDecimal '1' = true := by decide
  unfold Substitution.isFirstMark
  split
  · exact absurd decimal ((List.isChain_cons_cons.mp unnumbered).1 rfl)
  · exact absurd decimal ((List.isChain_cons_cons.mp unnumbered).1 rfl)
  · rfl

end Substitution

namespace Component

open Substitution (Unnumbered contentMark partsFrom partialParts fillPartial fillPartial_eq)

variable {palette : Palette} {entry : Entry ComponentBody} {arguments : List Text}

theorem fillPart_pending {pending : Text} (plain : .of '=' ∉ pending) :
    fillPart palette entry arguments (.letters pending.reverse) =
      .ok (.letters pending.reverse) := by
  rw [fillPart, palette.resolvedRefs_of_not_mem (by simpa)]

/-- A template without numbered places and color parameters is filled with its own letters, like a
template of a project. -/
theorem mapM_partsFrom {pending template : Text} (unnumbered : Unnumbered template)
    (plain : .of '=' ∉ template) (plainPending : .of '=' ∉ pending) :
    ∃ filled, (partsFrom pending template).mapM (fillPart palette entry arguments) = .ok filled ∧
      Filled.around filled =
        (Filled.around (partialParts template)).modifyHead (pending.reverse ++ ·) := by
  fun_induction partsFrom pending template with
  | case1 pending =>
      refine ⟨[.letters pending.reverse], ?_, ?_⟩
      · rw [List.mapM_cons, fillPart_pending plainPending]
        rfl
      · rw [partialParts]
        rfl
  | case2 pending letter rest starts inductionHypothesis =>
      obtain ⟨filled, found, same⟩ := inductionHypothesis (unnumbered.tail.drop 7)
        (fun member => plain (List.mem_cons_of_mem _ (List.mem_of_mem_drop member)))
        List.not_mem_nil
      refine ⟨.letters pending.reverse :: .content :: filled, ?_, ?_⟩
      · rw [List.mapM_cons, fillPart_pending plainPending, List.mapM_cons, found]
        rfl
      · rw [partialParts, if_pos starts]
        simp only [Filled.around, same, Text.modifyHead_nothing, List.modifyHead_cons]
  | case3 pending letter rest absent digits empty inductionHypothesis =>
      obtain ⟨filled, found, same⟩ := inductionHypothesis unnumbered.tail
        (fun member => plain (List.mem_cons_of_mem _ member))
        (fun member => by
          rcases List.mem_cons.mp member with rfl | later
          · exact plain List.mem_cons_self
          · exact plainPending later)
      refine ⟨filled, found, ?_⟩
      rw [same, partialParts, if_neg absent, if_neg (by rw [unnumbered.isFirstMark]; simp)]
      simp [Filled.around, List.modifyHead_modifyHead, Function.comp_def]
  | case4 pending letter rest absent digits some_ inductionHypothesis =>
      exact absurd (List.isEmpty_iff.mpr unnumbered.digits) some_

/-- What a template becomes depends on the content only in that the content is copied into it: an
error comes for every content or for none, and there are texts that are the same for every content
between which it stands, at the offsets that are told. This holds of the templates of components and
of those of projects, which become the same if no digit follows a dollar sign and no equals sign is
in the template. -/
theorem substitute_verbatim :
    (∀ (palette : Palette) (entry : Entry ComponentBody) (arguments : List Text),
      (∃ stop, ∀ content, substitute palette entry arguments content = .error stop) ∨
      ∃ pieces, ∀ content, ∃ text starts,
        substitute palette entry arguments content = .ok (text, starts) ∧
          Woven content pieces text starts) ∧
    (∀ template, ∃ pieces, ∀ content,
      Woven content pieces (fillPartial template content).1 (fillPartial template content).2) ∧
    ∀ (palette : Palette) (entry : Entry ComponentBody) (arguments : List Text) (content : Text),
      Unnumbered entry.body.template → .of '=' ∉ entry.body.template →
        substitute palette entry arguments content =
          .ok (fillPartial entry.body.template content) := by
  refine ⟨fun palette entry arguments => ?_, fun template => ?_, ?_⟩
  · cases found : fill palette entry arguments with
    | error stop => exact Or.inl ⟨stop, fun content => by rw [substitute_eq, found]; rfl⟩
    | ok filled =>
        refine Or.inr ⟨Filled.around filled, fun content => ⟨_, _, ?_, Filled.woven content filled⟩⟩
        rw [substitute_eq, found]
        rfl
  · refine ⟨Filled.around (partialParts template), fun content => ?_⟩
    rw [fillPartial_eq]
    exact Filled.woven content (partialParts template)
  · intro palette entry arguments content unnumbered plain
    obtain ⟨filled, found, same⟩ : ∃ filled, fill palette entry arguments = .ok filled ∧ _ :=
      mapM_partsFrom unnumbered plain List.not_mem_nil
    have woven := Filled.woven content filled
    rw [same, Text.modifyHead_nothing] at woven
    obtain ⟨sameText, sameStarts⟩ :=
      woven.unique (Filled.woven content (partialParts entry.body.template))
    rw [substitute_eq, found, fillPartial_eq]
    simp only [Except.map, sameText, sameStarts]

/-- Copies of the content stand with nothing between them, and behind a lone dollar sign. The mark
in the content is not read. -/
theorem substitute_verbatim_adjacent :
    let body : ComponentBody := ⟨false, false, "$content$content$ $content", [], [], [], none⟩
    let entry : Entry ComponentBody := ⟨"again", [], [], .absent, body⟩
    Unnumbered entry.body.template ∧ .of '=' ∉ entry.body.template ∧
      ∀ palette, substitute palette entry [] "$1" = .ok (("$1$1$ $1" : Text), [0, 2, 6]) := by
  intro body entry
  have unnumbered : Unnumbered entry.body.template := by decide
  have plain : .of '=' ∉ entry.body.template := by decide
  have filled : fillPartial entry.body.template "$1" = (("$1$1$ $1" : Text), [0, 2, 6]) := by
    with_unfolding_all rfl
  refine ⟨unnumbered, plain, fun palette => ?_⟩
  rw [substitute_verbatim.2.2 palette entry [] "$1" unnumbered plain, filled]

end Component

end Flourish
