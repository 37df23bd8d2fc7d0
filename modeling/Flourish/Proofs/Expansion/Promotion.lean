/-
This file compares runs in different contexts. Main statement: a document is processed alike in all
contexts up to the first name that its context does not admit, and what a line or a frame's edge
admits is admitted everywhere.
-/

import Flourish.Proofs.Expansion.Lockstep

namespace Flourish

/-- A failure because a name may not be used in its context. -/
def Failure.Mismatched (failure : Failure) : Prop :=
  ∃ name declared requested alternatives,
    failure.cause = .contextMismatch name declared requested alternatives

/-- A stop because a name may not be used in its context. -/
def Stop.Mismatched (stop : Stop) : Prop :=
  ∃ failure : Failure, stop = .failure failure ∧ failure.Mismatched

/-- The processor in another context. -/
def Processor.inContext (processor : Processor) (context : Context) : Processor :=
  { processor with context := context }

theorem ContextKind.promotesTo_of_ne_block {source target other : ContextKind}
    (narrow : target ≠ .block) (promotes : source.promotesTo target) : source.promotesTo other := by
  cases source with
  | block =>
      cases target with
      | block => exact absurd rfl narrow
      | frameChrome => cases promotes
      | inline => cases promotes
  | frameChrome => simp [promotesTo]
  | inline => simp [promotesTo]

variable {narrow : Context} (other : Context)

/-- What a line or a frame's edge admits is admitted everywhere. -/
theorem Context.admits_of_narrow (isNarrow : narrow.kind ≠ .block) {declared : List ContextKind}
    (admitted : narrow.admits declared) : other.admits declared := by
  obtain ⟨kind, member, promotes⟩ := List.any_eq_true.mp admitted
  exact List.any_eq_true.mpr
    ⟨kind, member, ContextKind.promotesTo_of_ne_block isNarrow promotes⟩

/-- A result that is the same in every context, unless a name may not be used. -/
def Settled {Value : Type} (result wider : Except Failure Value) : Prop :=
  (∃ failure, result = .error failure ∧ failure.Mismatched) ∨ wider = result

namespace Registry

theorem resolveIn_narrow {Body : Type} (isNarrow : narrow.kind ≠ .block) (table : List (Entry Body))
    (name : Text) : Settled (resolveIn table name narrow) (resolveIn table name other) := by
  unfold resolveIn
  cases found : Entry.find? table name with
  | none => exact Or.inr rfl
  | some entry =>
      by_cases admitted : narrow.admits entry.contexts
      · right
        simp only [admitted, Context.admits_of_narrow other isNarrow admitted, if_true]
      · left
        simp only [admitted]
        exact ⟨_, rfl, _, _, _, _, rfl⟩

theorem require_narrow {Body : Type} (isNarrow : narrow.kind ≠ .block) (subject : Subject)
    (table : List (Entry Body)) (name : Text) :
    Settled (require subject table name narrow) (require subject table name other) := by
  unfold require
  rcases resolveIn_narrow other isNarrow table name with
    ⟨failure, failed, mismatched⟩ | same
  · rw [failed]
    exact Or.inl ⟨failure, rfl, mismatched⟩
  · rw [same]
    exact Or.inr rfl

end Registry

theorem Component.resolve_narrow (isNarrow : narrow.kind ≠ .block) (registry : Registry) (tag : Tag) :
    Settled (resolve registry tag narrow) (resolve registry tag other) := by
  unfold resolve
  rcases Registry.require_narrow other isNarrow .component registry.components tag.name
    with ⟨failure, failed, mismatched⟩ | same
  · rw [failed]
    exact Or.inl ⟨failure, rfl, mismatched⟩
  · rw [same]
    exact Or.inr rfl

namespace Dispatch

/-- Any processor decides in the other context as in the narrow one, unless a name may not be used
there. -/
def Agrees (decision : Processor → Opening → Text → Decision) (narrow other : Context) : Prop :=
  ∀ (processor : Processor) opening tail,
    StoppedBy Stop.Mismatched (decision (processor.inContext narrow) opening tail).outcome ∨
      decision (processor.inContext other) opening tail =
        decision (processor.inContext narrow) opening tail

theorem component_narrow (isNarrow : narrow.kind ≠ .block) : Agrees component narrow other := by
  intro processor opening tail
  simp only [component, Processor.inContext]
  rcases Component.resolve_narrow other isNarrow processor.registry opening.tag with
    ⟨failure, failed, mismatched⟩ | same
  · rw [failed]
    exact Or.inl ⟨_, rfl, failure, rfl, mismatched⟩
  · rw [same]
    exact Or.inr rfl

theorem frame_narrow (isNarrow : narrow.kind ≠ .block) : Agrees frame narrow other := by
  intro processor opening tail
  simp only [frame, Processor.inContext]
  rcases Registry.require_narrow other isNarrow .frame processor.registry.frames
    opening.tag.name with ⟨failure, failed, mismatched⟩ | same
  · rw [failed]
    split
    · exact Or.inr rfl
    · exact Or.inl ⟨_, rfl, failure, rfl, mismatched⟩
  · rw [same]
    exact Or.inr rfl

theorem badge_narrow (isNarrow : narrow.kind ≠ .block) : Agrees badge narrow other := by
  intro processor opening tail
  simp only [badge, Processor.inContext]
  rcases Registry.require_narrow other isNarrow .badge processor.registry.badges
    opening.tag.name with ⟨failure, failed, mismatched⟩ | same
  · rw [failed]
    split
    · exact Or.inr rfl
    · exact Or.inl ⟨_, rfl, failure, rfl, mismatched⟩
  · rw [same]
    exact Or.inr rfl

theorem style_narrow (isNarrow : narrow.kind ≠ .block) : Agrees style narrow other := by
  intro processor opening tail
  simp only [style, Processor.inContext]
  rcases Registry.resolveIn_narrow other isNarrow processor.registry.styles
    opening.tag.name with ⟨failure, failed, mismatched⟩ | same
  · rw [failed]
    exact Or.inl ⟨_, rfl, failure, rfl, mismatched⟩
  · rw [same]
    exact Or.inr rfl

theorem partials_narrow (isNarrow : narrow.kind ≠ .block) : Agrees partials narrow other := by
  intro processor opening tail
  simp only [partials, Processor.inContext]
  rcases Registry.require_narrow other isNarrow .partials processor.registry.partials
    opening.tag.name with ⟨failure, failed, mismatched⟩ | same
  · rw [failed]
    exact Or.inl ⟨_, rfl, failure, rfl, mismatched⟩
  · rw [same]
    exact Or.inr rfl

/-- The decision about a tag is the same in every context, unless a name may not be used. -/
theorem decide_narrow (isNarrow : narrow.kind ≠ .block) : Agrees decide narrow other := by
  intro processor opening tail
  unfold decide
  cases opening.tag.kind with
  | ui => exact component_narrow other isNarrow processor opening tail
  | frame => exact frame_narrow other isNarrow processor opening tail
  | badge => exact badge_narrow other isNarrow processor opening tail
  | shields => exact Or.inr rfl
  | style => exact style_narrow other isNarrow processor opening tail
  | partials => exact partials_narrow other isNarrow processor opening tail

end Dispatch

namespace Machine

variable (processor : Processor) (machine : Machine)

theorem handle_narrow (isNarrow : narrow.kind ≠ .block) (opening : Opening) (tail : Text) :
    (handle (processor.inContext narrow) machine opening tail).StoppedBy Stop.Mismatched ∨
      handle (processor.inContext other) machine opening tail =
        handle (processor.inContext narrow) machine opening tail := by
  unfold handle
  rcases Dispatch.decide_narrow other isNarrow processor opening tail with
    ⟨stop, stopped, failure, rfl, mismatched⟩ | same
  · left
    simp only [stopped]
    exact ⟨_, _, rfl, _, rfl, mismatched⟩
  · right
    simp only [same]
    rfl

/-- A step is the same in every context, unless a name may not be used. -/
theorem step_narrow (isNarrow : narrow.kind ≠ .block) :
    (step (processor.inContext narrow) machine).StoppedBy Stop.Mismatched ∨
      step (processor.inContext other) machine = step (processor.inContext narrow) machine := by
  simp only [step]
  split
  · exact Or.inr rfl
  · split
    · exact Or.inr rfl
    · exact Or.inr rfl
    · exact Or.inr rfl
    · exact handle_narrow other processor machine isNarrow _ _
  · exact Or.inr rfl

end Machine

namespace Processor

variable (processor : Processor)

theorem follows_inContext (isNarrow : narrow.kind ≠ .block) :
    Follows Stop.Mismatched (processor.inContext narrow) (processor.inContext other) :=
  ⟨rfl, fun machine => Machine.step_narrow other processor machine isNarrow⟩

/-- A document is processed in a line and at a frame's edge as in a block, unless a name may not be
used there; that is so in a line if it is so at a frame's edge. -/
theorem process_inContext (document : Text) (blockLimit lineLimit edgeLimit : Option Int) :
    let block := (processor.inContext ⟨.block, blockLimit⟩).process document
    let line := (processor.inContext ⟨.inline, lineLimit⟩).process document
    let edge := (processor.inContext ⟨.frameChrome, edgeLimit⟩).process document
    (StoppedBy Stop.Mismatched line.result ∨ line = block) ∧
      (StoppedBy Stop.Mismatched edge.result ∨ edge = block) ∧
      (StoppedBy Stop.Mismatched line.result ↔ StoppedBy Stop.Mismatched edge.result) ∧
      ∀ output, line.result = .ok output → block.result = .ok output := by
  intro block line edge
  have lineNarrow : ContextKind.inline ≠ .block := by decide
  have edgeNarrow : ContextKind.frameChrome ≠ .block := by decide
  -- A narrow context leads in each comparison, so none is made from the block.
  have lineOrBlock : StoppedBy Stop.Mismatched line.result ∨ block = line :=
    (processor.follows_inContext _ lineNarrow).process document
  have edgeOrBlock : StoppedBy Stop.Mismatched edge.result ∨ block = edge :=
    (processor.follows_inContext _ edgeNarrow).process document
  have lineOrEdge : StoppedBy Stop.Mismatched line.result ∨ edge = line :=
    (processor.follows_inContext _ lineNarrow).process document
  have edgeOrLine : StoppedBy Stop.Mismatched edge.result ∨ line = edge :=
    (processor.follows_inContext _ edgeNarrow).process document
  refine ⟨lineOrBlock.imp_right Eq.symm, edgeOrBlock.imp_right Eq.symm, ?_, ?_⟩
  · constructor
    · intro mismatched
      rcases edgeOrLine with stopped | same
      · exact stopped
      · rwa [same] at mismatched
    · intro mismatched
      rcases lineOrEdge with stopped | same
      · exact stopped
      · rwa [same] at mismatched
  · intro output processed
    rcases lineOrBlock with ⟨stop, stopped, _⟩ | same
    · rw [processed] at stopped
      cases stopped
    · rw [same, processed]

end Processor
end Flourish
