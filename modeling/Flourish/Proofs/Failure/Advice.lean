/-
This file says what the failures of look-ups, calls and tags suggest. Main statement: where a name is
unknown, the names that are suggested are other names that its table has.
-/

import Flourish.Expansion.Dispatch
import Flourish.Proofs.Registry.Advice
import Flourish.Proofs.Tag.Grammar

namespace Flourish

/-- The table in which a name of this kind is unknown. -/
def Subject.table? : Subject → Option RenderableKind
  | .style => some .style
  | .frame => some .frame
  | .badge => some .badge
  | .separator => some .separator
  | .component => some .component
  | .partials => some .partials
  | .renderable | .space | .shield => none

/-- The names that are suggested for an unknown one are other names, which its table has. -/
def Cause.Advises (registry : Registry) : Cause → Prop
  | .unknown subject name suggestions =>
      ∀ kind, subject.table? = some kind → ∀ suggestion ∈ suggestions,
        suggestion ≠ name ∧ ∃ entry, Entry.find? (registry.entries kind) suggestion = some entry
  | _ => True

/-- A computation whose mapped result is an error fails with that error. -/
theorem eq_error_of_map {Error Value Other : Type} {result : Except Error Value}
    {change : Value → Other} {error : Error} (failed : result.map change = .error error) :
    result = .error error := by
  cases result with
  | ok value => cases failed
  | error first => exact congrArg Except.error (Except.error.inj failed)

variable {registry : Registry} {name value : Text} {context : Context} {failure : Failure}

namespace Registry

/-- What is suggested for a name that a table does not have. -/
theorem unknownIn_advises (kind : RenderableKind) {subject : Subject}
    (own : subject.table? = some kind)
    (unknown : Entry.find? (registry.entries kind) name = none) :
    (unknownIn subject (registry.entries kind) name).cause.Advises registry := by
  intro other same suggestion suggested
  cases own.symm.trans same
  have known := Entry.mem_names_iff.mp (Text.mem_of_suggestions suggested)
  refine ⟨?_, known⟩
  rintro rfl
  obtain ⟨entry, found⟩ := known
  cases unknown.symm.trans found

theorem resolveIn_advises {Body : Type} {table : List (Entry Body)}
    (failed : resolveIn table name context = .error failure) : failure.cause.Advises registry := by
  obtain ⟨entry, _, _, rfl⟩ := resolveIn_eq_error failed
  trivial

theorem require_advises (kind : RenderableKind) {subject : Subject}
    (own : subject.table? = some kind)
    (failed : require subject (registry.entries kind) name context = .error failure) :
    failure.cause.Advises registry := by
  simp only [require] at failed
  split at failed
  · next mismatched =>
      cases failed
      exact resolveIn_advises mismatched
  · cases failed
  · next unknown =>
      cases failed
      exact unknownIn_advises kind own (resolveIn_eq_none_iff.mp unknown)

theorem resolve_advises (failed : registry.resolve name context = .error failure) :
    failure.cause.Advises registry := by
  simp only [resolve] at failed
  split at failed
  · cases failed
  · split at failed
    · cases failed
    · cases failed
      trivial

theorem shieldStyle_advises {style : Option Text}
    (failed : registry.shieldStyle style = .error failure) : failure.cause.Advises registry := by
  unfold shieldStyle at failed
  split at failed
  · cases failed
  · cases failed
  · split at failed
    · cases failed
    · cases failed
      trivial

theorem separator_advises (failed : registry.separator value context = .error failure) :
    failure.cause.Advises registry := by
  simp only [separator, separatorBy] at failed
  split at failed
  · cases failed
    trivial
  split at failed
  · cases failed
    trivial
  split at failed
  · next mismatched =>
      cases failed
      exact resolveIn_advises mismatched
  · cases failed
  · next unknown =>
      split at failed
      · next mismatched =>
          cases failed
          exact resolve_advises mismatched
      · simp only [literalSeparator] at failed
        split at failed
        · split at failed
          · cases failed
            trivial
          · cases failed
        · cases failed
          exact unknownIn_advises .separator rfl (resolveIn_eq_none_iff.mp unknown)

end Registry

theorem Palette.require_advises {palette : Palette} {parameter : Text}
    (failed : palette.require parameter value = .error failure) :
    failure.cause.Advises registry := by
  unfold Palette.require at failed
  split at failed <;> cases failed
  trivial

theorem Transform.apply_advises {kind : TransformKind} {text : Text} {parameters : Table Text}
    (failed : Transform.apply kind text parameters = .error failure) :
    failure.cause.Advises registry := by
  cases kind with
  | blockquote => cases failed
  | row =>
      simp only [Transform.apply, Transform.row] at failed
      split at failed <;> cases failed
      trivial

namespace Component

theorem resolve_advises {tag : Tag} (failed : resolve registry tag context = .error failure) :
    failure.cause.Advises registry := by
  unfold resolve at failed
  split at failed
  · next unknown =>
      cases failed
      exact Registry.require_advises .component rfl unknown
  · split at failed <;> cases failed
    trivial

theorem mergedParameters_advises {entry : Entry ComponentBody} {given : Table Text}
    (failed : mergedParameters entry given = .error failure) : failure.cause.Advises registry := by
  unfold mergedParameters at failed
  split at failed <;> cases failed
  trivial

end Component

theorem Token.read_advises {position : Nat} {text : Text}
    (failed : Token.read position text = .error failure) : failure.cause.Advises registry := by
  obtain ⟨fault, rfl⟩ := Token.malformed_of_read failed
  trivial

namespace Closer

theorem findSpecific_advises {opening : Opening} {after : Text}
    (failed : findSpecific opening after = .error failure) : failure.cause.Advises registry := by
  simp only [findSpecific] at failed
  split at failed
  · cases failed
  · split at failed <;> cases failed <;> trivial

/-- A search that fails, fails for a token or for want of the closer. -/
theorem findGenericFrom_advises {outer position : Nat} {inner : List Nat} {text : Text}
    (failed : findGenericFrom name outer inner position text = .error failure) :
    failure.cause.Advises registry := by
  fun_induction findGenericFrom name outer inner position text
  case case1 =>
    cases failed
    trivial
  case case2 read =>
    cases failed
    exact Token.read_advises read
  case case4 => cases failed
  case case10 found =>
    cases failed
    exact findSpecific_advises found
  case case3 inductionHypothesis | case5 inductionHypothesis | case6 inductionHypothesis |
      case7 inductionHypothesis | case8 inductionHypothesis | case9 inductionHypothesis |
      case11 inductionHypothesis =>
    exact inductionHypothesis failed

end Closer

namespace Dispatch

theorem extent_advises {opening : Opening} {tail : Text}
    (failed : extent opening tail = .error failure) : failure.cause.Advises registry := by
  simp only [extent] at failed
  split at failed
  · cases failed
  split at failed
  · next sought =>
      cases failed
      unfold Closer.find at sought
      split at sought
      · exact Closer.findGenericFrom_advises sought
      · exact Closer.findSpecific_advises sought
  · cases failed

theorem spacing_advises {settings : Settings} (failed : spacing settings value = .error failure) :
    failure.cause.Advises registry := by
  unfold spacing at failed
  split at failed
  · cases failed
    trivial
  · split at failed <;> cases failed
    trivial

/-- What is wrong with the parameters of a style is an unknown separator at most. -/
theorem spread_advises {processor : Processor} {parameters : Table Text}
    (failed : spread processor parameters = .error failure) :
    failure.cause.Advises processor.registry := by
  unfold spread at failed
  split at failed
  · cases failed
    trivial
  split at failed
  · cases failed
    trivial
  · exact spacing_advises (eq_error_of_map failed)
  · exact Registry.separator_advises (eq_error_of_map failed)
  · cases failed

end Dispatch
end Flourish
