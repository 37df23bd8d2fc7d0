/-
This file says what the name of a shield style stands for. Main statement: a shield style answers to
its own id exactly if no earlier one lists that id, so a style that was found is found again under
its id exactly in that case.
-/

import Flourish.Proofs.Registry.Accepted

namespace Flourish.Registry

variable {registry : Registry} {styles : Table (List Text)} {id : Text}

/-- A style in front of the one with this id lists the id. -/
def Overtaken (styles : Table (List Text)) (id : Text) : Prop :=
  ∃ other ∈ styles.takeWhile fun style => style.1 ≠ id, id ∈ other.2

/-- Whether a style answers to a name. -/
def answers (name : Text) (style : Text × List Text) : Bool :=
  style.1 = name || style.2.contains name

theorem overtaken_cons {style : Text × List Text} (different : style.1 ≠ id) :
    Overtaken (style :: styles) id ↔ id ∈ style.2 ∨ Overtaken styles id := by
  rw [Overtaken, List.takeWhile_cons, if_pos (decide_eq_true different)]
  exact List.exists_mem_cons_iff _ _ _

/-- Under an id the style with that id is found, or one in front of it that lists the id. -/
theorem find?_answers (known : id ∈ styles.names) :
    (¬ Overtaken styles id ∧ ∃ listed, List.find? (answers id) styles = some (id, listed)) ∨
      (Overtaken styles id ∧ ∃ other ∈ styles, other.1 ≠ id ∧ id ∈ other.2 ∧
        List.find? (answers id) styles = some other) := by
  induction styles with
  | nil => cases known
  | cons style rest inductionHypothesis =>
      by_cases same : style.1 = id
      · subst same
        refine Or.inl ⟨?_, style.2, List.find?_cons_of_pos (by simp [answers])⟩
        rintro ⟨other, earlier, _⟩
        rw [List.takeWhile_cons_of_neg (by simp)] at earlier
        cases earlier
      by_cases lists : id ∈ style.2
      · exact Or.inr ⟨(overtaken_cons same).mpr (Or.inl lists), style, List.mem_cons_self, same,
          lists, List.find?_cons_of_pos (by simp [answers, lists])⟩
      · have passed : ¬ answers id style = true := by simp [answers, same, lists]
        have later : id ∈ Table.names rest := (List.mem_cons.mp known).resolve_left (Ne.symm same)
        rw [List.find?_cons_of_neg passed, overtaken_cons same, or_iff_right lists]
        refine (inductionHypothesis later).imp_right ?_
        rintro ⟨overtaken, other, member, different, listed, found⟩
        exact ⟨overtaken, other, List.mem_cons_of_mem _ member, different, listed, found⟩

theorem shieldStyle_some {name : Text} (given : name ≠ []) {style : Text} :
    registry.shieldStyle (some name) = .ok style ↔
      ∃ listed, List.find? (answers name) registry.shieldStyles = some (style, listed) := by
  obtain ⟨first, rest, rfl⟩ := List.exists_cons_of_ne_nil given
  have known : (fun style => style.1 = first :: rest || style.2.contains (first :: rest)) =
      answers (first :: rest) := rfl
  simp only [shieldStyle, known]
  cases List.find? (answers (first :: rest)) registry.shieldStyles with
  | none => simp
  | some found =>
      obtain ⟨found, listed⟩ := found
      simp

/-- A shield style answers to its own id exactly if none in front of it lists that id. -/
theorem shieldStyle_id (known : id ∈ registry.shieldStyles.names) (given : id ≠ []) :
    registry.shieldStyle (some id) = .ok id ↔ ¬ Overtaken registry.shieldStyles id := by
  rw [shieldStyle_some given]
  rcases find?_answers known with ⟨free, found⟩ | ⟨overtaken, other, _, different, _, found⟩
  · exact iff_of_true found free
  · refine iff_of_false ?_ (not_not_intro overtaken)
    rintro ⟨listed, own⟩
    cases found.symm.trans own
    exact different rfl

/-- Instead of an overtaken style one answers that lists its id. -/
theorem shieldStyle_overtaken (known : id ∈ registry.shieldStyles.names) (given : id ≠ [])
    (overtaken : Overtaken registry.shieldStyles id) :
    ∃ other ∈ registry.shieldStyles, other.1 ≠ id ∧ id ∈ other.2 ∧
      registry.shieldStyle (some id) = .ok other.1 := by
  rcases find?_answers known with ⟨free, _⟩ | ⟨_, other, member, different, lists, found⟩
  · exact absurd overtaken free
  · exact ⟨other, member, different, lists, (shieldStyle_some given).mpr ⟨other.2, found⟩⟩

/-- What answers is a shield style. Without any the default answers where no name is given. -/
theorem WellFormed.shieldStyle_known (wellFormed : registry.WellFormed) {name : Option Text}
    {style : Text} (found : registry.shieldStyle name = .ok style) :
    style ∈ registry.shieldStyles.names ∨
      registry.shieldStyles = [] ∧ style = registry.defaultShieldStyle := by
  by_cases given : ∃ written, name = some written ∧ written ≠ []
  · obtain ⟨written, rfl, given⟩ := given
    obtain ⟨listed, found⟩ := (shieldStyle_some given).mp found
    exact Or.inl (List.mem_map_of_mem (List.mem_of_find?_eq_some found))
  · have fallback : style = registry.defaultShieldStyle := by
      match name, given with
      | none, _ | some [], _ => exact (Except.ok.inj found).symm
      | some (first :: rest), given => exact absurd ⟨_, rfl, List.cons_ne_nil first rest⟩ given
    rcases wellFormed.fallback with empty | known
    · exact Or.inr ⟨empty, fallback⟩
    · exact Or.inl (fallback ▸ known)

/-- A shield style answers to its own id exactly if none in front of it lists that id; otherwise
another style answers that lists it. Where there are shield styles, only they answer, so looking up
what was found finds it again exactly if it is not overtaken. The empty name is never looked up. -/
theorem shieldStyle_canonical (accepted : registry.Accepted) :
    (∀ id ∈ registry.shieldStyles.names, id ≠ [] →
        (registry.shieldStyle (some id) = .ok id ↔ ¬ Overtaken registry.shieldStyles id) ∧
          (Overtaken registry.shieldStyles id →
            ∃ other ∈ registry.shieldStyles, other.1 ≠ id ∧ id ∈ other.2 ∧
              registry.shieldStyle (some id) = .ok other.1)) ∧
      ∀ name style, registry.shieldStyle name = .ok style →
        (style ∈ registry.shieldStyles.names ∨
            registry.shieldStyles = [] ∧ style = registry.defaultShieldStyle) ∧
          (registry.shieldStyles ≠ [] → style ≠ [] →
            (registry.shieldStyle (some style) = .ok style ↔
              ¬ Overtaken registry.shieldStyles style)) := by
  refine ⟨fun id known given => ⟨shieldStyle_id known given, shieldStyle_overtaken known given⟩, ?_⟩
  intro name style found
  have answered := accepted.wellFormed.shieldStyle_known found
  refine ⟨answered, fun some given => ?_⟩
  exact shieldStyle_id (answered.resolve_right fun without => some without.1) given

/-- A file in which the first shield style lists the id of the second. -/
def overtakingFile : DocumentFile :=
  .document (.mapping [("shield_styles", .mapping [("default", .text "a"),
    ("styles", .mapping [("a", .list [.text "b"]), ("b", .list [.text "c"])])])])

def overtaking : Registry where
  styles := []
  frames := []
  badges := []
  separators := []
  components := []
  partials := []
  palette := []
  shieldStyles := [("a", ["b"]), ("b", ["c"])]
  defaultShieldStyle := "a"

theorem overtaking_accepted : overtaking.Accepted :=
  .read (show ofFile "registry.yaml" overtakingFile [] = .ok overtaking by with_unfolding_all rfl)

theorem shieldStyle_canonical_overtaking :
    overtaking.Accepted ∧ ¬ Overtaken overtaking.shieldStyles "a" ∧
      overtaking.shieldStyle (some "a") = .ok "a" :=
  have free : ¬ Overtaken overtaking.shieldStyles "a" := by
    rintro ⟨_, earlier, _⟩
    cases earlier
  ⟨overtaking_accepted, free, (((shieldStyle_canonical overtaking_accepted).1 "a"
    (by decide) (by decide)).1).mpr free⟩

/-- The id of the second style stands for the first, so what its other name finds is not found
again. -/
theorem shieldStyle_not_canonical :
    overtaking.Accepted ∧ ("b" : Text) ∈ overtaking.shieldStyles.names ∧
      overtaking.shieldStyle (some "b") = .ok "a" ∧
      overtaking.shieldStyle (some "c") = .ok "b" :=
  ⟨overtaking_accepted, by decide, rfl, rfl⟩

end Flourish.Registry
