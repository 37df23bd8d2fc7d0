/-
This file says which registries there are. Main statement: no table of a registry that was built has
two entries with one id, and the default shield style is one of the shield styles.
-/

import Flourish.Proofs.Failure.Ends
import Flourish.Proofs.Table
import Flourish.Registry.Standard

namespace Flourish

namespace Entry

variable {Body : Type} {table : List (Entry Body)} {entry : Entry Body}

/-- No two entries of the table have one id. -/
def Distinct (table : List (Entry Body)) : Prop :=
  (table.map Entry.id).Nodup

instance : Decidable (Distinct table) :=
  inferInstanceAs (Decidable (List.Nodup _))

theorem under_of_mem {entries : List (Entry Body)} {listed : Text × Entry Body}
    (member : listed ∈ Table.ofEntries (entries.map fun entry => (entry.id, entry))) :
    listed.2 ∈ entries ∧ listed.2.id = listed.1 := by
  rcases Table.mem_insertAll member with among | there
  · obtain ⟨entry, given, rfl⟩ := List.mem_map.mp among
    exact ⟨given, rfl⟩
  · cases there

theorem mem_of_mem_keyed {entries : List (Entry Body)} (member : entry ∈ keyed entries) :
    entry ∈ entries := by
  obtain ⟨listed, among, rfl⟩ := List.mem_map.mp member
  exact (under_of_mem among).1

theorem ids_keyed (entries : List (Entry Body)) :
    (keyed entries).map Entry.id =
      (Table.ofEntries (entries.map fun entry => (entry.id, entry))).names := by
  rw [keyed, List.map_map]
  exact List.map_congr_left fun listed member => (under_of_mem member).2

theorem mem_ids_keyed_iff {entries : List (Entry Body)} {id : Text} :
    id ∈ (keyed entries).map Entry.id ↔ id ∈ entries.map Entry.id := by
  rw [ids_keyed, Table.mem_names_ofEntries, Table.names, List.map_map]
  rfl

theorem distinct_keyed (entries : List (Entry Body)) : Distinct (keyed entries) := by
  rw [Distinct, ids_keyed]
  exact Table.nodup_names_ofEntries _

theorem find?_id (distinct : Distinct table) (member : entry ∈ table) :
    table.find? (fun other => other.id = entry.id) = some entry := by
  obtain ⟨before, after, rfl⟩ := List.append_of_mem member
  rw [Distinct, List.map_append, List.map_cons, List.nodup_append] at distinct
  refine List.find?_eq_some_iff_append.mpr ⟨decide_eq_true rfl, before, after, rfl, ?_⟩
  intro other earlier
  have different := distinct.2.2 other.id (List.mem_map_of_mem earlier) entry.id
    List.mem_cons_self
  simpa using different

end Entry

namespace Registry

/-- Each table has an id once, and the default shield style is known if any is. -/
structure WellFormed (registry : Registry) : Prop where
  distinct : ∀ kind, Entry.Distinct (registry.entries kind)
  shieldStyles : registry.shieldStyles.names.Nodup
  fallback : registry.shieldStyles = [] ∨
    registry.defaultShieldStyle ∈ registry.shieldStyles.names

/-- The registries that there are: those of files, and the one that comes with the library. -/
inductive Accepted : Registry → Prop
  | read {path : Text} {file : DocumentFile} {partials : Table Text} {registry : Registry}
      (built : ofFile path file partials = .ok registry) : Accepted registry
  | standard (partials : Table Text) : Accepted (standard partials)

namespace Load

theorem sectionEntries_distinct {Body : Type} (path : Text) (document : List (Text × Document))
    (name : Text) (build : Text → List (Text × Document) → Built (Entry Body)) :
    Ends Entry.Distinct (fun _ => True) (sectionEntries path document name build) := by
  simp only [sectionEntries]
  split
  · split
    · exact (Ends.self _).bind fun built _ => .ok (Entry.distinct_keyed built)
    · exact .error trivial
  · exact .ok List.nodup_nil

theorem shieldStyles_nodup (shields : List (Text × Document)) :
    Ends (fun styles : Table (List Text) => styles.names.Nodup) (fun _ => True)
      (shieldStyles shields) :=
  (Ends.self _).bind fun _ _ => (Ends.self _).bind fun styles _ =>
    .ok (Table.nodup_names_ofEntries styles)

theorem ofMapping_wellFormed (path : Text) (document : List (Text × Document))
    (partials : Table Text) :
    Ends WellFormed (fun _ => True) (ofMapping path document partials) := by
  have built {Body : Type} := @sectionEntries_distinct Body path document
  unfold ofMapping
  refine (built _ _).bind fun styles distinctStyles => (built _ _).bind fun frames distinctFrames =>
    (built _ _).bind fun badges distinctBadges =>
    (built _ _).bind fun separators distinctSeparators =>
    (built _ _).bind fun components distinctComponents => (Ends.self _).bind fun colors _ =>
    (Ends.self _).bind fun shields _ => (shieldStyles_nodup shields).bind fun known distinct => ?_
  dsimp only
  split
  · exact .error trivial
  · next accepted =>
      refine .ok ⟨?_, distinct, ?_⟩
      · intro kind
        cases kind with
        | style => exact distinctStyles
        | frame => exact distinctFrames
        | badge => exact distinctBadges
        | separator => exact distinctSeparators
        | component => exact distinctComponents
        | partials => exact Entry.distinct_keyed _
      · rw [Bool.and_eq_true, not_and_or] at accepted
        rcases accepted with empty | contained
        · exact Or.inl (by simpa using empty)
        · rw [Bool.not_eq_true', Bool.not_eq_false] at contained
          exact Or.inr (Table.mem_names_iff.mpr contained)

end Load

theorem Standard.wellFormed (partials : Table Text) : (standard partials).WellFormed where
  distinct := by
    intro kind
    cases kind with
    | style => exact show Entry.Distinct Standard.styles by decide
    | frame => exact show Entry.Distinct Standard.frames by decide
    | badge => exact show Entry.Distinct Standard.badges by decide
    | separator => exact show Entry.Distinct Standard.separators by decide
    | component => exact show Entry.Distinct Standard.components by decide
    | partials => exact Entry.distinct_keyed _
  shieldStyles := show Standard.shieldStyles.names.Nodup by decide
  fallback := Or.inr (show ("flat-square" : Text) ∈ Standard.shieldStyles.names by decide)

/-- Whatever a registry was built from, each of its tables has an id once. -/
theorem Accepted.wellFormed {registry : Registry} (accepted : registry.Accepted) :
    registry.WellFormed := by
  cases accepted with
  | @read path file partials _ built =>
      unfold ofFile at built
      split at built
      · cases built
      · cases built
      · next document =>
          have ends := Load.ofMapping_wellFormed path document partials
          rw [built] at ends
          exact ends.holds
      · cases built
  | standard partials => exact Standard.wellFormed partials

end Registry
end Flourish
