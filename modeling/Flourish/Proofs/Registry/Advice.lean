/-
This file says what a registry lists and proposes. Main statement: what is listed for a place is all
that can be used there, and so can be the alternatives of a mismatch.
-/

import Flourish.Proofs.Registry.Lookup
import Flourish.Proofs.Registry.Regular
import Flourish.Proofs.Text.Similarity

namespace Flourish

namespace Entry

variable {Body : Type} {table : List (Entry Body)} {entry : Entry Body} {name id : Text}
  {context : Context}

/-- The names of a table are those under which an entry is found. -/
theorem mem_names_iff : name ∈ names table ↔ ∃ entry, find? table name = some entry := by
  rw [names, Text.mem_sorted, Table.mem_names_iff, Option.isSome_iff_exists]
  constructor
  · rintro ⟨id, known⟩
    obtain ⟨entry, member, same⟩ := exists_of_index known
    have found : (table.find? fun entry => entry.id = id).isSome :=
      List.find?_isSome.mpr ⟨entry, member, decide_eq_true same⟩
    rw [find?, known, Option.bind_some]
    exact Option.isSome_iff_exists.mp found
  · rintro ⟨entry, found⟩
    obtain ⟨id, known, _⟩ := Option.bind_eq_some_iff.mp found
    exact ⟨id, known⟩

theorem mem_usableIds_iff :
    id ∈ usableIds table context ↔ ∃ entry ∈ table, entry.UsableIn context ∧ entry.id = id := by
  rw [usableIds, Text.mem_sortedDistinct, List.mem_map]
  simp only [List.mem_filter, admits_iff, and_assoc]

theorem find?_own (distinct : Distinct table) (member : entry ∈ table) :
    find? table entry.id = some entry :=
  (find?_eq_iff distinct).mpr (.own entry member rfl)

end Entry

namespace Registry

variable {registry : Registry} {kind : RenderableKind} {name id value : Text} {context : Context}
  {failure : Failure}

/-- What may be proposed instead of an entry that may not be used here: up to five other entries of
its kind, each once, as many as there are, and all of them may be used. -/
structure Alternatives (registry : Registry) (kind : RenderableKind) (entry : Entry kind.Body)
    (context : Context) (proposed : List Text) : Prop where
  count : proposed.length = min 5 (registry.usable context (some kind)).length
  distinct : proposed.Nodup
  usable : ∀ id ∈ proposed, ∃ other,
    resolveIn (registry.entries kind) id context = .ok (some other) ∧ other.id = id
  other : entry.id ∉ proposed

/-- What is listed for a place is what can be used there, and so is what is proposed where a name
cannot be used. -/
structure Candid (registry : Registry) : Prop where
  listed : ∀ kind context id, id ∈ registry.usable context (some kind) ↔
    ∃ entry, resolveIn (registry.entries kind) id context = .ok (some entry) ∧ entry.id = id
  foundIn : ∀ kind name context entry,
    resolveIn (registry.entries kind) name context = .ok (some entry) →
      entry.id ∈ registry.usable context (some kind)
  found : ∀ name context kind entry, registry.resolve name context = .ok (some (kind, entry)) →
    entry.id ∈ registry.usable context (some kind) ∧ entry.id ∈ registry.usable context none
  resolves : ∀ context, ∀ id ∈ registry.usable context none,
    ∃ found, registry.resolve id context = .ok (some found)
  proposedIn : ∀ kind name context failure,
    resolveIn (registry.entries kind) name context = .error failure →
      ∃ entry proposed, Entry.find? (registry.entries kind) name = some entry ∧
        failure.cause = .contextMismatch name entry.contextNames context.toText proposed ∧
        registry.Alternatives kind entry context proposed
  proposed : ∀ name context failure, registry.resolve name context = .error failure →
    ∃ kind entry proposed, Entry.find? (registry.entries kind) name = some entry ∧
      failure.cause = .contextMismatch name entry.contextNames context.toText proposed ∧
      registry.Alternatives kind entry context proposed

theorem usable_some (registry : Registry) (context : Context) (kind : RenderableKind) :
    registry.usable context (some kind) = Entry.usableIds (registry.entries kind) context :=
  Entry.usableIds_summaries _ _

theorem mem_usable_none_iff :
    id ∈ registry.usable context none ↔ ∃ kind, id ∈ registry.usable context (some kind) := by
  rw [usable, Text.mem_sortedDistinct, List.mem_flatMap]
  exact exists_congr fun kind => and_iff_right kind.mem_all

/-- An entry is given if its name is known and it may be used. -/
theorem resolveIn_eq_some_iff {Body : Type} {table : List (Entry Body)} {entry : Entry Body} :
    resolveIn table name context = .ok (some entry) ↔
      Entry.find? table name = some entry ∧ entry.UsableIn context := by
  rw [resolveIn, ← Entry.admits_iff]
  cases Entry.find? table name with
  | none => simp
  | some other =>
      by_cases admitted : context.admits other.contexts = true
      · simp only [if_pos admitted, Except.ok.injEq, Option.some.injEq]
        exact ⟨fun same => ⟨same, same ▸ admitted⟩, And.left⟩
      · simp only [if_neg admitted, reduceCtorEq, Option.some.injEq, false_iff, not_and]
        rintro rfl
        exact admitted

theorem resolveIn_eq_none_iff {Body : Type} {table : List (Entry Body)} :
    resolveIn table name context = .ok none ↔ Entry.find? table name = none := by
  rw [resolveIn]
  cases Entry.find? table name with
  | none => simp
  | some entry => by_cases admitted : context.admits entry.contexts = true <;> simp [admitted]

theorem resolveIn_eq_error {Body : Type} {table : List (Entry Body)}
    (failed : resolveIn table name context = .error failure) :
    ∃ entry, Entry.find? table name = some entry ∧ ¬ entry.UsableIn context ∧
      failure = mismatch table entry name context := by
  simp only [resolveIn] at failed
  split at failed
  · cases failed
  · next entry known =>
      split at failed
      · cases failed
      · next refused =>
          cases failed
          exact ⟨entry, known, fun usable => refused (Entry.admits_iff.mpr usable), rfl⟩

theorem mem_usable_iff (distinct : ∀ kind, Entry.Distinct (registry.entries kind)) :
    id ∈ registry.usable context (some kind) ↔
      ∃ entry, resolveIn (registry.entries kind) id context = .ok (some entry) ∧ entry.id = id := by
  rw [usable_some, Entry.mem_usableIds_iff]
  constructor
  · rintro ⟨entry, member, usable, rfl⟩
    exact ⟨entry, resolveIn_eq_some_iff.mpr ⟨Entry.find?_own (distinct kind) member, usable⟩, rfl⟩
  · rintro ⟨entry, resolved, same⟩
    obtain ⟨found, usable⟩ := resolveIn_eq_some_iff.mp resolved
    exact ⟨entry, mem_of_find? found, usable, same⟩

/-- A usable entry of some kind makes its name usable in all tables together. -/
theorem mem_usable_of_find? {entry : Entry kind.Body}
    (found : Entry.find? (registry.entries kind) name = some entry)
    (usable : entry.UsableIn context) : entry.id ∈ registry.usable context (some kind) := by
  rw [usable_some, Entry.mem_usableIds_iff]
  exact ⟨entry, mem_of_find? found, usable, rfl⟩

theorem alternatives (distinct : Entry.Distinct (registry.entries kind)) {entry : Entry kind.Body}
    (found : Entry.find? (registry.entries kind) name = some entry)
    (unusable : ¬ entry.UsableIn context) :
    registry.Alternatives kind entry context
      (alternativesIn (registry.entries kind) name context) where
  count := by rw [alternativesIn, Text.length_closeMatches, usable_some]
  distinct := Text.nodup_closeMatches (Text.nodup_sortedDistinct _)
  usable := by
    intro id proposed
    obtain ⟨other, member, usable, rfl⟩ :=
      Entry.mem_usableIds_iff.mp (Text.mem_of_closeMatches proposed)
    exact ⟨other, resolveIn_eq_some_iff.mpr ⟨Entry.find?_own distinct member, usable⟩, rfl⟩
  other := by
    intro proposed
    obtain ⟨other, member, usable, same⟩ :=
      Entry.mem_usableIds_iff.mp (Text.mem_of_closeMatches proposed)
    -- an entry with the same id is the same entry
    have again := Entry.find?_own distinct member
    rw [same, Entry.find?_own distinct (mem_of_find? found)] at again
    cases again
    exact unusable usable

theorem exists_resolve (usable : id ∈ registry.usable context (some kind))
    (distinct : ∀ kind, Entry.Distinct (registry.entries kind)) :
    ∃ found, registry.resolve id context = .ok (some found) := by
  obtain ⟨entry, resolved, _⟩ := (mem_usable_iff distinct).mp usable
  obtain ⟨known, usable⟩ := resolveIn_eq_some_iff.mp resolved
  simp only [resolve]
  split
  · exact ⟨_, rfl⟩
  · next unchosen => exact absurd usable (find?_candidates_eq_none_iff.mp unchosen kind entry known)

/-- A registry whose tables have each id once lists and proposes what can be used. -/
theorem candid (distinct : ∀ kind, Entry.Distinct (registry.entries kind)) :
    registry.Candid where
  listed kind context id := mem_usable_iff distinct
  foundIn kind name context entry resolved := by
    obtain ⟨found, usable⟩ := resolveIn_eq_some_iff.mp resolved
    exact mem_usable_of_find? found usable
  found name context kind entry resolved := by
    have resolution := (resolve_eq_iff distinct).mp resolved
    cases resolution with
    | found before _ after own order stands usable first =>
        have listed := mem_usable_of_find? ((Entry.find?_eq_iff (distinct kind)).mpr stands) usable
        exact ⟨listed, mem_usable_none_iff.mpr ⟨kind, listed⟩⟩
  resolves context id listed := by
    obtain ⟨kind, listed⟩ := mem_usable_none_iff.mp listed
    exact exists_resolve listed distinct
  proposedIn kind name context failure failed := by
    obtain ⟨entry, found, unusable, rfl⟩ := resolveIn_eq_error failed
    exact ⟨entry, _, found, rfl, alternatives (distinct kind) found unusable⟩
  proposed name context failure failed := by
    have resolution := (resolve_eq_iff distinct).mp failed
    cases resolution with
    | mismatch before kind after entry order stands first unusable =>
        exact ⟨kind, entry, _, (Entry.find?_eq_iff (distinct kind)).mpr stands, rfl,
          alternatives (distinct kind) ((Entry.find?_eq_iff (distinct kind)).mpr stands)
            (unusable kind entry stands)⟩

end Registry
end Flourish
