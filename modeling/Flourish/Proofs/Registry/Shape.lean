/-
This file says which registry documents have the right shape. Main statement: a document of the
right shape is built or refused with a failure of the configuration, and no other one is built.
-/

import Flourish.Proofs.Failure.Ends
import Flourish.Registry.Load

namespace Flourish

namespace Document

/-- The value can be gone through. -/
inductive IsSeries : Document → Prop
  | text (value : Text) : IsSeries (.text value)
  | list (items : List Document) : IsSeries (.list items)
  | mapping (entries : List (Text × Document)) : IsSeries (.mapping entries)

inductive IsMapping : Document → Prop
  | mapping (entries : List (Text × Document)) : IsMapping (.mapping entries)

/-- The value can be a key of a mapping. -/
def IsKey (value : Document) : Prop :=
  (∀ items, value ≠ .list items) ∧ ∀ entries, value ≠ .mapping entries

/-- The value stands for a key and what belongs to it. -/
inductive IsPair : Document → Prop
  | text (first second : Letter) : IsPair (.text [first, second])
  | list (key value : Document) (usable : key.IsKey) : IsPair (.list [key, value])
  | mapping (first second : Text × Document) : IsPair (.mapping [first, second])

/-- The value is a mapping or a list of pairs. -/
inductive IsTable : Document → Prop
  | mapping (entries : List (Text × Document)) : IsTable (.mapping entries)
  | list (items : List Document) (pairs : ∀ item ∈ items, item.IsPair) : IsTable (.list items)

end Document

/-- The stop is a failure of the configuration. -/
def Stop.OfConfiguration (stop : Stop) : Prop :=
  ∃ fault, stop = .failure (Cause.configuration fault).unplaced

namespace Registry.Load

/-- A value is built only from the right shape, and from that refused only with a failure of the
configuration. -/
def Builds {Value : Type} (shape : Prop) (result : Built Value) : Prop :=
  Ends (fun _ => shape) (fun stop => shape → stop.OfConfiguration) result

namespace Builds

variable {Value Other : Type} {shape others : Prop} {result : Built Value}

theorem ok {value : Value} (holds : shape) : Builds shape (.ok value : Built Value) :=
  Ends.ok holds

theorem refused (fault : ConfigurationFault) : Builds shape (refused fault : Built Value) :=
  Ends.error fun _ => ⟨fault, rfl⟩

theorem stopped {stop : Stop} (wrong : ¬ shape) : Builds shape (.error stop : Built Value) :=
  Ends.error fun holds => absurd holds wrong

theorem congr (builds : Builds shape result) (same : shape ↔ others) : Builds others result := by
  rwa [Builds, ← same]

theorem map (builds : Builds shape result) (change : Value → Other) :
    Builds shape (result.map change) :=
  Ends.map builds fun _ holds => holds

/-- Two values one after another need the shapes of both. -/
theorem bind (builds : Builds shape result) {next : Value → Built Other}
    (after : ∀ value, result = .ok value → Builds others (next value)) :
    Builds (shape ∧ others) (result >>= next) := by
  cases result with
  | error stop => exact Ends.error fun both => builds.fails both.1
  | ok value =>
      have later := after value rfl
      show Ends _ _ (next value)
      cases found : next value with
      | error stop => exact Ends.error fun both => (found ▸ later).fails both.2
      | ok other => exact Ends.ok ⟨builds.holds, (found ▸ later).holds⟩

/-- A last value that is always there needs no shape. -/
theorem pure (builds : Builds shape result) (change : Value → Other) :
    Builds shape (result >>= fun value => Pure.pure (change value)) := by
  cases result with
  | error stop => exact Ends.error builds.fails
  | ok value => exact Ends.ok builds.holds

theorem mapM (each : Value → Prop) {build : Value → Built Other} (values : List Value)
    (builds : ∀ value ∈ values, Builds (each value) (build value)) :
    Builds (∀ value ∈ values, each value) (values.mapM build) := by
  induction values with
  | nil => exact Ends.ok fun value member => nomatch member
  | cons value rest inductionHypothesis =>
      have first := builds value List.mem_cons_self
      have rest := inductionHypothesis fun other member =>
        builds other (List.mem_cons_of_mem _ member)
      rw [List.mapM_cons]
      exact (first.bind fun found _ => rest.pure (found :: ·)).congr List.forall_mem_cons.symm

end Builds

/-- What a mapping must satisfy is asked of the entries that are read from it. -/
theorem forall_mapping_iff (good : List (Text × Document) → Prop) {value : Document}
    {found : List (Text × Document)} (read : entries value = .ok found) (empty : good []) :
    (∀ written, value = .mapping written → good written) ↔ good found := by
  unfold entries at read
  split at read
  · split at read
    · cases read
      exact ⟨fun all => all _ rfl, fun holds written same => by cases same; exact holds⟩
    · cases read
  · next missing =>
      cases read
      refine ⟨fun _ => empty, fun _ written same => ?_⟩
      have none : written = [] := by simpa [same, Document.isGiven] using missing
      rwa [none]

/-- The fields that entries of all kinds have are of the right shape. -/
structure EntryShape (entry : List (Text × Document)) : Prop where
  aliases : (field entry "aliases").isGiven → (field entry "aliases").IsSeries
  contexts : field entry "contexts" = .absent ∨ (field entry "contexts").IsSeries

structure StyleShape (entry : List (Text × Document)) : Prop extends EntryShape entry where
  upper : (field entry "upper").isGiven → (field entry "upper").IsSeries
  lower : (field entry "lower").isGiven → (field entry "lower").IsSeries
  digits : (field entry "digits").isGiven → (field entry "digits").IsSeries
  extra : (field entry "extra").isGiven → (field entry "extra").IsTable

structure ComponentShape (entry : List (Text × Document)) : Prop extends EntryShape entry where
  arguments : (field entry "args").isGiven → (field entry "args").IsSeries
  defaults : (field entry "defaults").isGiven → (field entry "defaults").IsMapping
  postProcess : (field entry "post_process").isGiven → (field entry "post_process").IsMapping
  parameters : (field entry "params").isGiven → (field entry "params").IsMapping

/-- The entries of a section that are mappings have a shape. -/
def SectionShape (document : List (Text × Document)) (name : Text)
    (shape : List (Text × Document) → Prop) : Prop :=
  ∀ found, field document name = .mapping found →
    ∀ entry ∈ found, ∀ fields, entry.2 = .mapping fields → shape fields

structure ShieldShape (shields : List (Text × Document)) : Prop where
  styles : (field shields "styles").isGiven → (field shields "styles").IsMapping
  aliases : ∀ found, field shields "styles" = .mapping found →
    ∀ entry ∈ found, entry.2.isGiven → entry.2.IsSeries

/-- All that a registry is built from has the shape that it is read in. -/
structure RegistryShape (document : List (Text × Document)) : Prop where
  styles : SectionShape document "styles" StyleShape
  frames : SectionShape document "frames" EntryShape
  badges : SectionShape document "badges" EntryShape
  separators : SectionShape document "separators" EntryShape
  components : SectionShape document "components" ComponentShape
  palette : (field document "palette").isGiven → (field document "palette").IsMapping
  shields : (field document "shield_styles").isGiven → (field document "shield_styles").IsMapping
  shieldStyles : ∀ shields, field document "shield_styles" = .mapping shields → ShieldShape shields

variable (path id place keys : Text) (entry : List (Text × Document))

end Registry.Load

/-- A file that holds a mapping holds one of the right shape. -/
def DocumentFile.Shaped : DocumentFile → Prop
  | .document (.mapping entries) => Registry.Load.RegistryShape entries
  | _ => True

namespace Registry

end Registry
end Flourish
