/-
This file says which colors a processor knows after a session. Main statement: a name has the color
that the last accepted extension of it gave, and one bad value refuses a whole extension.
-/

import Mathlib.Data.List.Induction
import Flourish.Processor.Session
import Flourish.Proofs.Palette

namespace Flourish

open Palette (Accepted LastWrites IsColor Writes)

namespace Request

/-- The request is an extension without bad values that gives the name this color. -/
def Sets (request : Request) (name color : Text) : Prop :=
  ∃ overrides, request = .extend overrides ∧ Accepted overrides ∧ LastWrites overrides name color

/-- The request is no extension without bad values that names the name. -/
def Leaves (request : Request) (name : Text) : Prop :=
  ∀ overrides, request = .extend overrides → Accepted overrides →
    ∀ entry ∈ overrides, entry.1 ≠ name

/-- One request of a session gives the name this color and the later ones leave it. -/
def LastSets (requests : List Request) (name color : Text) : Prop :=
  ∃ earlier request later, requests = earlier ++ request :: later ∧ request.Sets name color ∧
    ∀ other ∈ later, other.Leaves name

variable {requests : List Request} {request : Request} {name color : Text}
  {overrides : List (Text × Text)}

theorem not_lastSets_nil : ¬ LastSets [] name color := by
  rintro ⟨earlier, request, later, split, _⟩
  simp at split

/-- The last request of a session counts if it names the name. -/
theorem lastSets_snoc : LastSets (requests ++ [request]) name color ↔
    request.Sets name color ∨ (request.Leaves name ∧ LastSets requests name color) := by
  constructor
  · rintro ⟨earlier, setting, later, split, sets, leave⟩
    rcases List.eq_nil_or_concat later with rfl | ⟨others, last, rfl⟩
    · obtain ⟨rfl, rfl⟩ := List.append_singleton_inj.mp split
      exact Or.inl sets
    · rw [List.concat_eq_append, ← List.cons_append, ← List.append_assoc] at split
      obtain ⟨rfl, rfl⟩ := List.append_singleton_inj.mp split
      rw [List.concat_eq_append] at leave
      exact Or.inr ⟨leave request (List.mem_append_right _ (List.mem_singleton_self _)),
        earlier, setting, others, rfl, sets,
        fun other member => leave other (List.mem_append_left _ member)⟩
  · rintro (sets | ⟨leaves, earlier, setting, later, rfl, sets, leave⟩)
    · exact ⟨requests, request, [], rfl, sets, fun other member => nomatch member⟩
    · refine ⟨earlier, setting, later ++ [request], by simp, sets, fun other member => ?_⟩
      rcases List.mem_append.mp member with among | last
      · exact leave other among
      · exact List.mem_singleton.mp last ▸ leaves

theorem not_sets_process {document : Text} : ¬ Sets (.process document) name color := by
  rintro ⟨overrides, same, _⟩
  cases same

theorem leaves_process {document : Text} : Leaves (.process document) name := by
  intro overrides same
  cases same

theorem sets_extend (accepted : Accepted overrides) :
    Sets (.extend overrides) name color ↔ LastWrites overrides name color := by
  refine ⟨?_, fun writes => ⟨overrides, rfl, accepted, writes⟩⟩
  rintro ⟨others, same, _, writes⟩
  cases same
  exact writes

theorem leaves_extend (accepted : Accepted overrides) :
    Leaves (.extend overrides) name ↔ ∀ entry ∈ overrides, entry.1 ≠ name := by
  refine ⟨fun leaves => leaves overrides rfl accepted, fun absent others same _ => ?_⟩
  cases same
  exact absent

theorem not_sets_refused (refused : ¬ Accepted overrides) :
    ¬ Sets (.extend overrides) name color := by
  rintro ⟨others, same, accepted, _⟩
  cases same
  exact refused accepted

theorem leaves_refused (refused : ¬ Accepted overrides) : Leaves (.extend overrides) name := by
  intro others same accepted
  cases same
  exact absurd accepted refused

end Request

open Request (LastSets)

/-- The palette has its first built-in colors, and its overlay has the colors that the requests of
a session set last and no others. -/
structure Palette.Records (palette : Palette) (builtin : Table Text) (requests : List Request) :
    Prop where
  builtin : palette.builtin = builtin
  overlay : ∀ name color, palette.overlay.find? name = some color ↔ LastSets requests name color
  colors : ∀ entry ∈ palette.overlay, IsColor entry.2

namespace Processor

variable {processor : Processor} {overrides : List (Text × Text)}

/-- The processor takes on the colors of an extension: the last entry of a name counts, and other
names keep their colors. -/
def TakesOn (processor : Processor) (overrides : List (Text × Text)) : Prop :=
  ∃ palette, (processor.extendPalette overrides).result = .ok { processor with palette } ∧
    processor.after (.extend overrides) = { processor with palette } ∧
    palette.builtin = processor.palette.builtin ∧
    (∀ name color, palette.overlay.find? name = some color ↔ LastWrites overrides name color ∨
      ((∀ entry ∈ overrides, entry.1 ≠ name) ∧
        processor.palette.overlay.find? name = some color)) ∧
    ∀ entry ∈ palette.overlay, IsColor entry.2 ∨ entry ∈ processor.palette.overlay

/-- The processor refuses an extension for its first value that writes no color, and stays as it
is. -/
def Refuses (processor : Processor) (overrides : List (Text × Text)) : Prop :=
  ∃ earlier name value later, overrides = earlier ++ (name, value) :: later ∧
    Accepted earlier ∧ (∀ color, ¬ Writes value color) ∧
    (processor.extendPalette overrides).result =
      .error (.failure (Cause.invalidParameter name value .notHex).unplaced) ∧
    processor.after (.extend overrides) = processor

theorem takesOn_of_accepted (processor : Processor) (accepted : Accepted overrides) :
    processor.TakesOn overrides := by
  obtain ⟨palette, extended, kept⟩ := processor.palette.extend_accepted accepted
  have result : (processor.extendPalette overrides).result = .ok { processor with palette } := by
    rw [extendPalette, extended]
  refine ⟨palette, result, ?_, kept⟩
  rw [after, result]

theorem refuses_of_not_accepted (processor : Processor) (refused : ¬ Accepted overrides) :
    processor.Refuses overrides := by
  obtain ⟨earlier, name, value, later, split, accepted, bad, failed⟩ :=
    processor.palette.extend_refused refused
  have result : (processor.extendPalette overrides).result =
      .error (.failure (Cause.invalidParameter name value .notHex).unplaced) := by
    rw [extendPalette, failed]
  refine ⟨earlier, name, value, later, split, accepted, bad, result, ?_⟩
  rw [after, result]

/-- One more request is recorded. -/
theorem records_after {builtin : Table Text} {requests : List Request} (request : Request)
    (records : processor.palette.Records builtin requests) :
    (processor.after request).palette.Records builtin (requests ++ [request]) := by
  cases request with
  | process document =>
      refine ⟨records.builtin, fun name color => ?_, records.colors⟩
      rw [Request.lastSets_snoc, or_iff_right Request.not_sets_process,
        and_iff_right Request.leaves_process]
      exact records.overlay name color
  | extend overrides =>
      by_cases accepted : Accepted overrides
      · obtain ⟨palette, _, same, builtin, overlay, colors⟩ :=
          processor.takesOn_of_accepted accepted
        rw [same]
        refine ⟨builtin.trans records.builtin, fun name color => ?_, fun entry member => ?_⟩
        · rw [Request.lastSets_snoc, Request.sets_extend accepted, Request.leaves_extend accepted,
            ← records.overlay]
          exact overlay name color
        · exact (colors entry member).elim id (records.colors entry)
      · obtain ⟨_, _, _, _, _, _, _, _, same⟩ := processor.refuses_of_not_accepted accepted
        rw [same]
        refine ⟨records.builtin, fun name color => ?_, records.colors⟩
        rw [Request.lastSets_snoc, or_iff_right (Request.not_sets_refused accepted),
          and_iff_right (Request.leaves_refused accepted)]
        exact records.overlay name color

/-- A session is recorded. -/
theorem records_afterAll (registry : Registry) (settings : Settings) (renderer : Renderer)
    (context : Context) (requests : List Request) :
    ((make registry settings renderer context).afterAll requests).palette.Records
      registry.palette requests := by
  induction requests using List.reverseRecOn with
  | nil =>
      refine ⟨rfl, fun name color => ?_, fun entry member => nomatch member⟩
      exact iff_of_false (fun found => nomatch found) Request.not_lastSets_nil
  | append_singleton requests request inductionHypothesis =>
      rw [afterAll, List.foldl_append]
      exact records_after request inductionHypothesis

/-- After any session the overlay has the colors that were set last and no others, the built-in
colors are the first ones, and a name is looked up in the overlay, then among the built-in colors,
then read as a color. The next extension is taken on if all its values write colors, and else
refused for the first one that does not. -/
theorem palette_afterAll (registry : Registry) (settings : Settings) (renderer : Renderer)
    (context : Context) (requests : List Request) :
    ∃ processor, (make registry settings renderer context).afterAll requests = processor ∧
      processor.palette.Records registry.palette requests ∧
      (∀ name color, processor.palette.lookup? name = some color ↔
        LastSets requests (Text.trim name) color ∨
          ((∀ other, ¬ LastSets requests (Text.trim name) other) ∧
            (registry.palette.find? (Text.trim name) = some color ∨
              (registry.palette.find? (Text.trim name) = none ∧
                Writes (Text.trim name) color)))) ∧
      ∀ overrides, (Accepted overrides → processor.TakesOn overrides) ∧
        (¬ Accepted overrides → processor.Refuses overrides) := by
  have records := records_afterAll registry settings renderer context requests
  refine ⟨_, rfl, records, fun name color => ?_, fun overrides =>
    ⟨takesOn_of_accepted _, refuses_of_not_accepted _⟩⟩
  rw [Palette.lookup?_eq_some_iff, records.builtin, records.overlay,
    Option.eq_none_iff_forall_ne_some]
  simp only [ne_eq, records.overlay]

-- An extension with a bad value gives no color at all, not even those with good values.
example (registry : Registry) (settings : Settings) (renderer : Renderer) (context : Context) :
    ((make registry settings renderer context).afterAll
      [.extend [("a", "#00ff00")], .process "text", .extend [("a", "111111"), ("b", "red")]]
      ).palette.overlay = ([("a", "00FF00")] : List (Text × Text)) :=
  rfl

end Processor
end Flourish
