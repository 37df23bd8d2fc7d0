/-
This file says which registry documents are accepted, and which entry is named when one is not. Main
statement: a document with values of the right kinds is refused exactly if an entry is at fault or
the default shield style is missing, the first entry at fault is named whatever comes after it, and
a document without a fault becomes a registry of what it lists.
-/

import Flourish.Proofs.Registry.Fault
import Flourish.Proofs.Registry.Lookup

namespace Flourish

namespace Registry.Load

/-- The sections of entries in the order in which they are built. -/
def sections : List (RenderableKind × Text) :=
  [(.style, "styles"), (.frame, "frames"), (.badge, "badges"), (.separator, "separators"),
    (.component, "components")]

theorem forall_sections {property : RenderableKind × Text → Prop} :
    (∀ part ∈ sections, property part) ↔ property (.style, "styles") ∧
      property (.frame, "frames") ∧ property (.badge, "badges") ∧
      property (.separator, "separators") ∧ property (.component, "components") := by
  simp [sections]

/-- An entry as a document lists it. -/
structure Listed where
  kind : RenderableKind
  id : Text
  fields : List (Text × Document)

namespace Listed

def Faulty (entry : Listed) : Prop :=
  Load.Faulty entry.fields entry.kind

/-- Why the entry cannot be built, if it cannot. -/
def stop? (entry : Listed) : Option Stop :=
  match build entry.kind entry.id entry.fields with
  | .ok _ => none
  | .error stop => some stop

end Listed

/-- The entries of a section in the order of the document. -/
def sectionListed (document : List (Text × Document)) (part : RenderableKind × Text) :
    List Listed :=
  (field document part.2).entries.map fun entry => ⟨part.1, entry.1, entry.2.entries⟩

/-- The entries of a document in the order in which they are built. -/
def listed (document : List (Text × Document)) : List Listed :=
  sections.flatMap (sectionListed document)

/-- The sections that are given are mappings of mappings, and what is read from them and beside them
has the right shape. -/
structure WellTyped (document : List (Text × Document)) : Prop extends RegistryShape document where
  given : ∀ part ∈ sections, (field document part.2).isGiven → (field document part.2).IsMapping
  mappings : ∀ part ∈ sections, ∀ entry ∈ (field document part.2).entries, entry.2.IsMapping

/-- The fields of the shield styles. -/
def shieldFields (document : List (Text × Document)) : List (Text × Document) :=
  (field document "shield_styles").entries

def shieldFallback (document : List (Text × Document)) : Text :=
  (fieldOr (shieldFields document) "default" (.text "flat-square")).plain

def shieldNames (document : List (Text × Document)) : List Text :=
  Table.names (field (shieldFields document) "styles").entries

/-- There are shield styles, and the default one is none of them. -/
def FallbackMissing (document : List (Text × Document)) : Prop :=
  shieldNames document ≠ [] ∧ shieldFallback document ∉ shieldNames document

end Registry.Load

open Registry.Load

/-- The registry has a definition for each entry that the document lists, and no others beside the
templates of the project. What a name stands for is found in it. -/
structure Registry.Follows (registry : Registry) (document : List (Text × Document))
    (partials : Table Text) : Prop where
  wellFormed : registry.WellFormed
  ids : ∀ part ∈ sections, ∀ id,
    id ∈ (registry.entries part.1).map Entry.id ↔ id ∈ Table.names (field document part.2).entries
  defines : ∀ part ∈ sections, ∀ entry ∈ registry.entries part.1,
    ∃ written ∈ (field document part.2).entries,
      written.1 = entry.id ∧ Defines written.2.entries part.1 entry.body
  partials : registry.partials = partialEntries partials
  own : ∀ kind, ∀ entry ∈ registry.entries kind,
    Entry.find? (registry.entries kind) entry.id = some entry
  resolves : ∀ name context, registry.Resolution name context (registry.resolve name context)

namespace Registry.Load

/-- How the reading of a document may end: it is refused for the first entry at fault, or for the
default shield style if no entry is, or else becomes a registry. -/
inductive Outcome (path : Text) (document : List (Text × Document)) (partials : Table Text) :
    Except Stop Registry → Prop
  | refused (before : List Listed) (entry : Listed) (after : List Listed)
      (order : listed document = before ++ entry :: after)
      (sound : ∀ earlier ∈ before, ¬ earlier.Faulty) (faulty : entry.Faulty)
      (fault : ConfigurationFault) (named : label entry.kind entry.id <+: fault.message) :
      Outcome path document partials (.error (.failure (Cause.configuration fault).unplaced))
  | fallback (sound : ∀ entry ∈ listed document, ¬ entry.Faulty)
      (missing : FallbackMissing document) :
      Outcome path document partials (.error (.failure (Cause.configuration
        (.defaultShieldStyle path (shieldFallback document))).unplaced))
  | built (registry : Registry) (sound : ∀ entry ∈ listed document, ¬ entry.Faulty)
      (known : ¬ FallbackMissing document) (follows : registry.Follows document partials) :
      Outcome path document partials (.ok registry)

/-- Building goes through entries in order. It ends with the first one that cannot be built, or with
a later fault, or with a value. -/
def Runs {Value : Type} (entries : List Listed) (good : Value → Prop) (bad : Stop → Prop)
    (result : Built Value) : Prop :=
  Ends (fun value => entries.findSome? Listed.stop? = none ∧ good value)
    (fun stop => entries.findSome? Listed.stop? = some stop ∨
      entries.findSome? Listed.stop? = none ∧ bad stop) result

namespace Runs

variable {Value Other : Type} {entries others : List Listed} {good : Value → Prop}
  {fine : Other → Prop} {bad : Stop → Prop} {result : Built Value}

theorem ok {value : Value} (holds : good value) : Runs [] good bad (.ok value) :=
  Ends.ok ⟨rfl, holds⟩

theorem bind (runs : Runs entries good (fun _ => False) result) {next : Value → Built Other}
    (after : ∀ value, good value → Runs others fine bad (next value)) :
    Runs (entries ++ others) fine bad (result >>= next) := by
  unfold Runs
  rw [List.findSome?_append]
  cases result with
  | error stop =>
      rcases runs.fails with first | ⟨_, impossible⟩
      · rw [first]
        exact Ends.error (Or.inl rfl)
      · exact impossible.elim
  | ok value =>
      obtain ⟨sound, holds⟩ := runs.holds
      rw [sound]
      exact after value holds

theorem single (kind : RenderableKind) (id : Text) (fields : List (Text × Document)) :
    Runs [⟨kind, id, fields⟩] (fun entry => build kind id fields = .ok entry) (fun _ => False)
      (build kind id fields) := by
  unfold Runs
  rw [List.findSome?_singleton, Listed.stop?]
  cases build kind id fields with
  | error stop => exact Ends.error (Or.inl rfl)
  | ok entry => exact Ends.ok ⟨rfl, rfl⟩

end Runs

/-- The values are what entries of a kind become, one for each. -/
structure Become (kind : RenderableKind) (written : List (Text × Document))
    (built : List (Entry kind.Body)) : Prop where
  all : ∀ entry ∈ written, ∃ value ∈ built, build kind entry.1 entry.2.entries = .ok value
  only : ∀ value ∈ built, ∃ entry ∈ written, build kind entry.1 entry.2.entries = .ok value

theorem Become.nil (kind : RenderableKind) : Become kind [] [] where
  all _ member := absurd member List.not_mem_nil
  only _ member := absurd member List.not_mem_nil

theorem mapM_runs {kind : RenderableKind} {written : List (Text × Document)}
    {compute : Text × Document → Built (Entry kind.Body)}
    (computes : ∀ entry ∈ written, compute entry = build kind entry.1 entry.2.entries) :
    Runs (written.map fun entry => ⟨kind, entry.1, entry.2.entries⟩) (Become kind written)
      (fun _ => False) (written.mapM compute) := by
  induction written with
  | nil => exact .ok (.nil kind)
  | cons entry rest inductionHypothesis =>
      have later := inductionHypothesis fun other member =>
        computes other (List.mem_cons_of_mem _ member)
      rw [List.mapM_cons, computes entry List.mem_cons_self]
      refine (Runs.single kind entry.1 entry.2.entries).bind fun value read => ?_
      rw [← List.append_nil (List.map _ rest)]
      refine later.bind fun values become => .ok ⟨?_, ?_⟩
      · refine List.forall_mem_cons.mpr ⟨⟨value, List.mem_cons_self, read⟩, fun other among => ?_⟩
        obtain ⟨found, member, same⟩ := become.all other among
        exact ⟨found, List.mem_cons_of_mem _ member, same⟩
      · refine List.forall_mem_cons.mpr ⟨⟨entry, List.mem_cons_self, read⟩, fun found member => ?_⟩
        obtain ⟨other, among, same⟩ := become.only found member
        exact ⟨other, List.mem_cons_of_mem _ among, same⟩

/-- A section becomes the table of its entries. -/
theorem sectionEntries_runs (path : Text) {document : List (Text × Document)}
    (typed : WellTyped document) (part : RenderableKind × Text) (among : part ∈ sections) :
    Runs (sectionListed document part)
      (fun table => ∃ built, Become part.1 (field document part.2).entries built ∧
        table = Entry.keyed built)
      (fun _ => False) (sectionEntries path document part.2 (build part.1)) := by
  have mappings := typed.mappings part among
  unfold sectionListed sectionEntries
  dsimp only
  split
  · next given =>
      have mapping := typed.given part among given
      cases written : field document part.2 with
      | mapping found =>
          rw [written, Document.entries] at mappings
          rw [Document.entries, ← List.append_nil (List.map _ found)]
          refine (mapM_runs fun entry member => ?_).bind fun built become =>
            Runs.ok ⟨built, become, rfl⟩
          obtain ⟨id, value⟩ := entry
          cases mappings (id, value) member
          rfl
      | _ =>
          rw [written] at mapping
          cases mapping
  · next missing =>
      rw [Document.entries_of_missing missing]
      exact .ok ⟨[], .nil part.1, rfl⟩

/-- Shield styles of the right shape are read under their names. -/
theorem shieldStyles_of_shape {shields : List (Text × Document)} (shape : ShieldShape shields) :
    ∃ known, shieldStyles shields = .ok known ∧
      ∀ name, name ∈ known.names ↔ name ∈ Table.names (field shields "styles").entries := by
  have written := entries_of_shape shape.styles
  have aliases := (forall_mapping_iff
    (fun found => ∀ entry ∈ found, entry.2.isGiven → entry.2.IsSeries) written nofun).mp
      shape.aliases
  have ends : Ends (List.Forall₂ (fun style found => style.1 = found.1)
      (field shields "styles").entries) (fun _ => False)
      ((field shields "styles").entries.mapM fun style => (texts style.2).map (style.1, ·)) := by
    refine Ends.mapM _ fun style member => ?_
    rw [texts_of_shape (aliases style member)]
    exact .ok rfl
  obtain ⟨found, read, same⟩ := ends.exists_ok
  have names : Table.names (field shields "styles").entries = Table.names found := by
    rw [Table.names, Table.names, ← List.forall₂_eq_eq_eq]
    exact List.forall₂_map_left_iff.mpr (List.forall₂_map_right_iff.mpr same)
  refine ⟨Table.ofEntries found, ?_, fun name => names ▸ Table.mem_names_ofEntries⟩
  rw [shieldStyles, written]
  change ((field shields "styles").entries.mapM fun style =>
    (texts style.2).map (style.1, ·)) >>= _ = _
  rw [read]
  rfl

/-- A document is gone through entry by entry, and the default shield style comes last. -/
theorem ofMapping_runs (path : Text) {document : List (Text × Document)} (partials : Table Text)
    (typed : WellTyped document) :
    Runs (listed document)
      (fun registry => (∀ part ∈ sections, ∃ built,
          Become part.1 (field document part.2).entries built ∧
            registry.entries part.1 = Entry.keyed built) ∧
        registry.partials = partialEntries partials ∧ ¬ FallbackMissing document)
      (fun stop => FallbackMissing document ∧ stop = .failure (Cause.configuration
        (.defaultShieldStyle path (shieldFallback document))).unplaced)
      (ofMapping path document partials) := by
  have runs := sectionEntries_runs path typed
  have shape : ShieldShape (shieldFields document) :=
    (forall_mapping_iff ShieldShape (entries_of_shape typed.shields) ⟨nofun, nofun⟩).mp
      typed.shieldStyles
  obtain ⟨known, read, names⟩ := shieldStyles_of_shape shape
  unfold ofMapping
  rw [plainEntries_of_shape typed.palette, entries_of_shape typed.shields]
  refine (runs (.style, "styles") (by decide)).bind fun styles becomeStyles =>
    (runs (.frame, "frames") (by decide)).bind fun frames becomeFrames =>
    (runs (.badge, "badges") (by decide)).bind fun badges becomeBadges =>
    (runs (.separator, "separators") (by decide)).bind fun separators becomeSeparators =>
    (runs (.component, "components") (by decide)).bind fun components becomeComponents => ?_
  change Runs [] _ _ (shieldStyles (shieldFields document) >>= _)
  rw [read]
  change Runs [] _ _ (if !known.isEmpty && !known.contains (shieldFallback document) then _ else _)
  have missing : (!known.isEmpty && !known.contains (shieldFallback document)) = true ↔
      FallbackMissing document := by
    have empty : known = [] ↔ shieldNames document = [] := by
      rw [← List.map_eq_nil_iff (f := Prod.fst), List.eq_nil_iff_forall_not_mem,
        List.eq_nil_iff_forall_not_mem]
      exact forall_congr' fun name => not_congr (names name)
    have contained : known.contains (shieldFallback document) = true ↔
        shieldFallback document ∈ shieldNames document :=
      Table.mem_names_iff.symm.trans (names _)
    rw [FallbackMissing, Bool.and_eq_true, Bool.not_eq_true', Bool.not_eq_true',
      ← Bool.not_eq_true, ← Bool.not_eq_true, List.isEmpty_iff, empty, contained]
  split
  · next wrong => exact Ends.error (Or.inr ⟨rfl, missing.mp wrong, rfl⟩)
  · next right =>
      refine .ok ⟨forall_sections.mpr ?_, rfl, fun wrong => right (missing.mpr wrong)⟩
      exact ⟨becomeStyles, becomeFrames, becomeBadges, becomeSeparators, becomeComponents⟩

variable {path : Text} {document : List (Text × Document)} {partials : Table Text}

theorem mem_listed {part : RenderableKind × Text} (among : part ∈ sections)
    {written : Text × Document} (member : written ∈ (field document part.2).entries) :
    ⟨part.1, written.1, written.2.entries⟩ ∈ listed document :=
  List.mem_flatMap.mpr ⟨part, among, List.mem_map_of_mem member⟩

/-- The entries of a section have the shape of their kind. -/
theorem WellTyped.shaped (typed : WellTyped document) {entry : Listed}
    (member : entry ∈ listed document) : Shaped entry.fields entry.kind := by
  obtain ⟨part, among, listed⟩ := List.mem_flatMap.mp member
  obtain ⟨⟨id, value⟩, written, rfl⟩ := List.mem_map.mp listed
  have shapes : ∀ part ∈ sections, SectionShape document part.2 (Shaped · part.1) :=
    forall_sections.mpr
      ⟨typed.styles, typed.frames, typed.badges, typed.separators, typed.components⟩
  cases typed.mappings part among (id, value) written with
  | mapping fields =>
      cases section_ : field document part.2 with
      | mapping found =>
          rw [section_] at written
          exact shapes part among found section_ (id, .mapping fields) written fields rfl
      | _ =>
          rw [section_] at written
          cases written

namespace Listed

variable {entry : Listed}

theorem stop?_eq_none_iff (shaped : Shaped entry.fields entry.kind) :
    entry.stop? = none ↔ ¬ entry.Faulty := by
  have reports := build_reports entry.id shaped
  unfold stop?
  cases built : build entry.kind entry.id entry.fields with
  | ok value =>
      rw [built] at reports
      exact iff_of_true rfl reports.holds.1
  | error stop =>
      rw [built] at reports
      exact iff_of_false nofun (not_not.mpr reports.fails.1)

theorem faulty_of_stop? (shaped : Shaped entry.fields entry.kind) {stop : Stop}
    (stops : entry.stop? = some stop) :
    entry.Faulty ∧ ∃ fault, stop = .failure (Cause.configuration fault).unplaced ∧
      label entry.kind entry.id <+: fault.message := by
  have reports := build_reports entry.id shaped
  unfold stop? at stops
  cases built : build entry.kind entry.id entry.fields with
  | ok value =>
      rw [built] at stops
      cases stops
  | error other =>
      rw [built] at reports stops
      cases stops
      exact reports.fails

end Listed

/-- A definition is built from an entry of its section. -/
theorem WellTyped.defines (typed : WellTyped document) {part : RenderableKind × Text}
    (among : part ∈ sections) {written : Text × Document}
    (member : written ∈ (field document part.2).entries) {value : Entry part.1.Body}
    (built : build part.1 written.1 written.2.entries = .ok value) :
    value.id = written.1 ∧ Defines written.2.entries part.1 value.body := by
  have reports := build_reports written.1 (typed.shaped (mem_listed among member))
  rw [built] at reports
  exact reports.holds.2

theorem WellTyped.follows (typed : WellTyped document) {registry : Registry}
    (read : ofMapping path document partials = .ok registry)
    (tables : ∀ part ∈ sections, ∃ built, Become part.1 (field document part.2).entries built ∧
      registry.entries part.1 = Entry.keyed built)
    (given : registry.partials = partialEntries partials) :
    registry.Follows document partials := by
  have accepted : registry.Accepted :=
    .read (show ofFile path (.document (.mapping document)) partials = .ok registry from read)
  have distinct := accepted.wellFormed.distinct
  refine ⟨accepted.wellFormed, ?_, ?_, given, ?_, ?_⟩
  · intro part among id
    obtain ⟨built, become, table⟩ := tables part among
    rw [table, Entry.mem_ids_keyed_iff, Table.names, List.mem_map, List.mem_map]
    constructor
    · rintro ⟨value, member, rfl⟩
      obtain ⟨written, listed, same⟩ := become.only value member
      exact ⟨written, listed, (typed.defines among listed same).1.symm⟩
    · rintro ⟨written, listed, rfl⟩
      obtain ⟨value, member, same⟩ := become.all written listed
      exact ⟨value, member, (typed.defines among listed same).1⟩
  · intro part among entry member
    obtain ⟨built, become, table⟩ := tables part among
    rw [table] at member
    obtain ⟨written, listed, same⟩ := become.only entry (Entry.mem_of_mem_keyed member)
    obtain ⟨id, defines⟩ := typed.defines among listed same
    exact ⟨written, listed, id.symm, defines⟩
  · intro kind entry member
    exact (Entry.find?_eq_iff (distinct kind)).mpr (.own entry member rfl)
  · intro name context
    exact (resolve_eq_iff distinct).mp rfl

theorem ofMapping_outcome (path : Text) (partials : Table Text) (typed : WellTyped document) :
    Outcome path document partials (ofMapping path document partials) := by
  have runs := ofMapping_runs path partials typed
  have sound {entries : List Listed} (among : ∀ entry ∈ entries, entry ∈ listed document)
      (none : ∀ entry ∈ entries, entry.stop? = none) : ∀ entry ∈ entries, ¬ entry.Faulty :=
    fun entry member => (Listed.stop?_eq_none_iff (typed.shaped (among entry member))).mp
      (none entry member)
  cases read : ofMapping path document partials with
  | ok registry =>
      rw [read] at runs
      obtain ⟨fine, tables, given, known⟩ := runs.holds
      exact .built registry (sound (fun _ => id) (List.findSome?_eq_none_iff.mp fine)) known
        (typed.follows read tables given)
  | error stop =>
      rw [read] at runs
      rcases runs.fails with first | ⟨fine, missing, rfl⟩
      · obtain ⟨before, entry, after, order, stops, fine⟩ := List.findSome?_eq_some_iff.mp first
        have member : entry ∈ listed document := order ▸ List.mem_append_right _ List.mem_cons_self
        obtain ⟨faulty, fault, rfl, named⟩ := Listed.faulty_of_stop? (typed.shaped member) stops
        have earlier : ∀ other ∈ before, other ∈ listed document :=
          fun other among => order ▸ List.mem_append_left _ among
        exact .refused before entry after order (sound earlier fine) faulty fault named
      · exact .fallback (sound (fun _ => id) (List.findSome?_eq_none_iff.mp fine)) missing

theorem Outcome.fails_iff {result : Except Stop Registry}
    (outcome : Outcome path document partials result) :
    (∃ stop, result = .error stop) ↔
      (∃ entry ∈ listed document, entry.Faulty) ∨ FallbackMissing document := by
  cases outcome with
  | refused before entry after order sound faulty fault named =>
      have member : entry ∈ listed document := order ▸ List.mem_append_right _ List.mem_cons_self
      exact iff_of_true ⟨_, rfl⟩ (Or.inl ⟨entry, member, faulty⟩)
  | fallback sound missing => exact iff_of_true ⟨_, rfl⟩ (Or.inr missing)
  | built registry sound known follows =>
      refine iff_of_false nofun ?_
      rintro (⟨entry, member, faulty⟩ | missing)
      · exact sound entry member faulty
      · exact known missing

/-- An entry at fault with sound entries before it decides how a document is refused. -/
theorem stops_at (path : Text) (partials : Table Text) (typed : WellTyped document)
    {before after : List Listed} {entry : Listed}
    (order : listed document = before ++ entry :: after)
    (sound : ∀ earlier ∈ before, ¬ earlier.Faulty) (faulty : entry.Faulty) :
    ∃ stop, entry.stop? = some stop ∧ ofMapping path document partials = .error stop := by
  have stops {other : Listed} (among : other ∈ before ++ entry :: after) :=
    Listed.stop?_eq_none_iff (typed.shaped (order ▸ among))
  have here : entry.stop? ≠ none := fun none =>
    (stops (List.mem_append_right _ List.mem_cons_self)).mp none faulty
  obtain ⟨stop, refuses⟩ := Option.ne_none_iff_exists'.mp here
  refine ⟨stop, refuses, ?_⟩
  have first : (listed document).findSome? Listed.stop? = some stop := by
    refine List.findSome?_eq_some_iff.mpr ⟨before, entry, after, order, refuses, ?_⟩
    exact fun earlier among => (stops (List.mem_append_left _ among)).mpr (sound earlier among)
  have runs := ofMapping_runs path partials typed
  cases read : ofMapping path document partials with
  | ok registry =>
      rw [read] at runs
      cases runs.holds.1.symm.trans first
  | error other =>
      rw [read] at runs
      rcases runs.fails with found | ⟨none, _⟩
      · rw [Option.some.inj (found.symm.trans first)]
      · cases none.symm.trans first

end Registry.Load

namespace Registry

variable {document : List (Text × Document)}

/-- A document with values of the right kinds is refused exactly if one of its entries is at fault
or the default shield style is missing. The first entry at fault is named, and what comes after it
does not matter. A document without a fault becomes a registry of what it lists. -/
theorem ofFile_exact (path : Text) (partials : Table Text) (typed : WellTyped document) :
    ((∃ stop, ofFile path (.document (.mapping document)) partials = .error stop) ↔
        (∃ entry ∈ listed document, entry.Faulty) ∨ FallbackMissing document) ∧
      Outcome path document partials (ofFile path (.document (.mapping document)) partials) ∧
      ∀ before entry after, listed document = before ++ entry :: after →
        (∀ earlier ∈ before, ¬ earlier.Faulty) → entry.Faulty →
        ∀ otherPath otherPartials other later, WellTyped other →
          listed other = before ++ entry :: later →
          ofFile otherPath (.document (.mapping other)) otherPartials =
            ofFile path (.document (.mapping document)) partials := by
  have outcome : Outcome path document partials
      (ofFile path (.document (.mapping document)) partials) :=
    ofMapping_outcome path partials typed
  refine ⟨outcome.fails_iff, outcome, ?_⟩
  intro before entry after order sound faulty otherPath otherPartials other later otherTyped same
  obtain ⟨stop, refuses, ends⟩ := stops_at path partials typed order sound faulty
  obtain ⟨otherStop, again, otherEnds⟩ :=
    stops_at otherPath otherPartials otherTyped same sound faulty
  cases refuses.symm.trans again
  exact otherEnds.trans ends.symm

/-- A document with a sound style, a style with too few glyphs, and a separator without letters. -/
def faultyDocument : List (Text × Document) :=
  [("styles", .mapping [("plain", .mapping []), ("short", .mapping [("upper", .text "AB")])]),
    ("separators", .mapping [("blank", .mapping [])])]

theorem faultyDocument_wellTyped : WellTyped faultyDocument := by
  have bare : EntryShape [] := ⟨nofun, Or.inl rfl⟩
  have plain : StyleShape [] := ⟨bare, nofun, nofun, nofun, nofun⟩
  have short : StyleShape [("upper", .text "AB")] :=
    ⟨⟨nofun, Or.inl rfl⟩, fun _ => .text _, nofun, nofun, nofun⟩
  refine ⟨⟨?_, nofun, nofun, ?_, nofun, nofun, nofun, nofun⟩, forall_sections.mpr ?_,
    forall_sections.mpr ?_⟩
  · rintro found ⟨⟩ entry member fields same
    rcases List.mem_pair.mp member with rfl | rfl
    · cases same
      exact plain
    · cases same
      exact short
  · rintro found ⟨⟩ entry member fields same
    cases List.mem_singleton.mp member
    cases same
    exact bare
  · exact ⟨fun _ => .mapping _, nofun, nofun, fun _ => .mapping _, nofun⟩
  · refine ⟨fun entry member => ?_, nofun, nofun, fun entry member => ?_, nofun⟩
    · rcases List.mem_pair.mp member with rfl | rfl
      · exact .mapping _
      · exact .mapping _
    · cases List.mem_singleton.mp member
      exact .mapping _

theorem ofFile_exact_faulty :
    WellTyped faultyDocument ∧ Outcome "registry.yaml" faultyDocument [] (.error (.failure
      (Cause.configuration (.glyphCount "style 'short' upper" 26 2)).unplaced)) := by
  have outcome := (ofFile_exact "registry.yaml" [] faultyDocument_wellTyped).2.1
  exact ⟨faultyDocument_wellTyped, outcome⟩

end Registry
end Flourish
