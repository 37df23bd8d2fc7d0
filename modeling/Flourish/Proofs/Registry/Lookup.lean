/-
This file says what a name stands for in a registry. Main statement: in each table a name stands for
the entry that has it as its id, and else for the first one that lists it; of all tables the first
one counts whose entry may be used.
-/

import Flourish.Proofs.Registry.Accepted

namespace Flourish

namespace Entry

variable {Body : Type} {table : List (Entry Body)} {name id : Text}

/-- One of the places that the entry declares promotes to the context. -/
def UsableIn (entry : Entry Body) (context : Context) : Prop :=
  ∃ declared ∈ entry.contexts, declared.promotesTo context.kind

theorem admits_iff {entry : Entry Body} {context : Context} :
    context.admits entry.contexts = true ↔ entry.UsableIn context :=
  List.any_eq_true

/-- What a name stands for: the entry that has it as its id; if there is none, the first entry that
lists it; and else nothing. -/
inductive StandsFor (table : List (Entry Body)) (name : Text) : Option (Entry Body) → Prop
  | own (entry : Entry Body) (member : entry ∈ table) (same : entry.id = name) :
      StandsFor table name (some entry)
  | listed (before : List (Entry Body)) (entry : Entry Body) (after : List (Entry Body))
      (whole : table = before ++ entry :: after) (lists : name ∈ entry.aliases)
      (first : ∀ other ∈ before, name ∉ other.aliases)
      (unowned : ∀ other ∈ table, other.id ≠ name) : StandsFor table name (some entry)
  | nothing (unowned : ∀ other ∈ table, other.id ≠ name)
      (unlisted : ∀ other ∈ table, name ∉ other.aliases) : StandsFor table name none

/-- The rule by which a name is given: to the entry that has it as its id, else to the first entry
that lists it. -/
def owner? (table : List (Entry Body)) (name : Text) : Option (Entry Body) :=
  (table.find? fun entry => entry.id = name).or
    (table.find? fun entry => entry.aliases.contains name)

theorem mem_of_owner? {entry : Entry Body} (owned : owner? table name = some entry) :
    entry ∈ table := by
  rcases Option.or_eq_some_iff.mp owned with named | ⟨_, listed⟩
  · exact List.mem_of_find?_eq_some named
  · exact List.mem_of_find?_eq_some listed

theorem owner?_eq_iff (distinct : Distinct table) {found : Option (Entry Body)} :
    owner? table name = found ↔ StandsFor table name found := by
  have named_none : (table.find? fun entry => entry.id = name) = none ↔
      ∀ other ∈ table, other.id ≠ name := by
    simp only [List.find?_eq_none, decide_eq_true_eq, ne_eq]
  have listed_none : (table.find? fun entry => entry.aliases.contains name) = none ↔
      ∀ other ∈ table, name ∉ other.aliases := by
    simp only [List.find?_eq_none, List.contains_iff_mem]
  constructor
  · rintro rfl
    rw [owner?]
    cases named : table.find? fun entry => entry.id = name with
    | some entry =>
        exact .own entry (List.mem_of_find?_eq_some named) (by simpa using List.find?_some named)
    | none =>
        have unowned := named_none.mp named
        cases listed : table.find? fun entry => entry.aliases.contains name with
        | none => exact .nothing unowned (listed_none.mp listed)
        | some entry =>
            obtain ⟨lists, before, after, whole, first⟩ := List.find?_eq_some_iff_append.mp listed
            exact .listed before entry after whole (by simpa using lists) (by simpa using first)
              unowned
  · intro stands
    cases stands with
    | own entry member same =>
        subst same
        rw [owner?, find?_id distinct member]
        rfl
    | listed before entry after whole lists first unowned =>
        rw [owner?, named_none.mpr unowned]
        exact List.find?_eq_some_iff_append.mpr
          ⟨by simpa using lists, before, after, whole, by simpa using first⟩
    | nothing unowned unlisted =>
        rw [owner?, named_none.mpr unowned, listed_none.mpr unlisted]
        rfl

theorem find?_ids (table : List (Entry Body)) (name : Text) :
    Table.find? (table.map fun entry => (entry.id, entry.id)) name =
      (table.find? fun entry => entry.id = name).map Entry.id := by
  induction table with
  | nil => rfl
  | cons entry rest inductionHypothesis =>
      rw [List.map_cons, Table.find?_cons, inductionHypothesis, List.find?_cons]
      by_cases same : entry.id = name
      · simp [same]
      · simp [same, Ne.symm same]

theorem find?_aliases (table : List (Entry Body)) (name : Text) :
    Table.find? (table.flatMap fun entry => entry.aliases.map fun other => (other, entry.id)) name =
      (table.find? fun entry => entry.aliases.contains name).map Entry.id := by
  induction table with
  | nil => rfl
  | cons entry rest inductionHypothesis =>
      have listed : Table.find? (entry.aliases.map fun other => (other, entry.id)) name =
          if entry.aliases.contains name then some entry.id else none := by
        induction entry.aliases with
        | nil => rfl
        | cons other others inductionHypothesis =>
            rw [List.map_cons, Table.find?_cons, inductionHypothesis]
            by_cases same : name = other
            · simp [same]
            · simp [same]
      rw [List.flatMap_cons, Table.find?_append, listed, inductionHypothesis, List.find?_cons]
      cases entry.aliases.contains name <;> rfl

/-- The two passes in which the index is made give each name to its owner. -/
theorem find?_index (table : List (Entry Body)) (name : Text) :
    (index table).find? name = (owner? table name).map Entry.id := by
  rw [index, Table.find?_insertAllNew, Table.find?_insertAllNew, find?_ids, find?_aliases, owner?,
    Option.map_or]
  rfl

/-- Every name of the index leads to an entry. -/
theorem exists_of_index (known : (index table).find? name = some id) :
    ∃ entry ∈ table, entry.id = id := by
  rw [find?_index] at known
  obtain ⟨entry, owned, same⟩ := Option.map_eq_some_iff.mp known
  exact ⟨entry, mem_of_owner? owned, same⟩

theorem find?_eq_owner? (distinct : Distinct table) (name : Text) :
    find? table name = owner? table name := by
  rw [find?, find?_index]
  cases owned : owner? table name with
  | none => rfl
  | some entry => exact find?_id distinct (mem_of_owner? owned)

/-- The entry that is found is what the name stands for. -/
theorem find?_eq_iff (distinct : Distinct table) {found : Option (Entry Body)} :
    find? table name = found ↔ StandsFor table name found := by
  rw [find?_eq_owner? distinct]
  exact owner?_eq_iff distinct

theorem find?_summaries (table : List (Entry Body)) (name : Text) :
    find? (table.map summary) name = (find? table name).map summary := by
  have same : index (table.map summary) = index table := by
    simp only [index, List.map_map, List.flatMap_map]
    rfl
  rw [find?, find?, same]
  cases (index table).find? name with
  | none => rfl
  | some id => exact List.find?_map

theorem usableIds_summaries (table : List (Entry Body)) (context : Context) :
    usableIds (table.map summary) context = usableIds table context := by
  rw [usableIds, usableIds, List.filter_map, List.map_map]
  rfl

end Entry

theorem RenderableKind.mem_all (kind : RenderableKind) : kind ∈ all := by
  cases kind <;> decide

namespace Registry

variable {registry : Registry} {name : Text} {context : Context}

/-- What looking a name up in all tables answers: the entry of the first kind whose entry for the
name may be used; nothing if no kind has the name; and a mismatch with the places that the entry of
the first kind declares if no entry of the name may be used. -/
inductive Resolution (registry : Registry) (name : Text) (context : Context) :
    Except Failure (Option (RenderableKind × Entry Unit)) → Prop
  | found (before : List RenderableKind) (kind : RenderableKind) (after : List RenderableKind)
      (entry : Entry kind.Body) (order : RenderableKind.all = before ++ kind :: after)
      (stands : Entry.StandsFor (registry.entries kind) name (some entry))
      (usable : entry.UsableIn context)
      (first : ∀ earlier ∈ before, ∀ other,
        Entry.StandsFor (registry.entries earlier) name (some other) → ¬ other.UsableIn context) :
      Resolution registry name context (.ok (some (kind, entry.summary)))
  | unknown (nowhere : ∀ kind, Entry.StandsFor (registry.entries kind) name none) :
      Resolution registry name context (.ok none)
  | mismatch (before : List RenderableKind) (kind : RenderableKind) (after : List RenderableKind)
      (entry : Entry kind.Body) (order : RenderableKind.all = before ++ kind :: after)
      (stands : Entry.StandsFor (registry.entries kind) name (some entry))
      (first : ∀ earlier ∈ before, Entry.StandsFor (registry.entries earlier) name none)
      (unusable : ∀ other entry, Entry.StandsFor (registry.entries other) name (some entry) →
        ¬ entry.UsableIn context) :
      Resolution registry name context (.error (Cause.contextMismatch name entry.contextNames
        context.toText (alternativesIn (registry.entries kind) name context)).unplaced)

/-- What a kind contributes to the entries of a name in all tables. -/
def candidate? (registry : Registry) (name : Text) (kind : RenderableKind) :
    Option (RenderableKind × Entry Unit) :=
  (Entry.find? (registry.entries kind) name).map fun entry => (kind, entry.summary)

theorem candidates_eq (registry : Registry) (name : Text) :
    registry.candidates name = RenderableKind.all.filterMap (registry.candidate? name) := by
  rw [candidates]
  congr 1
  funext kind
  rw [candidate?, summaries, Entry.find?_summaries, Option.map_map]
  rfl

theorem candidate?_eq_some_iff {kind : RenderableKind} {found : RenderableKind × Entry Unit} :
    registry.candidate? name kind = some found ↔
      ∃ entry, Entry.find? (registry.entries kind) name = some entry ∧
        (kind, entry.summary) = found :=
  Option.map_eq_some_iff

theorem candidate?_eq_none_iff {kind : RenderableKind} :
    registry.candidate? name kind = none ↔ Entry.find? (registry.entries kind) name = none :=
  Option.map_eq_none_iff

theorem any_candidate? {kind : RenderableKind} :
    ((registry.candidate? name kind).any fun found => context.admits found.2.contexts) = true ↔
      ∃ entry, Entry.find? (registry.entries kind) name = some entry ∧ entry.UsableIn context := by
  rw [candidate?]
  cases Entry.find? (registry.entries kind) name with
  | none => simp
  | some entry =>
      simp only [Option.map_some, Option.any_some, Option.some.injEq, exists_eq_left']
      exact Entry.admits_iff

/-- The first entry of a name that may be used is that of the first kind with such an entry. -/
theorem find?_candidates_eq_some_iff {found : RenderableKind × Entry Unit} :
    (registry.candidates name).find? (fun candidate => context.admits candidate.2.contexts) =
        some found ↔
      ∃ before kind after entry, RenderableKind.all = before ++ kind :: after ∧
        Entry.find? (registry.entries kind) name = some entry ∧ entry.UsableIn context ∧
        (∀ earlier ∈ before, ∀ other,
          Entry.find? (registry.entries earlier) name = some other → ¬ other.UsableIn context) ∧
        (kind, entry.summary) = found := by
  rw [candidates_eq, List.find?_filterMap, Option.bind_eq_some_iff]
  constructor
  · rintro ⟨kind, chosen, same⟩
    obtain ⟨usable, before, after, order, first⟩ := List.find?_eq_some_iff_append.mp chosen
    obtain ⟨entry, known, same⟩ := candidate?_eq_some_iff.mp same
    obtain ⟨other, again, usable⟩ := any_candidate?.mp usable
    cases known.symm.trans again
    refine ⟨before, kind, after, entry, order, known, usable, ?_, same⟩
    intro earlier member other there usable
    have refused := first earlier member
    rw [any_candidate?.mpr ⟨other, there, usable⟩] at refused
    cases refused
  · rintro ⟨before, kind, after, entry, order, known, usable, first, same⟩
    refine ⟨kind, List.find?_eq_some_iff_append.mpr ⟨any_candidate?.mpr ⟨entry, known, usable⟩,
      before, after, order, ?_⟩, candidate?_eq_some_iff.mpr ⟨entry, known, same⟩⟩
    intro earlier member
    rw [Bool.not_eq_true', ← Bool.not_eq_true, any_candidate?]
    rintro ⟨other, there, usable⟩
    exact first earlier member other there usable

theorem find?_candidates_eq_none_iff :
    (registry.candidates name).find? (fun candidate => context.admits candidate.2.contexts) =
        none ↔
      ∀ kind entry, Entry.find? (registry.entries kind) name = some entry →
        ¬ entry.UsableIn context := by
  rw [candidates_eq, List.find?_filterMap, Option.bind_eq_none_iff]
  constructor
  · intro none kind entry known usable
    cases chosen : RenderableKind.all.find? fun kind =>
        (registry.candidate? name kind).any fun found => context.admits found.2.contexts with
    | none =>
        exact List.find?_eq_none.mp chosen kind kind.mem_all
          (any_candidate?.mpr ⟨entry, known, usable⟩)
    | some other =>
        have usable := List.find?_some chosen
        obtain ⟨found, there, _⟩ := any_candidate?.mp usable
        cases (candidate?_eq_none_iff.mp (none other chosen)).symm.trans there
  · intro unusable kind chosen
    have usable := List.find?_some chosen
    obtain ⟨entry, known, usable⟩ := any_candidate?.mp usable
    exact absurd usable (unusable kind entry known)

theorem mismatch_summary (kind : RenderableKind) (entry : Entry kind.Body) :
    mismatch (registry.summaries kind) entry.summary name context =
      (Cause.contextMismatch name entry.contextNames context.toText
        (alternativesIn (registry.entries kind) name context)).unplaced := by
  rw [mismatch, alternativesIn, alternativesIn, summaries, Entry.usableIds_summaries]
  rfl

/-- What is answered is what should be. -/
theorem resolution_of_resolve (distinct : ∀ kind, Entry.Distinct (registry.entries kind))
    (name : Text) (context : Context) :
    registry.Resolution name context (registry.resolve name context) := by
  have stands {kind : RenderableKind} {found : Option (Entry kind.Body)}
      (known : Entry.find? (registry.entries kind) name = found) :
      Entry.StandsFor (registry.entries kind) name found :=
    (Entry.find?_eq_iff (distinct kind)).mp known
  simp only [resolve]
  split
  · next found chosen =>
      obtain ⟨before, kind, after, entry, order, known, usable, first, rfl⟩ :=
        find?_candidates_eq_some_iff.mp chosen
      refine .found before kind after entry order (stands known) usable ?_
      intro earlier member other there
      exact first earlier member other ((Entry.find?_eq_iff (distinct earlier)).mpr there)
  · next unchosen =>
      have unusable := find?_candidates_eq_none_iff.mp unchosen
      split
      · next empty =>
          refine .unknown fun kind => stands (candidate?_eq_none_iff.mp ?_)
          rw [candidates_eq, List.filterMap_eq_nil_iff] at empty
          exact empty kind kind.mem_all
      · next kind summary rest listed =>
          rw [candidates_eq, List.filterMap_eq_cons_iff] at listed
          obtain ⟨before, other, after, order, first, known, _⟩ := listed
          obtain ⟨entry, there, same⟩ := candidate?_eq_some_iff.mp known
          cases same
          rw [mismatch_summary]
          refine .mismatch before kind after entry order (stands there) ?_ ?_
          · intro earlier member
            exact stands (candidate?_eq_none_iff.mp (first earlier member))
          · intro other entry named
            exact unusable other entry ((Entry.find?_eq_iff (distinct other)).mpr named)

/-- Only one answer is what should be answered. -/
theorem resolve_of_resolution (distinct : ∀ kind, Entry.Distinct (registry.entries kind))
    {answer : Except Failure (Option (RenderableKind × Entry Unit))}
    (resolution : registry.Resolution name context answer) :
    registry.resolve name context = answer := by
  have known {kind : RenderableKind} {found : Option (Entry kind.Body)}
      (stands : Entry.StandsFor (registry.entries kind) name found) :
      Entry.find? (registry.entries kind) name = found :=
    (Entry.find?_eq_iff (distinct kind)).mpr stands
  cases resolution with
  | found before kind after entry order named usable first =>
      have chosen := find?_candidates_eq_some_iff.mpr ⟨before, kind, after, entry, order,
        known named, usable, fun earlier member other there =>
          first earlier member other ((Entry.find?_eq_iff (distinct earlier)).mp there), rfl⟩
      simp only [resolve, chosen]
  | unknown nowhere =>
      have empty : registry.candidates name = [] := by
        rw [candidates_eq, List.filterMap_eq_nil_iff]
        exact fun kind _ => candidate?_eq_none_iff.mpr (known (nowhere kind))
      simp only [resolve, empty, List.find?_nil]
  | mismatch before kind after entry order named first unusable =>
      have unchosen := find?_candidates_eq_none_iff.mpr fun other entry there =>
        unusable other entry ((Entry.find?_eq_iff (distinct other)).mp there)
      have listed : registry.candidates name =
          (kind, entry.summary) :: after.filterMap (registry.candidate? name) := by
        rw [candidates_eq, List.filterMap_eq_cons_iff]
        exact ⟨before, kind, after, order,
          fun earlier member => candidate?_eq_none_iff.mpr (known (first earlier member)),
          candidate?_eq_some_iff.mpr ⟨entry, known named, rfl⟩, rfl⟩
      simp only [resolve, unchosen]
      rw [listed, ← mismatch_summary]

/-- Looking a name up in all tables answers as it should. -/
theorem resolve_eq_iff (distinct : ∀ kind, Entry.Distinct (registry.entries kind))
    {answer : Except Failure (Option (RenderableKind × Entry Unit))} :
    registry.resolve name context = answer ↔ registry.Resolution name context answer := by
  constructor
  · rintro rfl
    exact resolution_of_resolve distinct name context
  · exact resolve_of_resolution distinct

/-- In each table of a registry that was built the entry that is found is what the name stands for,
and no name of its index leads nowhere; in all tables the name is looked up as it should be. -/
theorem resolve_resolution (accepted : registry.Accepted) (name : Text) :
    (∀ kind found, Entry.find? (registry.entries kind) name = found ↔
        Entry.StandsFor (registry.entries kind) name found) ∧
      (∀ kind id, (Entry.index (registry.entries kind)).find? name = some id →
        ∃ entry ∈ registry.entries kind, entry.id = id) ∧
      ∀ context answer, registry.resolve name context = answer ↔
        registry.Resolution name context answer := by
  have distinct := accepted.wellFormed.distinct
  exact ⟨fun kind found => Entry.find?_eq_iff (distinct kind),
    fun kind id known => Entry.exists_of_index known,
    fun context answer => resolve_eq_iff distinct⟩

/-- A file in which a style for blocks only has the name of a frame as its other name. -/
def crossingFile : DocumentFile :=
  .document (.mapping [
    ("styles", .mapping [("bold", .mapping [("aliases", .list [.text "x"]),
      ("contexts", .list [.text "block"])])]),
    ("frames", .mapping [("x", .mapping [])])])

def crossing : Registry where
  styles := [⟨"bold", ["x"], [.block], .text [], ⟨.text [], [], [], [], []⟩⟩]
  frames := [⟨"x", [], ContextKind.all, .text [], ⟨[], []⟩⟩]
  badges := []
  separators := []
  components := []
  partials := []
  palette := []
  shieldStyles := []
  defaultShieldStyle := "flat-square"

theorem crossing_accepted : crossing.Accepted :=
  .read (show ofFile "registry.yaml" crossingFile [] = .ok crossing by with_unfolding_all rfl)

theorem resolve_resolution_crossing :
    crossing.Accepted ∧ crossing.Resolution "x" (Context.inline 1)
      (.ok (some (.frame, ⟨"x", [], ContextKind.all, .text [], ()⟩))) :=
  ⟨crossing_accepted, ((resolve_resolution crossing_accepted "x").2.2 _ _).mp
    (by with_unfolding_all rfl)⟩

end Registry
end Flourish
