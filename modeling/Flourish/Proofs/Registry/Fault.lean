/-
This file says which entries of a registry document are at fault. Main statement: an entry of the
right shape is refused exactly if something is wrong with it, with a failure that begins with its
kind and its id, and becomes a definition under its id otherwise.
-/

import Flourish.Proofs.Registry.Shape
import Flourish.Proofs.Table
import Mathlib.Data.List.Nodup

namespace Flourish

namespace Document

/-- The members of a value that can be gone through. Other values have none. -/
def parts : Document → List Document
  | .text value => value.map fun letter => .text [letter]
  | .list items => items
  | .mapping entries => entries.map fun entry => .text entry.1
  | _ => []

/-- The entries of a mapping. Other values have none. -/
def entries : Document → List (Text × Document)
  | .mapping entries => entries
  | _ => []

theorem parts_of_missing {value : Document} (missing : ¬ value.isGiven) : value.parts = [] := by
  cases value <;> simp_all [isGiven, parts]

theorem entries_of_missing {value : Document} (missing : ¬ value.isGiven) : value.entries = [] := by
  cases value <;> simp_all [isGiven, entries]

end Document

theorem ContextKind.ofName?_eq_none_iff (written : Text) :
    ContextKind.ofName? written = none ↔ ∀ kind : ContextKind, written ≠ kind.name := by
  have all (kind : ContextKind) : kind ∈ ContextKind.all := by cases kind <;> decide
  simp only [ofName?, List.find?_eq_none, all, true_imp_iff, decide_eq_true_eq, ne_comm, ne_eq]

theorem TransformKind.ofName?_eq_none_iff (written : Text) :
    TransformKind.ofName? written = none ↔ ∀ kind : TransformKind, written ≠ kind.name := by
  have all (kind : TransformKind) : kind ∈ [TransformKind.blockquote, .row] := by
    cases kind <;> decide
  simp only [ofName?, List.find?_eq_none, all, true_imp_iff, decide_eq_true_eq, ne_comm, ne_eq]

theorem Timing.ofName?_eq_none_iff (written : Text) :
    Timing.ofName? written = none ↔ ∀ timing : Timing, written ≠ timing.name := by
  have all (timing : Timing) : timing ∈ [Timing.preExpand, .postExpand] := by
    cases timing <;> decide
  simp only [ofName?, List.find?_eq_none, all, true_imp_iff, decide_eq_true_eq, ne_comm, ne_eq]

namespace Registry.Load

/-- How a failure names an entry. -/
def label (kind : RenderableKind) (id : Text) : Text :=
  wording [kind.name, " '", id, "'"]

/-- A context that there is not is named. -/
def NamesUnknown (fields : List (Text × Document)) : Prop :=
  ∃ name ∈ (field fields "contexts").parts, ∀ known : ContextKind, name ≠ .text known.name

/-- Glyphs are given, and there are not as many as keys. -/
def Misaligned (keys : Text) (glyphs : Document) : Prop :=
  glyphs.isGiven ∧ glyphs.parts.length ≠ keys.length

/-- A kind of transform and a time for it are named, where the time may be left out. -/
def NamesTransform (fields : List (Text × Document)) : Prop :=
  (∃ kind : TransformKind, fields.lookup ("kind" : Text) = some (.text kind.name)) ∧
    ∃ timing : Timing,
      fieldOr fields "timing" (.text Timing.preExpand.name) = .text timing.name

/-- A default is given for an argument that is not declared. -/
def DefaultsUndeclared (fields : List (Text × Document)) : Prop :=
  ∃ default ∈ (field fields "defaults").entries,
    ∀ argument ∈ (field fields "args").parts, argument.plain ≠ default.1

/-- What can be wrong with an entry of a kind. -/
inductive Faulty (fields : List (Text × Document)) : RenderableKind → Prop
  | context (kind : RenderableKind) (unknown : NamesUnknown fields) : Faulty fields kind
  | upper (count : Misaligned upperLetters (field fields "upper")) : Faulty fields .style
  | lower (count : Misaligned lowerLetters (field fields "lower")) : Faulty fields .style
  | digits (count : Misaligned digitLetters (field fields "digits")) : Faulty fields .style
  | uneven (count : (fieldOr fields "values" (.text [])).plain.length ≠
      (fieldOr fields "keys" (.text [])).plain.length) : Faulty fields .badge
  | empty (unwritten : (fieldOr fields "char" (.text [])).plain = []) : Faulty fields .separator
  | undrawn (handled : (field fields "native").isGiven = false)
      (unwritten : (fieldOr fields "template" (.text [])).plain = []) : Faulty fields .component
  | undeclared (absent : DefaultsUndeclared fields) : Faulty fields .component
  | transform (given : (field fields "post_process").isGiven)
      (unknown : ¬ NamesTransform (field fields "post_process").entries) :
      Faulty fields .component

/-- Where glyphs are given, the table has the glyph at its place for each key, and else nothing. -/
def Aligned (keys : Text) (glyphs : Document) (table : Table Document) : Prop :=
  if glyphs.isGiven then
    glyphs.parts.length = keys.length ∧
      table = List.zip (keys.map fun key => [key]) glyphs.parts
  else table = []

/-- What the definition of an entry holds. -/
def Defines (fields : List (Text × Document)) : (kind : RenderableKind) → kind.Body → Prop
  | .style, body =>
      Aligned upperLetters (field fields "upper") body.upper ∧
        Aligned lowerLetters (field fields "lower") body.lower ∧
        Aligned digitLetters (field fields "digits") body.digits
  | .frame, body =>
      body.before = (fieldOr fields "prefix" (.text [])).plain ∧
        body.after = (fieldOr fields "suffix" (.text [])).plain
  | .badge, body =>
      ∀ (index : Nat) (key glyph : Letter),
        (fieldOr fields "keys" (.text [])).plain[index]? = some key →
        (fieldOr fields "values" (.text [])).plain[index]? = some glyph →
        key ∉ (fieldOr fields "keys" (.text [])).plain.drop (index + 1) →
        body.glyphs.lookup key = some glyph
  | .separator, body => body.text = (fieldOr fields "char" (.text [])).plain ∧ body.text ≠ []
  | .component, body =>
      (body.native ∨ body.template ≠ []) ∧ ∀ name ∈ body.defaults.names, name ∈ body.arguments
  | .partials, _ => True

/-- The fields of an entry have the shapes in which they are read. -/
def Shaped (fields : List (Text × Document)) : RenderableKind → Prop
  | .style => StyleShape fields
  | .frame | .badge | .separator => EntryShape fields
  | .component => ComponentShape fields
  | .partials => False

/-- How an entry of a kind is built. -/
def build : (kind : RenderableKind) → Text → List (Text × Document) → Built (Entry kind.Body)
  | .style => style
  | .frame => frame
  | .badge => badge
  | .separator => separator
  | .component => component
  | .partials => fun id _ => .ok (partialEntry id [])

/-- A value is refused if there is a fault, by a failure that begins with the label. Otherwise it is
built with a property. -/
def Reports {Value : Type} (faulty : Prop) (label : Text) (good : Value → Prop)
    (result : Built Value) : Prop :=
  Ends (fun value => ¬ faulty ∧ good value)
    (fun stop => faulty ∧ ∃ fault, stop = .failure (Cause.configuration fault).unplaced ∧
      label <+: fault.message) result

namespace Reports

variable {Value Other : Type} {faulty others : Prop} {label : Text} {good : Value → Prop}
  {fine : Other → Prop} {result : Built Value}

theorem ok {value : Value} (sound : ¬ faulty) (holds : good value) :
    Reports faulty label good (.ok value) :=
  Ends.ok ⟨sound, holds⟩

theorem refused {fault : ConfigurationFault} (wrong : faulty) (named : label <+: fault.message) :
    Reports faulty label good (refused fault) :=
  Ends.error ⟨wrong, fault, rfl, named⟩

theorem congr (reports : Reports faulty label good result) (same : faulty ↔ others) :
    Reports others label good result := by
  rwa [Reports, ← same]

/-- Of two values one after another the first fault is reported. -/
theorem bind (reports : Reports faulty label good result) {next : Value → Built Other}
    (after : ∀ value, good value → Reports others label fine (next value)) :
    Reports (faulty ∨ others) label fine (result >>= next) := by
  cases result with
  | error stop => exact Ends.error (reports.fails.imp_left Or.inl)
  | ok value =>
      obtain ⟨sound, holds⟩ := reports.holds
      have later := after value holds
      show Ends _ _ (next value)
      cases found : next value with
      | error stop => exact Ends.error ((found ▸ later).fails.imp_left Or.inr)
      | ok other =>
          obtain ⟨soundAfter, holdsAfter⟩ := (found ▸ later).holds
          exact Ends.ok ⟨not_or.mpr ⟨sound, soundAfter⟩, holdsAfter⟩

/-- A condition is refused before what follows is looked at. -/
theorem guarded {condition : Prop} [Decidable condition] {fault : ConfigurationFault}
    (same : condition ↔ faulty) (named : label <+: fault.message)
    (reports : ¬ faulty → Reports others label good result) :
    Reports (faulty ∨ others) label good
      (if condition then Load.refused fault else result) := by
  split
  · next wrong => exact refused (Or.inl (same.mp wrong)) named
  · next sound =>
      have right : ¬ faulty := fun wrong => sound (same.mpr wrong)
      exact (reports right).congr (or_iff_right right).symm

theorem mapM {wrong : Value → Prop} {build : Value → Built Other} (values : List Value)
    (each : ∀ value ∈ values, Reports (wrong value) label (fun _ => True) (build value)) :
    Reports (∃ value ∈ values, wrong value) label (fun _ => True) (values.mapM build) := by
  induction values with
  | nil => exact ok (by simp) trivial
  | cons value rest inductionHypothesis =>
      have first := each value List.mem_cons_self
      have later := inductionHypothesis fun other member =>
        each other (List.mem_cons_of_mem _ member)
      have listed (found : Other) : Reports (∃ value ∈ rest, wrong value) label (fun _ => True)
          (rest.mapM build >>= fun results => Pure.pure (found :: results)) :=
        (later.bind fun results _ => (ok not_false trivial : Reports False _ _ _)).congr
          (iff_of_eq (or_false _))
      rw [List.mapM_cons]
      exact (first.bind fun found _ => listed found).congr (by simp)

end Reports

variable {fields : List (Text × Document)} {id place : Text} {value glyphs : Document}

theorem members_of_isSeries (series : value.IsSeries) : members value = .ok value.parts := by
  cases series <;> rfl

theorem texts_of_shape (shape : value.isGiven → value.IsSeries) :
    texts value = .ok (value.parts.map Document.plain) := by
  unfold texts
  split
  · next given =>
      rw [members_of_isSeries (shape given)]
      rfl
  · next missing =>
      rw [Document.parts_of_missing missing]
      rfl

theorem entries_of_shape (shape : value.isGiven → value.IsMapping) :
    entries value = .ok value.entries := by
  unfold entries
  split
  · next given =>
      cases shape given
      rfl
  · next missing =>
      rw [Document.entries_of_missing missing]

theorem plainEntries_of_shape (shape : value.isGiven → value.IsMapping) :
    plainEntries value = .ok (value.entries.map fun entry => (entry.1, entry.2.plain)) := by
  rw [plainEntries, entries_of_shape shape]
  rfl

theorem pairOf_of_isPair {item : Document} (pair : item.IsPair) (index : Nat) :
    ∃ found, pairOf index item = .ok found := by
  cases pair with
  | text first second => exact ⟨_, rfl⟩
  | list key value usable =>
      cases key with
      | list items => exact absurd rfl (usable.1 items)
      | mapping entries => exact absurd rfl (usable.2 entries)
      | _ => exact ⟨_, rfl⟩
  | mapping first second => exact ⟨_, rfl⟩

theorem pairs_of_shape (shape : value.isGiven → value.IsTable) :
    ∃ table, pairs value = .ok table := by
  unfold pairs
  split
  · next given =>
      cases shape given with
      | mapping entries => exact ⟨entries, rfl⟩
      | list items each =>
          have ends : Ends (fun results => ∀ result ∈ results, True) (fun _ => False)
              (items.zipIdx.mapM fun indexed => pairOf indexed.2 indexed.1) := by
            refine Ends.mapM_all _ fun indexed member => ?_
            obtain ⟨found, read⟩ := pairOf_of_isPair
              (each indexed.1 (List.fst_mem_of_mem_zipIdx member)) indexed.2
            rw [read]
            exact .ok trivial
          obtain ⟨found, read, _⟩ := ends.exists_ok
          refine ⟨Table.ofEntries (found.filterMap id), ?_⟩
          change (items.zipIdx.mapM fun indexed => pairOf indexed.2 indexed.1) >>= _ = _
          rw [read]
          rfl
  · exact ⟨[], rfl⟩

/-- A message that goes on behind the quotation mark after the id begins with the label. -/
theorem label_isPrefix {kind : RenderableKind} {first last : Text} {rest : List Text}
    (opens : first = kind.name ++ " '") (closes : "'" <+: last) :
    label kind id <+: wording (first :: id :: last :: rest) := by
  obtain ⟨more, rfl⟩ := closes
  exact ⟨more ++ wording rest, by simp [label, wording, opens]⟩

/-- A value is refused if it is not one of the names of a kind. -/
theorem named_reports {Kind : Type} {ofName? : Text → Option Kind} {name : Kind → Text}
    (unknown : ∀ written, ofName? written = none ↔ ∀ kind, written ≠ name kind) {label : Text}
    {fault : ConfigurationFault} (labelled : label <+: fault.message) {result : Built Kind}
    (accepts : ∀ written kind, value = .text written → ofName? written = some kind →
      result = .ok kind)
    (refuses : (∀ written, value = .text written → ofName? written = none) →
      result = refused fault) :
    Reports (∀ kind, value ≠ .text (name kind)) label (fun _ => True) result := by
  by_cases named : ∃ kind, value = .text (name kind)
  · obtain ⟨kind, same⟩ := named
    cases found : ofName? (name kind) with
    | none => exact absurd rfl ((unknown _).mp found kind)
    | some other =>
        rw [accepts _ other same found]
        exact .ok (fun absent => absent kind same) trivial
  · rw [refuses fun written same => (unknown written).mpr fun kind is => named ⟨kind, is ▸ same⟩]
    exact .refused (not_exists.mp named) labelled

theorem contextKind_reports (place : Text) (name : Document) :
    Reports (∀ known : ContextKind, name ≠ .text known.name) place (fun _ => True)
      (contextKind place name) := by
  have labelled : place <+: (ConfigurationFault.contextName place name.literal).message :=
    ⟨_, rfl⟩
  refine named_reports ContextKind.ofName?_eq_none_iff labelled ?_ ?_
  · rintro written kind rfl found
    simp only [contextKind, found]
  · intro unknown
    cases name with
    | text written => simp only [contextKind, unknown written rfl]
    | _ => rfl

theorem contexts_reports (place : Text)
    (shape : field fields "contexts" = .absent ∨ (field fields "contexts").IsSeries) :
    Reports (NamesUnknown fields) place (fun _ => True) (contexts place fields) := by
  unfold contexts NamesUnknown
  split
  · next absent =>
      rw [absent]
      exact .ok (by simp [Document.parts]) trivial
  · next given =>
      rw [members_of_isSeries (shape.resolve_left given)]
      have kinds := Reports.mapM (field fields "contexts").parts fun name _ =>
        contextKind_reports place name
      exact (kinds.bind fun found _ => (Reports.ok not_false trivial : Reports False _ _ _)).congr
        (iff_of_eq (or_false _))

theorem alignedIfGiven_reports (place : Text) {keys label : Text} (labelled : label <+: place)
    (distinct : keys.Nodup) (shape : glyphs.isGiven → glyphs.IsSeries) :
    Reports (Misaligned keys glyphs) label (Aligned keys glyphs)
      (alignedIfGiven place keys glyphs) := by
  unfold alignedIfGiven Misaligned Aligned
  split
  · next given =>
      rw [aligned, members_of_isSeries (shape given)]
      change Reports _ _ _ (if glyphs.parts.length ≠ keys.length then _ else _)
      split
      · next wrong => exact .refused ⟨given, wrong⟩ (labelled.trans ⟨_, rfl⟩)
      · next same =>
          have aligned : Table.ofEntries (List.zip (keys.map fun key => [key]) glyphs.parts) =
              List.zip (keys.map fun key => [key]) glyphs.parts := by
            apply Table.ofEntries_of_nodup
            have long : (keys.map fun key => [key]).length ≤ glyphs.parts.length :=
              Nat.le_of_eq ((List.length_map _).trans (not_not.mp same).symm)
            rw [Table.names, List.map_fst_zip long]
            exact (List.nodup_map_iff List.singleton_injective).mpr distinct
          rw [aligned]
          exact .ok (fun wrong => same wrong.2) ⟨not_not.mp same, rfl⟩
  · next missing => exact .ok (fun wrong => missing wrong.1) rfl

theorem style_reports (id : Text) (shape : StyleShape fields) :
    Reports (Faulty fields .style) (label .style id)
      (fun entry => entry.id = id ∧ Defines fields .style entry.body) (style id fields) := by
  obtain ⟨extra, read⟩ := pairs_of_shape shape.extra
  have labelled (more : Text) :
      label .style id <+: wording [wording ["style '", id, "'"], more] := ⟨_, rfl⟩
  unfold style
  rw [texts_of_shape shape.aliases, read]
  refine ((contexts_reports _ shape.contexts).bind fun kinds _ =>
    (alignedIfGiven_reports _ (labelled " upper") (by decide) shape.upper).bind
      fun upper alignedUpper =>
    (alignedIfGiven_reports _ (labelled " lower") (by decide) shape.lower).bind
      fun lower alignedLower =>
    (alignedIfGiven_reports _ (labelled " digits") (by decide) shape.digits).bind
      fun digits alignedDigits =>
    (.ok not_false ⟨rfl, alignedUpper, alignedLower, alignedDigits⟩ :
      Reports False _ _ _)).congr ?_
  constructor
  · rintro (unknown | count | count | count | impossible)
    · exact .context _ unknown
    · exact .upper count
    · exact .lower count
    · exact .digits count
    · exact impossible.elim
  · intro faulty
    cases faulty with
    | context _ unknown => exact Or.inl unknown
    | upper count => exact Or.inr (Or.inl count)
    | lower count => exact Or.inr (Or.inr (Or.inl count))
    | digits count => exact Or.inr (Or.inr (Or.inr (Or.inl count)))

theorem frame_reports (id : Text) (shape : EntryShape fields) :
    Reports (Faulty fields .frame) (label .frame id)
      (fun entry => entry.id = id ∧ Defines fields .frame entry.body) (frame id fields) := by
  unfold frame
  rw [texts_of_shape shape.aliases]
  refine ((contexts_reports _ shape.contexts).bind fun kinds _ =>
    (.ok not_false ⟨rfl, rfl, rfl⟩ : Reports False _ _ _)).congr ?_
  rw [or_false]
  refine ⟨.context _, fun faulty => ?_⟩
  cases faulty with
  | context _ unknown => exact unknown

theorem lookup_letters_cons (entry : Letter × Letter) (rest : List (Letter × Letter)) (key : Letter) :
    (entry :: rest).lookup key = if key = entry.1 then some entry.2 else rest.lookup key := by
  rw [List.lookup_cons]
  split
  · next same => rw [if_pos (eq_of_beq same)]
  · next different => rw [if_neg (ne_of_beq_false different)]

theorem lookup_replaced (found : List (Letter × Letter)) (key glyph other : Letter) :
    (found.map fun entry => if entry.1 = key then (key, glyph) else entry).lookup other =
      if other = key then (found.lookup other).map fun _ => glyph else found.lookup other := by
  induction found with
  | nil => simp
  | cons entry rest inductionHypothesis =>
      rw [List.map_cons, lookup_letters_cons, lookup_letters_cons, inductionHypothesis]
      by_cases replaced : entry.1 = key
      · rw [if_pos replaced, replaced]
        split
        · rfl
        · rfl
      · rw [if_neg replaced]
        by_cases same : other = key
        · have different : other ≠ entry.1 := fun is => replaced (is.symm.trans same)
          rw [if_neg different, if_pos same, if_pos same, if_neg different]
        · rw [if_neg same, if_neg same]

/-- Of the pairs of a letter the last one counts. -/
theorem lookup_letterPairs (found pairs : List (Letter × Letter)) (key : Letter) :
    (letterPairs found pairs).lookup key = (pairs.reverse.lookup key).or (found.lookup key) := by
  fun_induction letterPairs found pairs with
  | case1 => rfl
  | case2 found other glyph rest present inductionHypothesis =>
      rw [inductionHypothesis, lookup_replaced, List.reverse_cons, List.lookup_append,
        Option.or_assoc, lookup_letters_cons, List.lookup_nil]
      congr 1
      split
      · next same =>
          obtain ⟨entry, member, is⟩ := List.any_eq_true.mp present
          have there : found.lookup key ≠ none := by
            rw [ne_eq, List.lookup_eq_none_iff]
            intro absent
            exact bne_iff_ne.mp (absent entry member) (same.trans (of_decide_eq_true is).symm)
          obtain ⟨old, known⟩ := Option.ne_none_iff_exists'.mp there
          rw [known, Option.map_some, Option.some_or]
      · rw [Option.none_or]
  | case3 found other glyph rest absent inductionHypothesis =>
      rw [inductionHypothesis, List.lookup_append, List.reverse_cons, List.lookup_append,
        Option.or_assoc, lookup_letters_cons, List.lookup_nil]
      congr 1
      split
      · next same =>
          have fresh : found.lookup key = none := by
            rw [List.lookup_eq_none_iff]
            intro entry member
            rw [bne_iff_ne]
            intro is
            exact absent (List.any_eq_true.mpr
              ⟨entry, member, decide_eq_true (is.symm.trans same)⟩)
          rw [fresh, Option.none_or, Option.or_none]
      · rw [Option.none_or, Option.or_none]

/-- A key has the glyph at its last place. -/
theorem lookup_letterPairs_zip {keys values : Text} {index : Nat} {key glyph : Letter}
    (here : keys[index]? = some key) (there : values[index]? = some glyph)
    (last : key ∉ keys.drop (index + 1)) :
    (letterPairs [] (List.zip keys values)).lookup key = some glyph := by
  have both : (List.zip keys values)[index]? = some (key, glyph) :=
    List.getElem?_zip_eq_some.mpr ⟨here, there⟩
  obtain ⟨within, pair⟩ := List.getElem?_eq_some_iff.mp both
  rw [lookup_letterPairs, List.lookup_nil, Option.or_none, List.lookup_eq_some_iff]
  refine ⟨((List.zip keys values).drop (index + 1)).reverse,
    ((List.zip keys values).take index).reverse, ?_, ?_⟩
  · conv_lhs => rw [← List.take_append_drop index (List.zip keys values),
      List.drop_eq_getElem_cons within, pair]
    simp
  · intro later member
    rw [List.mem_reverse, List.zip, List.drop_zipWith] at member
    have among := (List.of_mem_zip member).1
    rw [bne_iff_ne]
    rintro rfl
    exact last among

theorem badge_reports (id : Text) (shape : EntryShape fields) :
    Reports (Faulty fields .badge) (label .badge id)
      (fun entry => entry.id = id ∧ Defines fields .badge entry.body) (badge id fields) := by
  unfold badge
  rw [texts_of_shape shape.aliases]
  refine ((contexts_reports _ shape.contexts).bind fun kinds _ =>
    .guarded Iff.rfl ⟨_, rfl⟩ fun _ => (.ok not_false
      ⟨rfl, fun _ _ _ => lookup_letterPairs_zip⟩ : Reports False _ _ _)).congr ?_
  rw [or_false]
  constructor
  · rintro (unknown | count)
    · exact .context _ unknown
    · exact .uneven count
  · intro faulty
    cases faulty with
    | context _ unknown => exact Or.inl unknown
    | uneven count => exact Or.inr count

theorem separator_reports (id : Text) (shape : EntryShape fields) :
    Reports (Faulty fields .separator) (label .separator id)
      (fun entry => entry.id = id ∧ Defines fields .separator entry.body)
      (separator id fields) := by
  unfold separator
  rw [texts_of_shape shape.aliases]
  refine (Reports.guarded List.isEmpty_iff (label_isPrefix rfl ⟨_, rfl⟩) fun written =>
    (contexts_reports _ shape.contexts).bind fun kinds _ =>
    (.ok not_false ⟨rfl, rfl, written⟩ : Reports False _ _ _)).congr ?_
  rw [or_false]
  constructor
  · rintro (unwritten | unknown)
    · exact .empty unwritten
    · exact .context _ unknown
  · intro faulty
    cases faulty with
    | empty unwritten => exact Or.inl unwritten
    | context _ unknown => exact Or.inr unknown

theorem transformKind_reports (id : Text) (value : Document) :
    Reports (∀ kind : TransformKind, value ≠ .text kind.name) (label .component id) (fun _ => True)
      (transformKind id value) := by
  have labelled : label .component id <+:
      (ConfigurationFault.transform id (.unknownKind value.literal)).message :=
    label_isPrefix rfl ⟨_, rfl⟩
  refine named_reports TransformKind.ofName?_eq_none_iff labelled ?_ ?_
  · rintro written kind rfl found
    simp only [transformKind, found]
  · intro unknown
    cases value with
    | text written => simp only [transformKind, unknown written rfl]
    | _ => rfl

theorem timing_reports (id : Text) (value : Document) :
    Reports (∀ timing : Timing, value ≠ .text timing.name) (label .component id) (fun _ => True)
      (timing id value) := by
  have labelled : label .component id <+:
      (ConfigurationFault.transform id (.unknownTiming value.literal)).message :=
    label_isPrefix rfl ⟨_, rfl⟩
  refine named_reports Timing.ofName?_eq_none_iff labelled ?_ ?_
  · rintro written kind rfl found
    simp only [timing, found]
  · intro unknown
    cases value with
    | text written => simp only [timing, unknown written rfl]
    | _ => rfl

theorem postProcess_reports (id : Text) (shape : value.isGiven → value.IsMapping) :
    Reports (value.isGiven ∧ ¬ NamesTransform value.entries) (label .component id) (fun _ => True)
      (postProcess id value) := by
  unfold postProcess
  split
  · next given =>
      cases shape given with
      | mapping found =>
          dsimp only
          split
          · next missing =>
              refine .refused ⟨given, fun names => ?_⟩ (label_isPrefix rfl ⟨_, rfl⟩)
              obtain ⟨kind, named⟩ := names.1
              cases missing.symm.trans named
          · next written named =>
              refine ((transformKind_reports id written).bind fun kind _ =>
                (timing_reports id _).bind fun moment _ =>
                (.ok not_false trivial : Reports False _ _ _)).congr ?_
              rw [or_false, and_iff_right given, NamesTransform, Document.entries, named,
                not_and_or, not_exists, not_exists]
              simp only [Option.some.injEq, ne_eq]
  · next missing => exact .ok (fun both => missing both.1) trivial

/-- The names of defaults that are left after the declared ones are taken out. -/
theorem undeclared_iff (defaults : List (Text × Document)) (arguments : List Document) :
    (!((Table.names (defaults.map fun default => (default.1, default.2.plain))).filter
        fun name => !(arguments.map Document.plain).contains name).isEmpty) = true ↔
      ∃ default ∈ defaults, ∀ argument ∈ arguments, argument.plain ≠ default.1 := by
  simp [Table.names, List.filter_eq_nil_iff]

theorem component_reports (id : Text) (shape : ComponentShape fields) :
    Reports (Faulty fields .component) (label .component id)
      (fun entry => entry.id = id ∧ Defines fields .component entry.body)
      (component id fields) := by
  have drawn : ((!(field fields "native").isGiven &&
      (fieldOr fields "template" (.text [])).plain.isEmpty) = true) ↔
        (field fields "native").isGiven = false ∧
          (fieldOr fields "template" (.text [])).plain = [] := by
    rw [Bool.and_eq_true, Bool.not_eq_true', List.isEmpty_iff]
  unfold component
  rw [texts_of_shape shape.arguments, plainEntries_of_shape shape.defaults,
    texts_of_shape shape.aliases, plainEntries_of_shape shape.parameters]
  refine (Reports.guarded drawn (label_isPrefix rfl ⟨_, rfl⟩) fun handled =>
    Reports.guarded (undeclared_iff _ _) (label_isPrefix rfl ⟨_, rfl⟩) fun declared =>
    (postProcess_reports id shape.postProcess).bind fun post _ =>
    (contexts_reports _ shape.contexts).bind fun kinds _ =>
    (.ok not_false ⟨rfl, ?_, ?_⟩ : Reports False _ _ _)).congr ?_
  · constructor
    · rintro (⟨undrawn, unwritten⟩ | absent | ⟨given, unknown⟩ | unknown | impossible)
      · exact .undrawn undrawn unwritten
      · exact .undeclared absent
      · exact .transform given unknown
      · exact .context _ unknown
      · exact impossible.elim
    · intro faulty
      cases faulty with
      | undrawn undrawn unwritten => exact Or.inl ⟨undrawn, unwritten⟩
      | undeclared absent => exact Or.inr (Or.inl absent)
      | transform given unknown => exact Or.inr (Or.inr (Or.inl ⟨given, unknown⟩))
      | context _ unknown => exact Or.inr (Or.inr (Or.inr (Or.inl unknown)))
  · rw [not_and_or, Bool.not_eq_false] at handled
    exact handled
  · intro name member
    by_contra absent
    obtain ⟨entry, among, rfl⟩ := List.mem_map.mp member
    obtain ⟨default, written, rfl⟩ := List.mem_map.mp among
    refine declared ⟨default, written, fun argument there same => absent ?_⟩
    exact List.mem_map.mpr ⟨argument, there, same⟩

/-- An entry of the right shape is refused exactly if something is wrong with it. -/
theorem build_reports {kind : RenderableKind} (id : Text) (shaped : Shaped fields kind) :
    Reports (Faulty fields kind) (label kind id)
      (fun entry => entry.id = id ∧ Defines fields kind entry.body) (build kind id fields) := by
  cases kind with
  | style => exact style_reports id shaped
  | frame => exact frame_reports id shaped
  | badge => exact badge_reports id shaped
  | separator => exact separator_reports id shaped
  | component => exact component_reports id shaped
  | partials => exact shaped.elim

end Registry.Load
end Flourish
