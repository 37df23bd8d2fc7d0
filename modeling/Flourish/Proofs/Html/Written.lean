/-
This file says how written tags read. Main statement: a tag with distinct attributes whose values
stand between double quotes reads as it is exactly if no value is cut off or replaced.
-/

import Flourish.Proofs.Html
import Flourish.Proofs.Table
import Flourish.Proofs.Text.Search

namespace Flourish.Html

variable {resolver : Resolver} {text rest name : Text} {table attributes : Table Text}

/-- A name in small letters that can be written in a tag. -/
def IsName (name : Text) : Prop :=
  name.head?.any Letter.isAlpha ∧ ∀ letter ∈ name, isNameLetter letter ∧ letter.toLower = letter

instance (name : Text) : Decidable (IsName name) :=
  decidable_of_iff
    (name.head?.any Letter.isAlpha ∧
      name.all fun letter => isNameLetter letter ∧ letter.toLower = letter)
    (and_congr_right fun _ => by simp only [List.all_eq_true, decide_eq_true_eq])

theorem IsName.lowered (named : IsName name) : name.map Letter.toLower = name :=
  (List.map_congr_left fun letter member => (named.2 letter member).2).trans (List.map_id' _)

theorem IsName.starts (named : IsName name) (text : Text) :
    (name ++ text).head?.any Letter.isAlpha := by
  cases name with
  | nil => cases named.1
  | cons letter others => exact named.1

/-- Attributes with their values between double quotes. -/
def writtenAttributes (attributes : Table Text) : Text :=
  attributes.flatMap fun entry =>
    .of ' ' :: (entry.1 ++ (.of '=' :: .of '"' :: (entry.2 ++ [.of '"'])))

/-- An opening tag. -/
def written (name : Text) (attributes : Table Text) : Text :=
  .of '<' :: (name ++ (writtenAttributes attributes ++ [.of '>']))

def writtenClosing (name : Text) : Text :=
  .of '<' :: .of '/' :: (name ++ [.of '>'])

theorem writtenAttributes_cons (name value : Text) (others : Table Text) (rest : Text) :
    writtenAttributes ((name, value) :: others) ++ rest =
      .of ' ' :: (name ++ .of '=' :: .of '"' ::
        (value ++ .of '"' :: (writtenAttributes others ++ rest))) := by
  simp [writtenAttributes]

/-- A quoted value is cut at the first quote in it. -/
theorem quotedAt?_front (quote : Letter) (value rest : Text) :
    ∃ behind, quotedAt? quote (value ++ quote :: rest) =
        some (value.takeWhile (· ≠ quote), behind) ∧ (quote ∉ value → behind = rest) := by
  rw [quotedAt?, Text.run_stopped (by simp)]
  cases dropped : (value ++ quote :: rest).dropWhile (· ≠ quote) with
  | nil =>
      rw [List.dropWhile_eq_nil_iff] at dropped
      exact absurd (dropped quote (by simp)) (by simp)
  | cons letter behind =>
      refine ⟨behind, rfl, fun absent => ?_⟩
      have passed : ∀ letter ∈ value, decide (letter ≠ quote) := by
        intro letter member
        exact decide_eq_true fun same => absent (same ▸ member)
      rw [List.dropWhile_append_of_pos passed, List.dropWhile_cons_of_neg (by simp)] at dropped
      exact (List.cons.inj dropped).2.symm

/-- An attribute is read up to the quote behind its value. -/
theorem attributesAt?_quoted (named : IsName name) (text : Text) :
    attributesAt? resolver (.of ' ' :: (name ++ .of '=' :: .of '"' :: text)) =
      (quotedAt? '"' text).bind fun found =>
        (attributesAt? resolver found.2).map fun later =>
          ((name, resolver.resolve found.1) :: later.1, later.2) := by
  have lowered := named.lowered
  obtain ⟨starts, plain⟩ := named
  cases name with
  | nil => cases starts
  | cons first others =>
      have goesOn : ∀ letter ∈ others, isNameLetter letter := fun letter member =>
        (plain letter (.tail _ member)).1
      have run : (others ++ .of '=' :: .of '"' :: text).takeWhile isNameLetter = others :=
        Text.run_eq goesOn rfl
      have assigned : assignedAt? ((others ++ .of '=' :: .of '"' :: text).dropWhile isNameLetter) =
          quotedAt? '"' text := by
        rw [List.dropWhile_append_of_pos goesOn]
        simp [isNameLetter, isTagLetter, isSpace, assignedAt?, valueAt?]
      have head := (plain first List.mem_cons_self).1
      simp only [isNameLetter, isTagLetter, Bool.and_eq_true, Bool.not_eq_true',
        Bool.or_eq_false_iff, decide_eq_false_iff_not] at head
      rw [attributesAt?, if_neg (by decide), if_pos (by decide), List.cons_append, attributesAt?,
        if_neg head.1.2, if_neg (by simp [head])]
      simp only [run, lowered]
      split
      · next missing => rw [← assigned, missing, Option.bind_none]
      · next found => rw [← assigned, found, Option.bind_some]

/-- Attributes with distinct names that are written with quoted values read as they are exactly if
every value is kept. -/
theorem attributesAt?_written_iff (resolver : Resolver) (table : Table Text)
    (named : ∀ name ∈ attributes.names, IsName name)
    (distinct : (table ++ attributes).names.Nodup) (rest behind : Text) :
    (∃ entries, attributesAt? resolver (writtenAttributes attributes ++ .of '>' :: rest) =
        some (entries, behind) ∧ table.insertAllNew entries = table ++ attributes) ↔
      (∀ entry ∈ attributes, resolver.Keeps entry.2) ∧ behind = rest := by
  induction attributes generalizing table with
  | nil =>
      rw [show writtenAttributes [] ++ .of '>' :: rest = .of '>' :: rest from rfl, attributesAt?,
        if_pos rfl]
      constructor
      · rintro ⟨_, ⟨⟩, _⟩
        exact ⟨List.forall_mem_nil _, rfl⟩
      · rintro ⟨_, rfl⟩
        exact ⟨[], rfl, (List.append_nil _).symm⟩
  | cons entry others inductionHypothesis =>
      obtain ⟨name, value⟩ := entry
      have fresh : name ∉ table.names := by
        rw [Table.names, List.map_append, List.map_cons, List.nodup_append] at distinct
        exact fun among => distinct.2.2 name among name List.mem_cons_self rfl
      rw [List.append_cons] at distinct
      have others_iff := inductionHypothesis _ (fun name among => named name (.tail _ among)) distinct
      obtain ⟨after, found, whole⟩ :=
        quotedAt?_front '"' value (writtenAttributes others ++ .of '>' :: rest)
      rw [writtenAttributes_cons, attributesAt?_quoted (named _ List.mem_cons_self), found,
        Option.bind_some, List.forall_mem_cons, and_assoc]
      constructor
      · rintro ⟨entries, ended, inserted⟩
        obtain ⟨later, read, equal⟩ := Option.map_eq_some_iff.mp ended
        cases equal
        dsimp only at read inserted
        rw [Table.insertAllNew_cons_of_fresh fresh] at inserted
        -- what is read later goes behind this entry, so its value is the one that was written
        have kept : resolver.Keeps value := by
          have starts := Table.isPrefix_insertAllNew
            (table ++ [(name, resolver.resolve (value.takeWhile (· ≠ .of '"')))]) later.1
          rw [inserted, List.prefix_append_right_inj, List.cons_prefix_cons] at starts
          exact resolver.resolve_front_iff.mp (Prod.mk.inj starts.1).2
        rw [resolver.resolve_front_iff.mpr kept] at inserted
        rw [whole kept.1] at read
        exact ⟨kept, others_iff.mp ⟨later.1, read, inserted.trans (List.append_cons _ _ _)⟩⟩
      · rintro ⟨kept, later⟩
        obtain ⟨entries, ended, inserted⟩ := others_iff.mpr later
        refine ⟨(name, value) :: entries, ?_, ?_⟩
        · rw [whole kept.1, ended, Option.map_some, resolver.resolve_front_iff.mpr kept]
        · rw [Table.insertAllNew_cons_of_fresh fresh, inserted, List.append_assoc,
            List.singleton_append]

/-- A name is read in front of what cannot go on with it. -/
theorem tagAt?_name (resolver : Resolver) (named : IsName name)
    (ends : (text.head?.map isTagLetter).getD false = false) :
    tagAt? resolver (name ++ text) = (attributesAt? resolver text).map fun found =>
      (name, Table.insertAllNew [] found.1, found.2) := by
  have goesOn : ∀ letter ∈ name, isTagLetter letter := fun letter member =>
    (Bool.and_eq_true_iff.mp (named.2 letter member).1).1
  have behind : (name ++ text).dropWhile isTagLetter = text := by
    rw [← Text.drop_run, Text.run_eq goesOn ends, List.drop_left]
  rw [tagAt?, if_pos (named.starts text), behind, Text.run_eq goesOn ends, named.lowered]

theorem tokens?_closing_iff (named : IsName name) (others : List Token) :
    tokens? resolver (writtenClosing name ++ rest) = some (.closing name :: others) ↔
      tokens? resolver rest = some others := by
  have split : writtenClosing name ++ rest = .of '<' :: .of '/' :: (name ++ .of '>' :: rest) := by
    simp [writtenClosing]
  have ended : attributesAt? resolver (.of '>' :: rest) = some ([], rest) := by
    rw [attributesAt?, if_pos rfl]
  rw [tokens?_eq_cons_iff, split, tokenAt?, tagAt?_name resolver named rfl, ended]
  simp

theorem tokens?_letter_iff {letter : Letter} (bare : letter ≠ '<') (others : List Token) :
    tokens? resolver (letter :: rest) = some (.letter letter :: others) ↔
      tokens? resolver rest = some others := by
  rw [tokens?_eq_cons_iff, tokenAt?]
  · simp
  · simp [bare]
  · simp [bare]

/-- A tag with distinct attributes that is written with quoted values reads as it is exactly if
every value is kept. -/
theorem tokens?_written_iff (named : IsName name)
    (attributed : ∀ name ∈ attributes.names, IsName name) (distinct : attributes.names.Nodup)
    (others : List Token) :
    tokens? resolver (written name attributes ++ rest) =
        some (.opening name attributes :: others) ↔
      (∀ entry ∈ attributes, resolver.Keeps entry.2) ∧ tokens? resolver rest = some others := by
  have ends : ((writtenAttributes attributes ++ .of '>' :: rest).head?.map isTagLetter).getD false =
      false := by
    cases attributes with
    | nil => rfl
    | cons entry more => rfl
  have split : written name attributes ++ rest =
      .of '<' :: (name ++ (writtenAttributes attributes ++ .of '>' :: rest)) := by
    rw [written, List.cons_append, List.append_assoc, List.append_assoc, List.singleton_append]
  have token : tokenAt? resolver (written name attributes ++ rest) =
      (attributesAt? resolver (writtenAttributes attributes ++ .of '>' :: rest)).map fun found =>
        (.opening name (Table.insertAllNew [] found.1), found.2) := by
    have read := tagAt?_name resolver named ends
    cases name with
    | nil => cases named.1
    | cons first more =>
        rw [split, List.cons_append, tokenAt?, ← List.cons_append, if_pos (named.starts _), read,
          Option.map_map]
        · rfl
        · rintro others ⟨⟩
          have starts : Letter.isAlpha '/' := named.1
          exact absurd starts (by decide)
  have attributes_iff := attributesAt?_written_iff resolver [] attributed distinct rest
  rw [tokens?_eq_cons_iff, token]
  constructor
  · rintro ⟨behind, found, later⟩
    obtain ⟨⟨entries, after⟩, read, equal⟩ := Option.map_eq_some_iff.mp found
    cases equal
    obtain ⟨kept, rfl⟩ := (attributes_iff after).mp ⟨entries, read, rfl⟩
    exact ⟨kept, later⟩
  · rintro ⟨kept, later⟩
    obtain ⟨entries, read, inserted⟩ := (attributes_iff rest).mpr ⟨kept, rfl⟩
    refine ⟨rest, ?_, later⟩
    rw [read, Option.map_some, inserted]
    rfl

end Flourish.Html
