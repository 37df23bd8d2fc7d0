/-
This file says what a table holds. Main statements: a table of entries has each name once and gives
it the value of its last entry; entries that only go in under new names leave it that of the first.
-/

import Flourish.Table

namespace Flourish.Table

variable {Value : Type}

theorem find?_cons (entry : Text × Value) (rest : Table Value) (name : Text) :
    find? (entry :: rest) name = if name = entry.1 then some entry.2 else find? rest name := by
  rw [find?, find?, List.lookup_cons]
  split
  · next same => rw [if_pos (eq_of_beq same)]
  · next other => rw [if_neg (ne_of_beq_false other)]

theorem find?_append (first second : Table Value) (name : Text) :
    find? (first ++ second) name = (find? first name).or (find? second name) :=
  List.lookup_append

theorem find?_insert (table : Table Value) (name other : Text) (value : Value) :
    (table.insert name value).find? other =
      if other = name then some value else table.find? other := by
  fun_induction insert table name value with
  | case1 => rw [find?_cons]
  | case2 => grind [find?_cons]
  | case3 => grind [find?_cons]

/-- Of the entries that are put in, the last one of a name counts. -/
theorem find?_insertAll (table : Table Value) (entries : List (Text × Value)) (name : Text) :
    (table.insertAll entries).find? name = (find? entries.reverse name).or (table.find? name) := by
  induction entries generalizing table with
  | nil => rfl
  | cons entry others inductionHypothesis =>
      have last : find? [entry] name = if name = entry.1 then some entry.2 else none :=
        find?_cons entry [] name
      rw [insertAll, List.foldl_cons, ← insertAll, inductionHypothesis, find?_insert,
        List.reverse_cons, find?_append, Option.or_assoc, last]
      split <;> rfl

theorem find?_ofEntries (entries : List (Text × Value)) (name : Text) :
    (ofEntries entries).find? name = find? entries.reverse name := by
  rw [ofEntries, find?_insertAll]
  exact Option.or_none

theorem find?_eq_none_iff {table : Table Value} {name : Text} :
    table.find? name = none ↔ ∀ entry ∈ table, entry.1 ≠ name := by
  rw [find?, List.lookup_eq_none_iff]
  exact forall₂_congr fun entry _ => bne_iff_ne.trans ne_comm

theorem mem_of_find? {table : Table Value} {name : Text} {value : Value}
    (found : table.find? name = some value) : (name, value) ∈ table := by
  obtain ⟨before, after, rfl, _⟩ := List.lookup_eq_some_iff.mp found
  exact List.mem_append_right before List.mem_cons_self

theorem mem_insert {table : Table Value} {name : Text} {value : Value} {entry : Text × Value}
    (member : entry ∈ table.insert name value) : entry = (name, value) ∨ entry ∈ table := by
  fun_induction insert table name value with
  | case1 => exact Or.inl (List.mem_singleton.mp member)
  | case2 => exact (List.mem_cons.mp member).imp_right (List.mem_cons_of_mem _)
  | case3 other old rest _ inductionHypothesis =>
      rcases List.mem_cons.mp member with rfl | among
      · exact Or.inr List.mem_cons_self
      · exact (inductionHypothesis among).imp_right (List.mem_cons_of_mem _)

/-- A table holds only what was put in or was there before. -/
theorem mem_insertAll {table : Table Value} {entries : List (Text × Value)}
    {entry : Text × Value} (member : entry ∈ table.insertAll entries) :
    entry ∈ entries ∨ entry ∈ table := by
  induction entries generalizing table with
  | nil => exact Or.inr member
  | cons first rest inductionHypothesis =>
      rcases inductionHypothesis member with among | there
      · exact Or.inl (List.mem_cons_of_mem _ among)
      · refine (mem_insert there).imp_left ?_
        rintro rfl
        exact List.mem_cons_self

/-- A table of entries gives a name the value of its last entry. -/
theorem find?_ofEntries_eq_some_iff {entries : List (Text × Value)} {name : Text} {value : Value} :
    (ofEntries entries).find? name = some value ↔
      ∃ before after, entries = before ++ (name, value) :: after ∧
        ∀ entry ∈ after, entry.1 ≠ name := by
  rw [ofEntries, find?_insertAll, show find? ([] : Table Value) name = none from rfl,
    Option.or_none, find?, List.lookup_eq_some_iff]
  constructor
  · rintro ⟨after, before, whole, absent⟩
    refine ⟨before.reverse, after.reverse, ?_, ?_⟩
    · simpa using congrArg List.reverse whole
    · intro entry member same
      simpa [same] using absent entry (List.mem_reverse.mp member)
  · rintro ⟨before, after, rfl, absent⟩
    refine ⟨after.reverse, before.reverse, by simp, ?_⟩
    intro entry member
    exact bne_iff_ne.mpr (absent entry (List.mem_reverse.mp member)).symm

theorem find?_insertNew (table : Table Value) (name other : Text) (value : Value) :
    (table.insertNew name value).find? other =
      (table.find? other).or (find? [(name, value)] other) := by
  rw [insertNew]
  split
  · next present =>
      rw [find?_cons]
      split
      · next same =>
          obtain ⟨kept, there⟩ := Option.isSome_iff_exists.mp present
          rw [same, show table.find? name = some kept from there]
          rfl
      · exact Option.or_none.symm
  · exact find?_append table _ other

/-- Of entries that go in under new names only, what was there counts, and then the first. -/
theorem find?_insertAllNew (table : Table Value) (entries : List (Text × Value)) (name : Text) :
    (table.insertAllNew entries).find? name = (table.find? name).or (find? entries name) := by
  induction entries generalizing table with
  | nil => exact Option.or_none.symm
  | cons entry others inductionHypothesis =>
      rw [insertAllNew, List.foldl_cons, ← insertAllNew, inductionHypothesis, find?_insertNew,
        Option.or_assoc, ← find?_append, List.singleton_append]

theorem mem_names_iff {table : Table Value} {name : Text} :
    name ∈ table.names ↔ (table.find? name).isSome := by
  rw [← Option.ne_none_iff_isSome, Ne, find?_eq_none_iff, names, List.mem_map]
  simp only [ne_eq, Classical.not_forall, Classical.not_not, exists_prop]

theorem mem_names_ofEntries {entries : List (Text × Value)} {name : Text} :
    name ∈ (ofEntries entries).names ↔ name ∈ names entries := by
  rw [mem_names_iff, find?_ofEntries, ← mem_names_iff, names, names, List.map_reverse,
    List.mem_reverse]

theorem names_insert (table : Table Value) (name : Text) (value : Value) :
    (table.insert name value).names =
      if name ∈ table.names then table.names else table.names ++ [name] := by
  fun_induction insert table name value with
  | case1 => rfl
  | case2 => simp [names]
  | case3 other old rest different inductionHypothesis =>
      have elsewhere : name ∈ names ((other, old) :: rest) ↔ name ∈ names rest := by
        simp [names, Ne.symm different]
      show other :: names (insert rest name value) = _
      rw [inductionHypothesis]
      simp only [elsewhere]
      split <;> rfl

theorem nodup_names_insert {table : Table Value} (distinct : table.names.Nodup) (name : Text)
    (value : Value) : (table.insert name value).names.Nodup := by
  rw [names_insert]
  split
  · exact distinct
  · next fresh => exact List.nodup_append.mpr ⟨distinct, by simp, by grind⟩

theorem nodup_names_insertAll {table : Table Value} (distinct : table.names.Nodup)
    (entries : List (Text × Value)) : (table.insertAll entries).names.Nodup := by
  induction entries generalizing table with
  | nil => exact distinct
  | cons entry others inductionHypothesis =>
      exact inductionHypothesis (nodup_names_insert distinct entry.1 entry.2)

/-- A table of entries has each name once. -/
theorem nodup_names_ofEntries (entries : List (Text × Value)) :
    (ofEntries entries).names.Nodup :=
  nodup_names_insertAll (show (names ([] : Table Value)).Nodup from List.nodup_nil) entries

theorem insert_of_fresh {table : Table Value} {name : Text} (fresh : name ∉ table.names)
    (value : Value) : table.insert name value = table ++ [(name, value)] := by
  fun_induction insert table name value with
  | case1 => rfl
  | case2 => exact absurd List.mem_cons_self fresh
  | case3 other old rest _ inductionHypothesis =>
      have later := inductionHypothesis fun among => fresh (List.mem_cons_of_mem _ among)
      rw [later, List.cons_append]

theorem insertAll_of_fresh {table : Table Value} {entries : List (Text × Value)}
    (fresh : (table ++ entries).names.Nodup) : table.insertAll entries = table ++ entries := by
  induction entries generalizing table with
  | nil => rw [List.append_nil, insertAll, List.foldl_nil]
  | cons entry others inductionHypothesis =>
      have absent : entry.1 ∉ table.names := by
        rw [names, List.map_append, List.map_cons, List.nodup_append] at fresh
        intro among
        exact fresh.2.2 entry.1 among entry.1 List.mem_cons_self rfl
      rw [List.append_cons] at fresh ⊢
      rw [insertAll, List.foldl_cons, insert_of_fresh absent]
      exact inductionHypothesis fresh

theorem insertNew_of_fresh {table : Table Value} {name : Text} (fresh : name ∉ table.names)
    (value : Value) : table.insertNew name value = table ++ [(name, value)] := by
  rw [insertNew, if_neg]
  rwa [mem_names_iff] at fresh

theorem insertAllNew_cons_of_fresh {table : Table Value} {name : Text} (fresh : name ∉ table.names)
    (value : Value) (entries : List (Text × Value)) :
    table.insertAllNew ((name, value) :: entries) =
      insertAllNew (table ++ [(name, value)]) entries := by
  rw [insertAllNew, List.foldl_cons, insertNew_of_fresh fresh, ← insertAllNew]

/-- Entries that only go in under new names leave those of the table in their places. -/
theorem isPrefix_insertAllNew (table : Table Value) (entries : List (Text × Value)) :
    table <+: table.insertAllNew entries := by
  induction entries generalizing table with
  | nil => exact List.prefix_refl _
  | cons entry others inductionHypothesis =>
      refine List.IsPrefix.trans ?_ (inductionHypothesis (table.insertNew entry.1 entry.2))
      rw [insertNew]
      split
      · exact List.prefix_refl _
      · exact List.prefix_append _ _

/-- Entries of which no two have one name are their own table. -/
theorem ofEntries_of_nodup {entries : List (Text × Value)} (distinct : (names entries).Nodup) :
    ofEntries entries = entries :=
  insertAll_of_fresh distinct

end Flourish.Table
