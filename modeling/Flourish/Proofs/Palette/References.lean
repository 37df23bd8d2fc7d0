/-
This file says which letters of a text change when its colors are resolved. Main statement: a text
is divided into passages that end with the value of a color parameter, only the items of these
values are resolved, and resolving the text again changes nothing.
-/

import Flourish.Proofs.Palette.Settled
import Flourish.Proofs.Text.Fields
import Flourish.Proofs.Text.Search
import Mathlib.Data.Nat.Find

namespace Flourish
namespace Palette

/-- A color parameter begins at the position: there is one of their names with an equals sign, and
no letter of a name before it. -/
structure BeginsAt (text : Text) (position : Nat) : Prop where
  named : ∃ name ∈ colorParameters, name ++ [.of '='] <+: text.drop position
  free : ∀ letter, (text.take position).getLast? = some letter → Tag.isNameLetter letter = false

/-- Letters that belong to no color parameter, and then a color parameter with the items of its
value. -/
structure Passage where
  before : Text
  name : Text
  items : List Text

namespace Passage

def value (passage : Passage) : Text :=
  Text.join [.of ','] passage.items

def text (passage : Passage) : Text :=
  passage.before ++ passage.name ++ .of '=' :: passage.value

/-- The passage with every item resolved that is not empty. -/
def resolved (palette : Palette) (passage : Passage) : Passage :=
  { passage with
    items := passage.items.map fun item => if item = [] then [] else palette.resolved item }

/-- The passage stands in front of a rest: its parameter is the first to begin, and its value goes
on to a letter that ends values or to the end of the text. -/
structure Leads (passage : Passage) (rest : Text) : Prop where
  named : passage.name ∈ colorParameters
  first : ∀ position ≤ passage.before.length,
    BeginsAt (passage.text ++ rest) position ↔ position = passage.before.length
  nonempty : passage.items ≠ []
  letters : ∀ item ∈ passage.items, ∀ letter ∈ item, letter ≠ ',' ∧ isColorLetter letter
  ends : ∀ letter, rest.head? = some letter → Tag.endsValue letter

end Passage

/-- The text is made of these passages and a last part in which no color parameter begins. -/
inductive Divided : Text → List Passage → Text → Prop
  | last {text : Text} (free : ∀ position, ¬ BeginsAt text position) : Divided text [] text
  | passage {passage : Passage} {rest last : Text} {passages : List Passage}
      (leads : passage.Leads rest) (others : Divided rest passages last) :
      Divided (passage.text ++ rest) (passage :: passages) last

variable {palette : Palette} {name parameter text rest : Text}

/-- A name of a color parameter is made of name letters, of which there are some. -/
theorem isNameLetter_of_mem_colorParameters (known : name ∈ colorParameters) :
    name ≠ [] ∧ ∀ letter ∈ name, Tag.isNameLetter letter := by
  have spelled : colorParameters.all fun name =>
      !name.isEmpty && name.all Tag.isNameLetter := by
    decide
  have own := List.all_eq_true.mp spelled name known
  rw [Bool.and_eq_true, Bool.not_eq_true', List.isEmpty_eq_false_iff, List.all_eq_true] at own
  exact own

theorem equals_not_mem (known : name ∈ colorParameters) : .of '=' ∉ name := by
  intro within
  have letter := (isNameLetter_of_mem_colorParameters known).2 '=' within
  cases letter

/-- A name without an equals sign that stands before one is all that stands before it. -/
theorem isPrefix_equals_iff (plain : .of '=' ∉ name) (before : Text) :
    name ++ [.of '='] <+: before ++ .of '=' :: rest ↔ name ++ [.of '='] <+: before ++ [.of '='] := by
  induction before generalizing name with
  | nil =>
      cases name with
      | nil => simp
      | cons letter others =>
          have other : letter ≠ '=' := fun same => plain (same ▸ List.mem_cons_self)
          simp [other]
  | cons first before inductionHypothesis =>
      cases name with
      | nil => simp
      | cons letter others =>
          have later := inductionHypothesis fun within => plain (List.mem_cons_of_mem _ within)
          simp only [List.cons_append, List.cons_prefix_cons, later]

theorem eq_of_isPrefix {other : Text} (known : name ∈ colorParameters)
    (found : other ∈ colorParameters) (first : name ++ [.of '='] <+: text)
    (second : other ++ [.of '='] <+: text) : name = other := by
  obtain ⟨rest, rfl⟩ := first
  rw [List.append_assoc, List.singleton_append,
    isPrefix_equals_iff (equals_not_mem found)] at second
  have back : name ++ [.of '='] <+: other ++ [.of '='] := by
    obtain ⟨more, whole⟩ := second
    have front : name ++ [.of '='] <+: other ++ .of '=' :: more := ⟨[], by simp [← whole]⟩
    exact (isPrefix_equals_iff (equals_not_mem known) other).mp front
  have same := back.eq_of_length_le second.length_le
  exact List.append_cancel_right same

/-- The parameter at the front of a text is the one whose name stands there with an equals sign. -/
theorem parameterAt?_eq_some (known : name ∈ colorParameters) (rest : Text) :
    parameterAt? (name ++ .of '=' :: rest) = some (name ++ [.of '=']) := by
  have front : name ++ [.of '='] <+: name ++ .of '=' :: rest := ⟨rest, by simp⟩
  cases found : parameterAt? (name ++ .of '=' :: rest) with
  | none =>
      have absent := List.find?_eq_none.mp found _ (List.mem_map_of_mem known)
      exact absurd (List.isPrefixOf_iff_prefix.mpr front) absent
  | some parameter =>
      obtain ⟨other, among, rfl⟩ := List.mem_map.mp (List.mem_of_find?_eq_some found)
      rw [parameterAt?] at found
      have starts := List.find?_some found
      rw [eq_of_isPrefix known among front (List.isPrefixOf_iff_prefix.mp starts)]

theorem parameterAt?_eq_none_iff :
    parameterAt? text = none ↔ ¬ ∃ name ∈ colorParameters, name ++ [.of '='] <+: text := by
  simp [parameterAt?, List.isPrefixOf_iff_prefix]

/-- A parameter is found by all of its letters, the equals sign among them. -/
theorem parameterAt?_spec (found : parameterAt? text = some parameter) :
    parameter <+: text ∧ .of '=' ∈ parameter ∧ ∀ letter ∈ parameter, isColorLetter letter := by
  have spelled : (colorParameters.map (· ++ [.of '='])).all fun parameter =>
      parameter.contains '=' && parameter.all isColorLetter := by
    decide
  rw [parameterAt?] at found
  have starts := List.find?_some found
  have own := List.all_eq_true.mp spelled parameter (List.mem_of_find?_eq_some found)
  rw [Bool.and_eq_true, List.contains_iff_mem, List.all_eq_true] at own
  exact ⟨List.isPrefixOf_iff_prefix.mp starts, own⟩

/-- The text ends with a letter of a name. -/
def endsInName (text : Text) : Bool :=
  text.getLast?.any Tag.isNameLetter

theorem endsInName_concat (text : Text) (letter : Letter) :
    endsInName (text ++ [letter]) = Tag.isNameLetter letter := by
  simp [endsInName]

theorem beginsAt_length_iff (before rest : Text) :
    BeginsAt (before ++ rest) before.length ↔
      endsInName before = false ∧ ∃ name ∈ colorParameters, name ++ [.of '='] <+: rest := by
  have last : endsInName before = false ↔
      ∀ letter, before.getLast? = some letter → Tag.isNameLetter letter = false := by
    rw [endsInName]
    cases before.getLast? <;> simp
  rw [last]
  constructor
  · rintro ⟨named, free⟩
    rw [List.drop_left] at named
    rw [List.take_left] at free
    exact ⟨free, named⟩
  · rintro ⟨free, named⟩
    exact ⟨by rwa [List.drop_left], by rwa [List.take_left]⟩

/-- What follows an equals sign does not matter for what begins before it. -/
theorem beginsAt_congr {before : Text} (first second : Text) {position : Nat}
    (within : position ≤ before.length) :
    BeginsAt (before ++ .of '=' :: first) position ↔
      BeginsAt (before ++ .of '=' :: second) position := by
  have named (rest : Text) {name : Text} (known : name ∈ colorParameters) :
      name ++ [.of '='] <+: (before ++ .of '=' :: rest).drop position ↔
        name ++ [.of '='] <+: before.drop position ++ [.of '='] := by
    rw [List.drop_append_of_le_length within, isPrefix_equals_iff (equals_not_mem known)]
  have taken (rest : Text) : (before ++ .of '=' :: rest).take position = before.take position :=
    List.take_append_of_le_length within
  constructor
  · rintro ⟨⟨name, known, starts⟩, free⟩
    refine ⟨⟨name, known, (named second known).mpr ((named first known).mp starts)⟩, ?_⟩
    rwa [taken] at free ⊢
  · rintro ⟨⟨name, known, starts⟩, free⟩
    refine ⟨⟨name, known, (named first known).mpr ((named second known).mp starts)⟩, ?_⟩
    rwa [taken] at free ⊢

/-- Letters at which no color parameter begins are kept. -/
theorem resolvedRefsFrom_kept (palette : Palette) (passed before rest : Text)
    (free : ∀ position < before.length,
      ¬ BeginsAt (passed ++ (before ++ rest)) (passed.length + position)) :
    palette.resolvedRefsFrom (endsInName passed) (before ++ rest) =
      before ++ palette.resolvedRefsFrom (endsInName (passed ++ before)) rest := by
  induction before generalizing passed with
  | nil => rw [List.nil_append, List.append_nil, List.nil_append]
  | cons letter others inductionHypothesis =>
      have here := free 0 (Nat.succ_pos _)
      rw [Nat.add_zero, beginsAt_length_iff, not_and, ← parameterAt?_eq_none_iff] at here
      have absent : (if endsInName passed then none
          else parameterAt? (letter :: (others ++ rest))) = none := by
        split
        · rfl
        · next outside => exact here (Bool.eq_false_iff.mpr outside)
      have later := inductionHypothesis (passed ++ [letter]) fun position inside => by
        have behind := free (position + 1) (Nat.succ_lt_succ inside)
        rw [List.append_assoc, List.length_append, List.length_singleton, Nat.add_assoc,
          Nat.add_comm 1 position]
        exact behind
      rw [endsInName_concat, List.append_assoc, List.singleton_append] at later
      rw [List.cons_append, resolvedRefsFrom, absent]
      exact congrArg (letter :: ·) later

/-- A text in which no color parameter begins is kept. -/
theorem resolvedRefs_of_free (palette : Palette) (free : ∀ position, ¬ BeginsAt text position) :
    palette.resolvedRefs text = text := by
  have kept := palette.resolvedRefsFrom_kept [] text [] fun position _ begins => by
    rw [List.nil_append, List.append_nil] at begins
    exact free _ begins
  rw [List.append_nil, resolvedRefsFrom, List.append_nil] at kept
  exact kept

/-- A text without an equals sign names no colors. -/
theorem resolvedRefs_of_not_mem (palette : Palette) (plain : .of '=' ∉ text) :
    palette.resolvedRefs text = text := by
  apply palette.resolvedRefs_of_free
  rintro position ⟨⟨name, _, starts⟩, _⟩
  exact plain (List.mem_of_mem_drop (starts.subset (by simp)))

/-- A letter that ends values begins no color parameter. -/
theorem parameterAt?_of_ends (ends : ∀ letter, text.head? = some letter → Tag.endsValue letter) :
    parameterAt? text = none := by
  rw [Option.eq_none_iff_forall_ne_some]
  intro parameter found
  obtain ⟨⟨rest, rfl⟩, equals, letters⟩ := parameterAt?_spec found
  obtain ⟨first, others, rfl⟩ := List.exists_cons_of_ne_nil (List.ne_nil_of_mem equals)
  have belongs := letters first List.mem_cons_self
  rw [isColorLetter, ends first rfl] at belongs
  cases belongs

theorem endsValue_of_head?_dropWhile {letter : Letter}
    (head : (text.dropWhile isColorLetter).head? = some letter) : Tag.endsValue letter := by
  have stops := List.head?_dropWhile_not isColorLetter text
  rw [head] at stops
  simpa [isColorLetter] using stops

theorem head?_resolvedRefs (palette : Palette)
    (ends : ∀ letter, text.head? = some letter → Tag.endsValue letter) :
    (palette.resolvedRefs text).head? = text.head? := by
  cases text with
  | nil => rw [resolvedRefs, resolvedRefsFrom]
  | cons letter rest =>
      rw [resolvedRefs, resolvedRefsFrom, parameterAt?_of_ends ends]
      rfl

/-- A parameter at the front is followed by its value. -/
theorem resolvedRefsFrom_found (palette : Palette)
    (found : parameterAt? (parameter ++ rest) = some parameter) :
    palette.resolvedRefsFrom false (parameter ++ rest) =
      parameter ++ palette.resolvedItems (rest.takeWhile isColorLetter) ++
        palette.resolvedRefs (rest.dropWhile isColorLetter) := by
  obtain ⟨first, others, rfl⟩ :=
    List.exists_cons_of_ne_nil (List.ne_nil_of_mem (parameterAt?_spec found).2.1)
  have behind : (others ++ rest).drop ((first :: others).length - 1) = rest := List.drop_left
  rw [List.cons_append] at found ⊢
  rw [resolvedRefsFrom, if_neg Bool.false_ne_true, found]
  simp only [behind, Text.drop_run]
  rfl

/-- The value of a color parameter is read up to a letter that ends values. -/
theorem resolvedRefsFrom_parameter (palette : Palette) (known : name ∈ colorParameters)
    {value : Text} (letters : ∀ letter ∈ value, isColorLetter letter)
    (ends : ∀ letter, rest.head? = some letter → Tag.endsValue letter) :
    palette.resolvedRefsFrom false (name ++ .of '=' :: (value ++ rest)) =
      name ++ .of '=' :: (palette.resolvedItems value ++ palette.resolvedRefs rest) := by
  have found := parameterAt?_eq_some known (value ++ rest)
  have stops : ∀ letter, rest.head? = some letter → ¬ isColorLetter letter := by
    intro letter head
    simp [isColorLetter, ends letter head]
  rw [← List.singleton_append, ← List.append_assoc] at found ⊢
  rw [palette.resolvedRefsFrom_found found, List.takeWhile_append_of_pos letters,
    List.dropWhile_append_of_pos letters]
  cases rest with
  | nil => simp
  | cons letter others =>
      rw [List.takeWhile_cons_of_neg (stops letter rfl),
        List.dropWhile_cons_of_neg (stops letter rfl)]
      simp

namespace Passage

variable {passage : Passage}

theorem text_append (passage : Passage) (rest : Text) :
    passage.text ++ rest =
      passage.before ++ (passage.name ++ .of '=' :: (passage.value ++ rest)) := by
  simp [text]

/-- The letters of a value belong to it. -/
theorem Leads.value_letters (leads : passage.Leads rest) :
    ∀ letter ∈ passage.value, isColorLetter letter := by
  intro letter member
  rcases mem_of_mem_intercalate member with rfl | ⟨item, among, within⟩
  · decide
  · exact (leads.letters item among letter within).2

/-- The items of a value are read and resolved one by one. -/
theorem Leads.resolvedItems_value (leads : passage.Leads rest) (palette : Palette) :
    palette.resolvedItems passage.value = (passage.resolved palette).value := by
  have items : Text.fields ',' passage.value = passage.items :=
    Text.fields_join leads.nonempty fun item member within =>
      (leads.letters item member ',' within).1 rfl
  rw [resolvedItems, items]
  simp only [value, resolved, List.isEmpty_iff]
  congr 1
  refine List.map_congr_left fun item _ => ?_
  split
  · assumption
  · rfl

/-- Of a passage that leads a text only the items of its value are resolved. -/
theorem Leads.resolvedRefs (leads : passage.Leads rest) (palette : Palette) :
    palette.resolvedRefs (passage.text ++ rest) =
      (passage.resolved palette).text ++ palette.resolvedRefs rest := by
  have outside : endsInName passage.before = false := by
    have begins := (leads.first _ le_rfl).mpr rfl
    rw [text_append, beginsAt_length_iff] at begins
    exact begins.1
  have kept := palette.resolvedRefsFrom_kept [] passage.before
    (passage.name ++ .of '=' :: (passage.value ++ rest)) fun position inside begins => by
      rw [List.nil_append, List.length_nil, Nat.zero_add, ← text_append] at begins
      exact absurd ((leads.first _ inside.le).mp begins) inside.ne
  rw [List.nil_append, outside] at kept
  rw [Palette.resolvedRefs, text_append, text_append]
  refine kept.trans (congrArg (passage.before ++ ·) ?_)
  rw [palette.resolvedRefsFrom_parameter leads.named leads.value_letters leads.ends,
    leads.resolvedItems_value]
  rfl

end Passage

/-- Of a divided text only the items of values are resolved. -/
theorem Divided.resolvedRefs {passages : List Passage} {last : Text}
    (divided : Divided text passages last) (palette : Palette) :
    palette.resolvedRefs text =
      (passages.flatMap fun passage => (passage.resolved palette).text) ++ last := by
  induction divided with
  | last free => exact palette.resolvedRefs_of_free free
  | passage leads others inductionHypothesis =>
      rw [leads.resolvedRefs, inductionHypothesis, List.flatMap_cons, List.append_assoc]

/-- Where a color parameter begins, a passage ends with the first one that does. -/
theorem exists_leads {position : Nat} (begins : BeginsAt text position) :
    ∃ passage : Passage, ∃ rest, text = passage.text ++ rest ∧ passage.Leads rest := by
  classical
  have some_ : ∃ position, BeginsAt text position := ⟨position, begins⟩
  obtain ⟨⟨name, known, after, whole⟩, _⟩ := Nat.find_spec some_
  have short : Nat.find some_ ≤ text.length := by
    by_contra beyond
    rw [List.drop_eq_nil_of_le (Nat.le_of_not_le beyond)] at whole
    simp at whole
  obtain ⟨value, rest, rfl, letters, ends⟩ : ∃ value rest, after = value ++ rest ∧
      (∀ letter ∈ value, isColorLetter letter) ∧
      ∀ letter, rest.head? = some letter → Tag.endsValue letter := by
    exact ⟨after.takeWhile isColorLetter, after.dropWhile isColorLetter,
      List.takeWhile_append_dropWhile.symm, fun letter => List.mem_takeWhile_imp,
      fun letter => endsValue_of_head?_dropWhile⟩
  have split : text = text.take (Nat.find some_) ++ (name ++ .of '=' :: (value ++ rest)) := by
    conv_lhs => rw [← List.take_append_drop (Nat.find some_) text, ← whole]
    simp
  refine ⟨⟨text.take (Nat.find some_), name, Text.fields ',' value⟩, rest, ?_, known, ?_,
    Text.fields_ne_nil ',' value, ?_, ends⟩
  · rw [Passage.text_append, Passage.value, Text.join_fields]
    exact split
  · intro place within
    rw [Passage.text_append, Passage.value, Text.join_fields, ← split]
    rw [List.length_take_of_le short] at within ⊢
    constructor
    · intro starts
      exact le_antisymm within (Nat.find_min' some_ starts)
    · rintro rfl
      exact Nat.find_spec some_
  · intro item member letter within
    refine ⟨fun comma => Text.not_mem_of_mem_fields member (comma ▸ within), letters letter ?_⟩
    rw [← Text.join_fields ',' value]
    exact mem_intercalate_of_mem member within

/-- Every text is divided. -/
theorem exists_divided (text : Text) : ∃ passages last, Divided text passages last := by
  by_cases some_ : ∃ position, BeginsAt text position
  · obtain ⟨position, begins⟩ := some_
    obtain ⟨passage, rest, whole, leads⟩ := exists_leads begins
    have shorter : rest.length < text.length := by
      rw [whole, Passage.text_append]
      simp only [List.length_append, List.length_cons]
      omega
    obtain ⟨passages, last, divided⟩ := exists_divided rest
    exact ⟨passage :: passages, last, whole ▸ .passage leads divided⟩
  · exact ⟨[], text, .last (not_exists.mp some_)⟩
termination_by text.length

/-- A resolved item is made of the letters of items. -/
theorem Stable.resolved_letters (stable : palette.Stable) {item : Text}
    (letters : ∀ letter ∈ item, letter ≠ ',' ∧ isColorLetter letter) :
    ∀ letter ∈ palette.resolved item, letter ≠ ',' ∧ isColorLetter letter := by
  rcases stable.resolved_cases item with kept | isColor
  · rwa [kept]
  · intro letter member
    exact forall_isHexDigit (fun letter => letter ≠ ',' ∧ isColorLetter letter) (by decide)
      (isColor.digits letter member)

/-- The same parameter is the first one in front of a resolved rest. -/
theorem Passage.Leads.resolved {passage : Passage} (leads : passage.Leads rest)
    (stable : palette.Stable) : (passage.resolved palette).Leads (palette.resolvedRefs rest) where
  named := leads.named
  nonempty := by simpa [Passage.resolved] using leads.nonempty
  first position within := by
    have same := leads.first position within
    have inside : position ≤ (passage.before ++ passage.name).length := by
      rw [List.length_append]
      exact Nat.le_add_right_of_le within
    rw [Passage.text, List.append_assoc, List.cons_append] at same ⊢
    exact (beginsAt_congr _ _ inside).trans same
  letters item member := by
    obtain ⟨other, among, rfl⟩ := List.mem_map.mp member
    split
    · exact fun letter absent => nomatch absent
    · exact stable.resolved_letters (leads.letters other among)
  ends letter head := leads.ends letter (by rwa [palette.head?_resolvedRefs leads.ends] at head)

/-- Resolving a text does not change where its passages are. -/
theorem Divided.resolved {passages : List Passage} {last : Text}
    (divided : Divided text passages last) (stable : palette.Stable) :
    Divided (palette.resolvedRefs text) (passages.map (Passage.resolved palette)) last := by
  induction divided with
  | last free =>
      rw [palette.resolvedRefs_of_free free]
      exact .last free
  | passage leads others inductionHypothesis =>
      rw [leads.resolvedRefs]
      exact .passage (leads.resolved stable) inductionHypothesis

theorem Stable.resolved_passage (stable : palette.Stable) (passage : Passage) :
    (passage.resolved palette).resolved palette = passage.resolved palette := by
  have again (item : Text) :
      (if (if item = [] then [] else palette.resolved item) = [] then []
        else palette.resolved (if item = [] then [] else palette.resolved item)) =
      if item = [] then [] else palette.resolved item := by
    split
    · rw [if_pos rfl]
    · split
      · next empty => exact empty.symm
      · exact stable.resolved_resolved item
  simp only [Passage.resolved, List.map_map, Function.comp_def, again]

/-- A text has passages that end with the value of a color parameter, and only the items of these
values are resolved. With a stable palette, resolving the text again changes nothing. -/
theorem resolvedRefs_local (palette : Palette) (text : Text) :
    (∃ passages last, Divided text passages last) ∧
      (∀ passages last, Divided text passages last → palette.resolvedRefs text =
        (passages.flatMap fun passage => (passage.resolved palette).text) ++ last) ∧
      (palette.Stable →
        palette.resolvedRefs (palette.resolvedRefs text) = palette.resolvedRefs text) := by
  refine ⟨exists_divided text, fun passages last divided => divided.resolvedRefs palette, ?_⟩
  intro stable
  obtain ⟨passages, last, divided⟩ := exists_divided text
  rw [(divided.resolved stable).resolvedRefs, divided.resolvedRefs]
  simp only [List.flatMap_map, stable.resolved_passage]

/-- A palette in which a name with an equals sign stands for a color. -/
def equated : Palette :=
  ⟨[("accent", "F41C80"), ("cobalt", "2B6CB0")], [("bg=accent", "00C0DE")]⟩

theorem resolvedRefs_local_equated :
    equated.Stable ∧
      equated.resolvedRefs "colors=cobalt,, accent,bg=accent:bg=accent/textcolor=accent" =
        "colors=2B6CB0,,F41C80,00C0DE:bg=F41C80/textcolor=accent" ∧
      equated.resolvedRefs "colors=2B6CB0,,F41C80,00C0DE:bg=F41C80/textcolor=accent" =
        "colors=2B6CB0,,F41C80,00C0DE:bg=F41C80/textcolor=accent" := by
  have stable : equated.Stable := ⟨by decide, by decide⟩
  have resolved : equated.resolvedRefs
      "colors=cobalt,, accent,bg=accent:bg=accent/textcolor=accent" =
        "colors=2B6CB0,,F41C80,00C0DE:bg=F41C80/textcolor=accent" := by
    with_unfolding_all rfl
  have again := (resolvedRefs_local equated
    "colors=cobalt,, accent,bg=accent:bg=accent/textcolor=accent").2.2 stable
  rw [resolved] at again
  exact ⟨stable, resolved, again⟩

end Palette
end Flourish
