/-
This file compares two ways to resolve the colors of a template: as one text, in which a place is
a sign that is never looked into, and in the letters between places, as templates are filled. Main
statement: both ways fill a template alike if in the value of a color parameter nothing is left to
resolve from the first item with a place on.
-/

import Flourish.Component
import Flourish.Proofs.Palette.References

namespace Flourish

/-- A sign of a template is one of its own letters or a place. -/
inductive TemplateSign where
  | letter (letter : Letter)
  | content
  | argument (digits : Text)
  deriving DecidableEq, Repr

namespace TemplateSign

def ofText (text : Text) : List TemplateSign :=
  text.map letter

def ofPart : TemplatePart → List TemplateSign
  | .letters text => ofText text
  | .content => [content]
  | .argument digits => [argument digits]

def ofTemplate (template : Text) : List TemplateSign :=
  (Substitution.parts template).flatMap ofPart

def isLetter : TemplateSign → Bool
  | letter _ => true
  | _ => false

def isNameSign : TemplateSign → Bool
  | letter own => Tag.isNameLetter own
  | _ => false

/-- A place does not end a value. -/
def isColorSign : TemplateSign → Bool
  | letter own => Palette.isColorLetter own
  | _ => true

/-- The letters in front of the first place. -/
def leading : List TemplateSign → Text
  | letter own :: rest => own :: leading rest
  | _ => []

end TemplateSign

open TemplateSign (ofText ofPart ofTemplate isLetter isNameSign isColorSign leading)

namespace Palette

/-- An item is resolved if it is made of letters. One with a place in it stays, like an empty
one. -/
def resolvedItem (palette : Palette) (item : List TemplateSign) : List TemplateSign :=
  if item.all isLetter && !item.isEmpty then ofText (palette.resolved (leading item)) else item

def resolvedValue (palette : Palette) (value : List TemplateSign) : List TemplateSign :=
  [.letter ','].intercalate ((value.splitOn (.letter ',')).map palette.resolvedItem)

/-- The template with every color in a color parameter resolved, where a place is a part of the
value that it stands in. -/
def resolvedSignsFrom (palette : Palette) (inName : Bool) : List TemplateSign → List TemplateSign
  | [] => []
  | sign :: rest =>
      match if inName then none else parameterAt? (leading (sign :: rest)) with
      | some parameter =>
          let after := rest.drop (parameter.length - 1)
          ofText parameter ++ palette.resolvedValue (after.takeWhile isColorSign) ++
            palette.resolvedSignsFrom false (after.dropWhile isColorSign)
      | none => sign :: palette.resolvedSignsFrom (isNameSign sign) rest
termination_by signs => signs.length
decreasing_by
  · refine ((List.dropWhile_suffix _).length_le.trans ?_).trans_lt (Nat.lt_succ_self _)
    exact (List.drop_suffix _ _).length_le
  · exact Nat.lt_succ_self _

def resolvedSigns (palette : Palette) (signs : List TemplateSign) : List TemplateSign :=
  palette.resolvedSignsFrom false signs

/-- From the first item with a place on, no item has letters in front that the palette changes,
and none has an equals sign. -/
def KeepsFromPlace (palette : Palette) (value : List TemplateSign) : Prop :=
  ∀ item ∈ (value.splitOn (.letter ',')).dropWhile (List.all · isLetter),
    (leading item = [] ∨ palette.resolved (leading item) = leading item) ∧
      TemplateSign.letter (.of '=') ∉ item

instance (palette : Palette) (value : List TemplateSign) :
    Decidable (palette.KeepsFromPlace value) :=
  inferInstanceAs (Decidable (∀ item ∈ (value.splitOn (.letter ',')).dropWhile
    (List.all · isLetter), (leading item = [] ∨ palette.resolved (leading item) = leading item) ∧
      TemplateSign.letter (.of '=') ∉ item))

/-- Every value of a color parameter keeps what stands in it from the first item with a place on.
`inName` tells whether a name letter stands in front. -/
def Orderly (palette : Palette) (inName : Bool) : List TemplateSign → Prop
  | [] => True
  | sign :: rest =>
      (∀ parameter ∈ if inName then none else parameterAt? (leading (sign :: rest)),
        palette.KeepsFromPlace ((rest.drop (parameter.length - 1)).takeWhile isColorSign)) ∧
      palette.Orderly (isNameSign sign) rest

instance (palette : Palette) (inName : Bool) (signs : List TemplateSign) :
    Decidable (palette.Orderly inName signs) :=
  match signs with
  | [] => isTrue trivial
  | sign :: rest =>
      have := instDecidableOrderly palette (isNameSign sign) rest
      inferInstanceAs (Decidable (_ ∧ _))

end Palette

namespace Component

/-- A draft of a template with one more of its signs. -/
def putSign (palette : Palette) (entry : Entry ComponentBody) (arguments : List Text)
    (content : Text) (draft : Draft) : TemplateSign → Except Stop Draft
  | .letter letter => .ok (draft.put content (.letters [letter]))
  | .content => putPart palette entry arguments content draft .content
  | .argument digits => putPart palette entry arguments content draft (.argument digits)

/-- The template with arguments and content, and the offsets of the content in it, where colors
are resolved in the template as one text before anything is put in. -/
def substituteResolved (palette : Palette) (entry : Entry ComponentBody) (arguments : List Text)
    (content : Text) : Except Stop (Text × List Nat) :=
  ((palette.resolvedSigns (ofTemplate entry.body.template)).foldlM
    (putSign palette entry arguments content) ⟨[], []⟩).map fun draft => (draft.text, draft.starts)

end Component

namespace TemplateSign

variable {rest : List TemplateSign}

theorem leading_ofText_append (text : Text) (rest : List TemplateSign) :
    leading (ofText text ++ rest) = text ++ leading rest := by
  induction text with
  | nil => rfl
  | cons own others inductionHypothesis => exact congrArg (own :: ·) inductionHypothesis

theorem ofText_append (first second : Text) :
    ofText (first ++ second) = ofText first ++ ofText second :=
  List.map_append

/-- In front of a place, or of the end, there are the letters of a text. -/
theorem leading_ofText_front (front : leading rest = []) (text : Text) :
    leading (ofText text ++ rest) = text := by
  rw [leading_ofText_append, front, List.append_nil]

theorem leading_ofText (text : Text) : leading (ofText text) = text := by
  have whole := leading_ofText_front (rfl : leading [] = []) text
  rwa [List.append_nil] at whole

theorem all_isLetter_ofText (text : Text) : (ofText text).all isLetter := by
  rw [ofText, List.all_map, List.all_eq_true]
  exact fun _ _ => rfl

/-- Signs that are letters are those in front of the first place. -/
theorem ofText_leading {signs : List TemplateSign} (letters : signs.all isLetter) :
    ofText (leading signs) = signs := by
  induction signs with
  | nil => rfl
  | cons sign others inductionHypothesis =>
      rw [List.all_cons, Bool.and_eq_true] at letters
      cases sign with
      | letter own => exact congrArg (letter own :: ·) (inductionHypothesis letters.2)
      | content => cases letters.1
      | argument digits => cases letters.1

theorem ofText_isEmpty (text : Text) : (ofText text).isEmpty = text.isEmpty :=
  List.isEmpty_map

theorem splitOn_ofText (separator : Letter) (text : Text) :
    (ofText text).splitOn (letter separator) = (Text.fields separator text).map ofText := by
  induction text with
  | nil => rfl
  | cons own others inductionHypothesis =>
      obtain ⟨field, more, found⟩ :=
        List.exists_cons_of_ne_nil (Text.fields_ne_nil separator others)
      rw [found] at inductionHypothesis
      rw [ofText, List.map_cons, List.splitOn_cons_eq_if_modifyHead, ← ofText,
        inductionHypothesis, Text.fields, found]
      by_cases same : own = separator
      · simp [same, ofText]
      · simp [same, ofText]

theorem intercalate_ofText (separator : Letter) (pieces : List Text) :
    [letter separator].intercalate (pieces.map ofText) =
      ofText (Text.join [separator] pieces) := by
  induction pieces with
  | nil => rfl
  | cons piece others inductionHypothesis =>
      cases others with
      | nil => simp [List.intercalate_singleton]
      | cons next more =>
          have some_ : (next :: more).map ofText ≠ [] := List.cons_ne_nil _ _
          rw [List.map_cons, List.intercalate_cons_of_ne_nil some_, inductionHypothesis,
            Text.join_cons _ _ (List.cons_ne_nil _ _)]
          simp [ofText]

theorem isLetter_of_place {sign : TemplateSign} (front : leading (sign :: rest) = []) :
    isLetter sign = false := by
  cases sign with
  | letter own => cases front
  | content => rfl
  | argument digits => rfl

theorem isNameSign_of_place {sign : TemplateSign} (front : leading (sign :: rest) = []) :
    isNameSign sign = false := by
  cases sign with
  | letter own => cases front
  | content => rfl
  | argument digits => rfl

/-- What follows a place does not matter for what stands in front of it. -/
theorem leading_of_place {sign : TemplateSign} {other : List TemplateSign}
    (front : leading (sign :: rest) = []) : leading (sign :: other) = [] := by
  cases sign with
  | letter own => cases front
  | content => rfl
  | argument digits => rfl

theorem leading_takeWhile (test : TemplateSign → Bool) (front : leading rest = []) :
    leading (rest.takeWhile test) = [] := by
  cases rest with
  | nil => rfl
  | cons sign others =>
      rw [List.takeWhile_cons]
      split
      · exact leading_of_place front
      · rfl

theorem mem_of_mem_leading {own : Letter} {signs : List TemplateSign}
    (member : own ∈ leading signs) : letter own ∈ signs := by
  induction signs with
  | nil => cases member
  | cons sign others inductionHypothesis =>
      cases sign with
      | letter first =>
          rcases List.mem_cons.mp member with rfl | later
          · exact List.mem_cons_self
          · exact List.mem_cons_of_mem _ (inductionHypothesis later)
      | content => cases member
      | argument digits => cases member

/-- Letters of values that stand in front of signs stand in front of those that belong to the
value. -/
theorem isPrefix_leading {front : Text} {value : List TemplateSign}
    (letters : ∀ own ∈ front, Palette.isColorLetter own)
    (ends : ∀ sign, rest.head? = some sign → isColorSign sign = false)
    (starts : front <+: leading (value ++ rest)) : front <+: leading value := by
  induction value generalizing front with
  | nil =>
      cases front with
      | nil => exact List.nil_prefix
      | cons own others =>
          have belongs := letters own List.mem_cons_self
          rcases rest with _ | ⟨first | _ | _, later⟩
          · simp [leading] at starts
          · obtain ⟨rfl, _⟩ := List.cons_prefix_cons.mp starts
            have stops := ends _ rfl
            rw [isColorSign, belongs] at stops
            cases stops
          · simp [leading] at starts
          · simp [leading] at starts
  | cons sign value inductionHypothesis =>
      cases front with
      | nil => exact List.nil_prefix
      | cons own others =>
          cases sign with
          | letter first =>
              obtain ⟨rfl, later⟩ := List.cons_prefix_cons.mp starts
              refine List.cons_prefix_cons.mpr ⟨rfl, inductionHypothesis ?_ later⟩
              exact fun own within => letters own (List.mem_cons_of_mem _ within)
          | content => simp [leading] at starts
          | argument digits => simp [leading] at starts

end TemplateSign

namespace Palette

variable {palette : Palette} {inName : Bool} {text parameter : Text}
  {rest signs : List TemplateSign}

theorem resolvedItem_ofText (palette : Palette) (item : Text) :
    palette.resolvedItem (ofText item) =
      ofText (if item.isEmpty then item else palette.resolved item) := by
  rw [resolvedItem, TemplateSign.all_isLetter_ofText, TemplateSign.ofText_isEmpty,
    TemplateSign.leading_ofText]
  cases item.isEmpty <;> rfl

theorem resolvedValue_ofText (palette : Palette) (value : Text) :
    palette.resolvedValue (ofText value) = ofText (palette.resolvedItems value) := by
  rw [resolvedValue, TemplateSign.splitOn_ofText, resolvedItems, ← TemplateSign.intercalate_ofText,
    List.map_map, List.map_map]
  congr 1
  exact List.map_congr_left fun item _ => palette.resolvedItem_ofText item

/-- An item stays if the palette does not change the letters in front of it. -/
theorem resolvedItem_of_kept {item : List TemplateSign}
    (kept : leading item = [] ∨ palette.resolved (leading item) = leading item) :
    palette.resolvedItem item = item := by
  rw [resolvedItem]
  split
  · next literal =>
      rw [Bool.and_eq_true, Bool.not_eq_true'] at literal
      have whole := TemplateSign.ofText_leading literal.1
      rcases kept with nothing | kept
      · rw [← whole, nothing] at literal
        cases literal.2
      · rw [kept, whole]
  · rfl

/-- A value with a place is split in the item with the first place. This one and those behind it
are kept. -/
theorem KeepsFromPlace.exists_items {value : Text} {sign : TemplateSign}
    (front : leading (sign :: rest) = [])
    (keeps : palette.KeepsFromPlace (ofText value ++ sign :: rest)) :
    ∃ initial last first more, Text.fields ',' value = initial ++ [last] ∧
      (sign :: rest).splitOn (.letter ',') = (sign :: first) :: more ∧
      ∀ item ∈ (ofText last ++ sign :: first) :: more,
        (leading item = [] ∨ palette.resolved (leading item) = leading item) ∧
          TemplateSign.letter (.of '=') ∉ item := by
  obtain ⟨first, more, found⟩ :=
    List.exists_cons_of_ne_nil (List.splitOn_ne_nil (TemplateSign.letter ',') rest)
  have later : (sign :: rest).splitOn (.letter ',') = (sign :: first) :: more := by
    have other : ¬ (sign == TemplateSign.letter ',') = true := by
      rw [beq_iff_eq]
      rintro rfl
      cases front
    rw [List.splitOn_cons_eq_if_modifyHead, if_neg other, found, List.modifyHead_cons]
  obtain ⟨initial, last, items⟩ : ∃ initial last, Text.fields ',' value = initial ++ [last] :=
    (List.eq_nil_or_concat' _).resolve_left (Text.fields_ne_nil ',' value)
  refine ⟨initial, last, first, more, items, later, ?_⟩
  have own : (ofText value).splitOn (.letter ',') = initial.map ofText ++ [ofText last] := by
    rw [TemplateSign.splitOn_ofText, items, List.map_append, List.map_singleton]
  have literal : ∀ item ∈ initial.map ofText, List.all item isLetter := by
    intro item member
    obtain ⟨text, _, rfl⟩ := List.mem_map.mp member
    exact TemplateSign.all_isLetter_ofText text
  have mixed : ¬ List.all (ofText last ++ sign :: first) isLetter := by
    simp [TemplateSign.isLetter_of_place front]
  have remain : ((ofText value ++ sign :: rest).splitOn (.letter ',')).dropWhile
      (List.all · isLetter) = (ofText last ++ sign :: first) :: more := by
    rw [splitOn_append own later, List.dropWhile_append_of_pos literal]
    exact List.dropWhile_cons_of_neg mixed
  rwa [KeepsFromPlace, remain] at keeps

/-- What stands in a value from a place on is kept, and no parameter is named in it. -/
theorem KeepsFromPlace.resolvedValue {value : Text} (front : leading rest = [])
    (keeps : palette.KeepsFromPlace (ofText value ++ rest)) :
    palette.resolvedValue (ofText value ++ rest) = ofText (palette.resolvedItems value) ++ rest ∧
      TemplateSign.letter (.of '=') ∉ rest := by
  cases rest with
  | nil =>
      rw [List.append_nil, List.append_nil]
      exact ⟨palette.resolvedValue_ofText value, List.not_mem_nil⟩
  | cons sign others =>
      obtain ⟨initial, last, first, more, items, later, kept⟩ := keeps.exists_items front
      have own : (ofText value).splitOn (.letter ',') = initial.map ofText ++ [ofText last] := by
        rw [TemplateSign.splitOn_ofText, items, List.map_append, List.map_singleton]
      have joined : [TemplateSign.letter ','].intercalate ((sign :: first) :: more) =
          sign :: others := later ▸ List.intercalate_splitOn _
      constructor
      · have lastKept : palette.resolvedItem (ofText last) = ofText last := by
          apply resolvedItem_of_kept
          have alone := (kept _ List.mem_cons_self).1
          rw [TemplateSign.leading_ofText_front (TemplateSign.leading_of_place front)] at alone
          rwa [TemplateSign.leading_ofText]
        have othersKept : ((ofText last ++ sign :: first) :: more).map palette.resolvedItem =
            (ofText last ++ sign :: first) :: more := by
          refine (List.map_congr_left fun item member => ?_).trans (List.map_id _)
          exact resolvedItem_of_kept (kept item member).1
        rw [← palette.resolvedValue_ofText, Palette.resolvedValue, Palette.resolvedValue,
          splitOn_append own later, own, List.map_append, List.map_append, othersKept,
          List.map_singleton, lastKept, intercalate_append_cons, joined]
      · intro equals
        rw [← joined] at equals
        rcases mem_of_mem_intercalate equals with comma | ⟨item, member, within⟩
        · cases comma
        · rcases List.mem_cons.mp member with rfl | behind
          · exact (kept _ List.mem_cons_self).2 (List.mem_append_right _ within)
          · exact (kept item (List.mem_cons_of_mem _ behind)).2 within

/-- A sign at which no parameter begins is kept. -/
theorem resolvedSignsFrom_absent {sign : TemplateSign} (inName : Bool)
    (absent : parameterAt? (leading (sign :: rest)) = none) :
    palette.resolvedSignsFrom inName (sign :: rest) =
      sign :: palette.resolvedSignsFrom (isNameSign sign) rest := by
  rw [resolvedSignsFrom, absent, ite_self]

/-- Behind a letter that ends values, or where the template ends, no name goes on. -/
theorem resolvedSignsFrom_fresh (palette : Palette) (inName : Bool)
    (fresh : parameterAt? (leading rest) = none) :
    palette.resolvedSignsFrom inName rest = palette.resolvedSigns rest := by
  cases rest with
  | nil => rw [resolvedSigns, resolvedSignsFrom, resolvedSignsFrom]
  | cons sign others =>
      rw [resolvedSigns, resolvedSignsFrom_absent inName fresh, resolvedSignsFrom_absent _ fresh]

theorem Orderly.fresh (orderly : palette.Orderly inName rest)
    (fresh : parameterAt? (leading rest) = none) : palette.Orderly false rest := by
  cases rest with
  | nil => trivial
  | cons sign others =>
      refine ⟨fun parameter found => ?_, orderly.2⟩
      rw [if_neg Bool.false_ne_true, fresh] at found
      cases found

/-- What follows in an orderly template is orderly. -/
theorem Orderly.of_append {before : List TemplateSign}
    (orderly : palette.Orderly inName (before ++ rest))
    (fresh : parameterAt? (leading rest) = none) : palette.Orderly false rest := by
  induction before generalizing inName with
  | nil => exact orderly.fresh fresh
  | cons sign before inductionHypothesis => exact inductionHypothesis orderly.2

/-- No parameter has its name in signs without an equals sign. -/
theorem parameterAt?_of_plain (plain : TemplateSign.letter (.of '=') ∉ signs)
    (ends : ∀ sign, rest.head? = some sign → isColorSign sign = false) :
    parameterAt? (leading (signs ++ rest)) = none := by
  rw [Option.eq_none_iff_forall_ne_some]
  intro parameter found
  obtain ⟨starts, equals, letters⟩ := parameterAt?_spec found
  have within := TemplateSign.isPrefix_leading letters ends starts
  exact plain (TemplateSign.mem_of_mem_leading (within.subset equals))

theorem resolvedSignsFrom_plain (palette : Palette) (inName : Bool)
    (plain : TemplateSign.letter (.of '=') ∉ signs)
    (ends : ∀ sign, rest.head? = some sign → isColorSign sign = false) :
    palette.resolvedSignsFrom inName (signs ++ rest) = signs ++ palette.resolvedSigns rest := by
  induction signs generalizing inName with
  | nil => exact palette.resolvedSignsFrom_fresh inName (parameterAt?_of_plain plain ends)
  | cons sign signs inductionHypothesis =>
      have absent := parameterAt?_of_plain plain ends
      rw [List.cons_append] at absent ⊢
      rw [resolvedSignsFrom_absent inName absent]
      have later := inductionHypothesis (isNameSign sign)
        fun within => plain (List.mem_cons_of_mem _ within)
      exact congrArg (sign :: ·) later

/-- A parameter is followed by its value. -/
theorem resolvedSignsFrom_parameter (palette : Palette)
    (found : parameterAt? (leading (ofText parameter ++ rest)) = some parameter) :
    palette.resolvedSignsFrom false (ofText parameter ++ rest) =
      ofText parameter ++ palette.resolvedValue (rest.takeWhile isColorSign) ++
        palette.resolvedSigns (rest.dropWhile isColorSign) := by
  obtain ⟨first, others, rfl⟩ :=
    List.exists_cons_of_ne_nil (List.ne_nil_of_mem (parameterAt?_spec found).2.1)
  have behind : (ofText others ++ rest).drop ((first :: others).length - 1) = rest :=
    List.drop_left' (List.length_map _)
  change palette.resolvedSignsFrom false (.letter first :: (ofText others ++ rest)) = _
  change parameterAt? (leading (.letter first :: (ofText others ++ rest))) = _ at found
  rw [resolvedSignsFrom, if_neg Bool.false_ne_true, found]
  simp only [behind]
  rfl

theorem Orderly.value (orderly : palette.Orderly false (ofText parameter ++ rest))
    (found : parameterAt? (leading (ofText parameter ++ rest)) = some parameter) :
    palette.KeepsFromPlace (rest.takeWhile isColorSign) := by
  obtain ⟨first, others, rfl⟩ :=
    List.exists_cons_of_ne_nil (List.ne_nil_of_mem (parameterAt?_spec found).2.1)
  have behind : (ofText others ++ rest).drop ((first :: others).length - 1) = rest :=
    List.drop_left' (List.length_map _)
  have keeps := orderly.1 (first :: others) found
  change palette.KeepsFromPlace (((ofText others ++ rest).drop _).takeWhile isColorSign) at keeps
  rwa [behind] at keeps

/-- What follows the letters of a value is orderly. -/
theorem Orderly.behind {after : Text} (front : leading rest = [])
    (orderly : palette.Orderly false (ofText parameter ++ (ofText after ++ rest))) :
    palette.Orderly false (ofText (after.dropWhile isColorLetter) ++ rest) := by
  rw [← List.takeWhile_append_dropWhile (p := isColorLetter) (l := after),
    TemplateSign.ofText_append, List.append_assoc, ← List.append_assoc] at orderly
  apply orderly.of_append
  rw [TemplateSign.leading_ofText_front front]
  exact parameterAt?_of_ends fun letter => endsValue_of_head?_dropWhile

/-- The value of a parameter that begins in letters is read in these letters, if what goes on
behind them is kept. -/
theorem resolvedValue_span (after : Text) (front : leading rest = [])
    (keeps : palette.KeepsFromPlace ((ofText after ++ rest).takeWhile isColorSign)) :
    palette.resolvedValue ((ofText after ++ rest).takeWhile isColorSign) ++
        palette.resolvedSigns ((ofText after ++ rest).dropWhile isColorSign) =
      ofText (palette.resolvedItems (after.takeWhile isColorLetter)) ++
        palette.resolvedSigns (ofText (after.dropWhile isColorLetter) ++ rest) := by
  have whole := List.takeWhile_append_dropWhile (p := isColorLetter) (l := after)
  have belongs : ∀ sign ∈ ofText (after.takeWhile isColorLetter), isColorSign sign := by
    intro sign member
    obtain ⟨letter, within, rfl⟩ := List.mem_map.mp member
    exact List.mem_takeWhile_imp (p := isColorLetter) within
  cases ends : after.dropWhile isColorLetter with
  | nil =>
      rw [ends, List.append_nil] at whole
      rw [whole] at belongs ⊢
      rw [List.takeWhile_append_of_pos belongs] at keeps ⊢
      obtain ⟨kept, plain⟩ := keeps.resolvedValue (TemplateSign.leading_takeWhile _ front)
      have ends : ∀ sign, (rest.dropWhile isColorSign).head? = some sign →
          isColorSign sign = false := by
        intro sign head
        have stops := List.head?_dropWhile_not isColorSign rest
        rw [head] at stops
        simpa using stops
      have behind := palette.resolvedSignsFrom_plain false plain ends
      rw [List.takeWhile_append_dropWhile] at behind
      rw [List.dropWhile_append_of_pos belongs, kept, List.append_assoc, ← behind]
      rfl
  | cons letter others =>
      have stops := List.head?_dropWhile_not isColorLetter after
      rw [ends] at stops
      have ending : ¬ isColorSign (.letter letter) := by
        rw [isColorSign]
        simpa using stops
      have split : ofText after ++ rest = ofText (after.takeWhile isColorLetter) ++
          .letter letter :: (ofText others ++ rest) := by
        conv_lhs => rw [← whole, ends]
        simp [ofText]
      rw [split, List.takeWhile_append_of_pos belongs, List.takeWhile_cons_of_neg ending,
        List.append_nil, List.dropWhile_append_of_pos belongs, List.dropWhile_cons_of_neg ending,
        resolvedValue_ofText]
      rfl

/-- In an orderly template the letters in front of a place, or of the end, are resolved like a
text. -/
theorem resolvedSignsFrom_ofText (front : leading rest = [])
    (orderly : palette.Orderly inName (ofText text ++ rest)) :
    palette.resolvedSignsFrom inName (ofText text ++ rest) =
      ofText (palette.resolvedRefsFrom inName text) ++ palette.resolvedSigns rest := by
  have spelled := TemplateSign.leading_ofText_front front
  induction size : text.length using Nat.strong_induction_on generalizing inName text with
  | _ size inductionHypothesis =>
    subst size
    cases text with
    | nil =>
        have fresh : parameterAt? (leading rest) = none := by
          rw [front]
          rfl
        rw [resolvedRefsFrom]
        exact palette.resolvedSignsFrom_fresh inName fresh
    | cons letter others =>
        cases found : (if inName then none else parameterAt? (letter :: others)) with
        | none =>
            have later := inductionHypothesis _ (Nat.lt_succ_self _) orderly.2 rfl
            have same : leading (.letter letter :: (ofText others ++ rest)) = letter :: others :=
              spelled (letter :: others)
            change palette.resolvedSignsFrom inName (.letter letter :: (ofText others ++ rest)) = _
            rw [resolvedSignsFrom, resolvedRefsFrom, same, found]
            exact congrArg (TemplateSign.letter letter :: ·) later
        | some parameter =>
            have outside : inName = false := by
              cases inName with
              | false => rfl
              | true => cases found
            subst outside
            rw [if_neg Bool.false_ne_true] at found
            obtain ⟨⟨after, whole⟩, equals, _⟩ := parameterAt?_spec found
            rw [← whole] at found orderly inductionHypothesis ⊢
            rw [TemplateSign.ofText_append, List.append_assoc] at orderly ⊢
            have here : parameterAt? (leading (ofText parameter ++ (ofText after ++ rest))) =
                some parameter := by
              rwa [← List.append_assoc, ← TemplateSign.ofText_append, spelled]
            have shorter :
                (after.dropWhile isColorLetter).length < (parameter ++ after).length := by
              rw [List.length_append]
              have some_ := List.length_pos_of_mem equals
              have short := (List.dropWhile_suffix (l := after) isColorLetter).length_le
              omega
            have later := inductionHypothesis _ shorter (orderly.behind front) rfl
            rw [palette.resolvedSignsFrom_parameter here, palette.resolvedRefsFrom_found found,
              List.append_assoc, resolvedValue_span after front (orderly.value here), resolvedSigns,
              later]
            simp only [TemplateSign.ofText_append, List.append_assoc]
            rfl

/-- Letters in front of a place are resolved like a text, and what follows the place is resolved
by itself. -/
theorem resolvedSigns_place {sign : TemplateSign} (front : leading (sign :: rest) = [])
    (orderly : palette.Orderly false (ofText text ++ sign :: rest)) :
    palette.resolvedSigns (ofText text ++ sign :: rest) =
        ofText (palette.resolvedRefs text) ++ sign :: palette.resolvedSigns rest ∧
      palette.Orderly false rest := by
  have unnamed := TemplateSign.isNameSign_of_place front
  have fresh : parameterAt? (leading (sign :: rest)) = none := by
    rw [front]
    rfl
  have later := (orderly.of_append fresh).2
  rw [unnamed] at later
  refine ⟨?_, later⟩
  rw [resolvedSigns, resolvedSignsFrom_ofText front orderly, resolvedSigns,
    resolvedSignsFrom_absent false fresh, unnamed]
  rfl

/-- The signs of a part after the colors in its letters are resolved. -/
def resolvedPart (palette : Palette) : TemplatePart → List TemplateSign
  | .letters text => ofText (palette.resolvedRefs text)
  | .content => [.content]
  | .argument digits => [.argument digits]

/-- An orderly template is resolved part by part. -/
theorem resolvedSigns_partsFrom (pending template : Text)
    (orderly : palette.Orderly false ((Substitution.partsFrom pending template).flatMap ofPart)) :
    palette.resolvedSigns ((Substitution.partsFrom pending template).flatMap ofPart) =
      (Substitution.partsFrom pending template).flatMap palette.resolvedPart := by
  fun_induction Substitution.partsFrom pending template with
  | case1 pending =>
      have nothing : palette.resolvedSigns [] = [] := by
        rw [resolvedSigns, resolvedSignsFrom]
      exact (resolvedSignsFrom_ofText rfl orderly).trans (congrArg (_ ++ ·) nothing)
  | case2 pending letter rest mark inductionHypothesis =>
      obtain ⟨resolved, later⟩ := resolvedSigns_place rfl orderly
      exact resolved.trans (congrArg (_ ++ _ :: ·) (inductionHypothesis later))
  | case3 pending letter rest noMark digits noDigits inductionHypothesis =>
      exact inductionHypothesis orderly
  | case4 pending letter rest noMark digits someDigits inductionHypothesis =>
      obtain ⟨resolved, later⟩ := resolvedSigns_place rfl orderly
      exact resolved.trans (congrArg (_ ++ _ :: ·) (inductionHypothesis later))

end Palette

namespace Component

variable {palette : Palette} {entry : Entry ComponentBody}

theorem foldlM_putSign_ofText (arguments : List Text) (content text : Text) (draft : Draft) :
    (ofText text).foldlM (putSign palette entry arguments content) draft =
      .ok (draft.put content (.letters text)) := by
  induction text generalizing draft with
  | nil => simp [ofText, Draft.put, pure, Except.pure]
  | cons letter others inductionHypothesis =>
      have later := inductionHypothesis (draft.put content (.letters [letter]))
      refine Eq.trans ?_ (later.trans ?_)
      · rfl
      · simp [Draft.put]

/-- The signs of a part, resolved, are put like the part. -/
theorem foldlM_putSign_resolvedPart (arguments : List Text) (content : Text) (draft : Draft)
    (part : TemplatePart) :
    (palette.resolvedPart part).foldlM (putSign palette entry arguments content) draft =
      putPart palette entry arguments content draft part := by
  cases part with
  | letters text => exact foldlM_putSign_ofText arguments content _ draft
  | content => exact bind_pure _
  | argument digits => exact bind_pure _

theorem foldlM_putSign_flatMap (arguments : List Text) (content : Text) (draft : Draft)
    (parts : List TemplatePart) :
    (parts.flatMap palette.resolvedPart).foldlM (putSign palette entry arguments content) draft =
      parts.foldlM (putPart palette entry arguments content) draft := by
  induction parts generalizing draft with
  | nil => rfl
  | cons part rest inductionHypothesis =>
      rw [List.flatMap_cons, List.foldlM_append, foldlM_putSign_resolvedPart, List.foldlM_cons]
      exact bind_congr inductionHypothesis

/-- An orderly template is filled as if its colors were first resolved in it as one text, in which
places are not looked into. -/
theorem substitute_resolved (arguments : List Text) (content : Text)
    (orderly : palette.Orderly false (ofTemplate entry.body.template)) :
    substitute palette entry arguments content =
      substituteResolved palette entry arguments content := by
  have parts := Palette.resolvedSigns_partsFrom [] entry.body.template orderly
  rw [substituteResolved, substitute, ofTemplate, Substitution.parts, parts,
    foldlM_putSign_flatMap]

/-- A component with this template and one argument. -/
def templated (template : Text) : Entry ComponentBody :=
  ⟨"bar", [], [], .absent, ⟨false, false, template, ["first"], [], [], none⟩⟩

theorem substitute_resolved_divider :
    Palette.equated.Orderly false (ofTemplate "ui:divider:colors=cobalt,accent,$1/ $content") ∧
      substituteResolved Palette.equated
          (templated "ui:divider:colors=cobalt,accent,$1/ $content") ["accent"] "x" =
        .ok ("ui:divider:colors=2B6CB0,F41C80,F41C80/ x", [40]) := by
  have signs : ofTemplate "ui:divider:colors=cobalt,accent,$1/ $content" =
      ofText "ui:divider:colors=cobalt,accent," ++
        .argument "1" :: (ofText "/ " ++ .content :: ofText "") := by
    with_unfolding_all rfl
  have orderly : Palette.equated.Orderly false
      (ofTemplate "ui:divider:colors=cobalt,accent,$1/ $content") := by
    rw [signs]
    decide
  have filled : substitute Palette.equated
      (templated "ui:divider:colors=cobalt,accent,$1/ $content") ["accent"] "x" =
        .ok ("ui:divider:colors=2B6CB0,F41C80,F41C80/ x", [40]) := by
    with_unfolding_all rfl
  exact ⟨orderly, (substitute_resolved ["accent"] "x" orderly).symm.trans filled⟩

/-- A color behind a place is not resolved, though it is in the template as one text. -/
theorem substitute_not_resolved :
    substitute Palette.equated (templated "colors=$1,accent") ["first"] [] =
        .ok ("colors=first,accent", []) ∧
      substituteResolved Palette.equated (templated "colors=$1,accent") ["first"] [] =
        .ok ("colors=first,F41C80", []) := by
  constructor
  · with_unfolding_all rfl
  · with_unfolding_all rfl

end Component

end Flourish
