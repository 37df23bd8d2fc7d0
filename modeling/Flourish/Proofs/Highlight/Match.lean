/-
This file says what each rule of a highlighter matches. Main statements: the rules of the two modes
match what is read there, and what they make of it are the lexemes that are read.
-/

import Flourish.Proofs.Highlight.Rule
import Flourish.Proofs.Tag.Head

namespace Flourish

namespace Pattern

variable {Result : Type} {before : Option Letter} {text letters : Text}
  {groups : List (Nat × Text)} {accept : Way → Option Result} {admits : Letter → Bool}
  {first second inner : Pattern}

theorem search_next : (next first second).search before text groups accept =
    first.search before text groups fun way =>
      second.search (way.taken.getLast?.or before) (text.drop way.taken.length) way.groups
        fun later => accept ⟨way.taken ++ later.taken, later.groups⟩ :=
  rfl

theorem all_cons {others : List Pattern} :
    all (first :: second :: others) = next first (all (second :: others)) :=
  rfl

theorem search_group {number : Nat} : (group number inner).search before text groups accept =
    inner.search before text groups fun way =>
      accept ⟨way.taken, (number, way.taken) :: way.groups⟩ :=
  rfl

theorem search_longest : (longest admits).search before text groups accept =
    tryLongest admits text fun taken => accept ⟨taken, groups⟩ :=
  rfl

theorem search_word : (word letters).search before text groups accept =
    if letters <+: text then accept ⟨letters, groups⟩ else none := by
  simp only [word, search, List.findSome?_cons, List.findSome?_nil, List.isPrefixOf_iff_prefix]
  by_cases here : letters <+: text
  · rw [if_pos here]
    cases accept ⟨letters, groups⟩ <;> rfl
  · rw [if_neg here]

/-- One letter and more are a run with letters in it, if no shorter run is accepted. -/
theorem search_oneOrMore (refused : ∀ taken letter others, text = taken ++ letter :: others →
    admits letter → accept ⟨taken, groups⟩ = none) :
    (oneOrMore admits).search before text groups accept =
      if text.takeWhile admits = [] then none else accept ⟨text.takeWhile admits, groups⟩ := by
  cases text with
  | nil => rfl
  | cons letter rest =>
      simp only [oneOrMore, search, List.length_singleton, List.drop_succ_cons, List.drop_zero,
        List.takeWhile_cons]
      split
      · rw [tryLongest_run, if_neg (List.cons_ne_nil _ _)]
        · rfl
        · intro taken later others split
          exact refused (letter :: taken) later others (by rw [split]; rfl)
      · rfl

/-- A run that is accepted is taken as a whole. -/
theorem search_oneOrMore_found {found : Way → Result} :
    (oneOrMore admits).search before text groups (fun way => some (found way)) =
      if text.takeWhile admits = [] then none
      else some (found ⟨text.takeWhile admits, groups⟩) := by
  cases text with
  | nil => rfl
  | cons letter rest =>
      simp only [oneOrMore, search, List.length_singleton, List.drop_succ_cons, List.drop_zero,
        List.takeWhile_cons]
      split
      · rw [if_neg (List.cons_ne_nil _ _)]
        exact tryLongest_accepted rfl
      · rfl

/-- A word does not stand where another letter does. -/
theorem not_isPrefix_cons {letter other : Letter} {rest others : Text} (different : letter ≠ other) :
    ¬ letter :: rest <+: other :: others :=
  fun starts => different (List.cons_prefix_cons.mp starts).1

end Pattern

namespace Lexeme.Rule

open Pattern (Way search_next search_word search_group search_longest all_cons
  not_isPrefix_cons)

variable {Result : Type} {before : Option Letter} {text marker : Text} {groups : List (Nat × Text)}

theorem search_inlineCode (found : Text → Result) :
    inlineCode.pattern.search before text groups (fun way => some (found way.taken)) =
      (inlineCode? text).map found := by
  simp only [inlineCode, Pattern.all, search_next, search_longest, search_word]
  cases text with
  | nil => rfl
  | cons letter rest =>
      by_cases tick : letter = '\x60'
      · subst tick
        have front : [.of '\x60'] <+: .of '\x60' :: rest := ⟨rest, rfl⟩
        rw [if_pos front, Pattern.tryLongest_run]
        · simp only [inlineCode?, List.length_singleton, List.drop_succ_cons, List.drop_zero]
          generalize rest.takeWhile _ = inside
          cases rest.drop inside.length with
          | nil => rfl
          | cons next others =>
              by_cases ends : next = '\x60'
              · subst ends
                rfl
              · rw [if_neg (not_isPrefix_cons (Ne.symm ends))]
                simp [ends]
        · intro taken next others split admitted
          rw [split, List.drop_left, if_neg]
          apply not_isPrefix_cons
          rintro rfl
          simp at admitted
      · rw [if_neg (not_isPrefix_cons (Ne.symm tick))]
        simp [inlineCode?, tick]

/-- A run on a line ends at a border of the line. -/
theorem isLineBorder_behind (text : Text) :
    Pattern.isLineBorder (text.drop (text.takeWhile onLine).length).head? = true := by
  rw [Text.drop_run]
  cases behind : text.dropWhile onLine with
  | nil => rfl
  | cons letter rest =>
      have stop := List.head?_dropWhile_not onLine text
      rw [behind] at stop
      simpa [onLine, Pattern.isLineBorder] using stop

/-- The last line of a fence begins with its marker and is taken to its end. -/
theorem search_fenceClosing (opened : groups.lookup 1 = some marker) (plain : .of '\n' ∉ marker)
    (found : Text → Result) :
    (Pattern.all [.again 1, .longest onLine, .lineStop]).search before text groups
        (fun way => some (found way.taken)) =
      if marker <+: text then some (found (untilNewline text)) else none := by
  rw [all_cons, search_next]
  simp only [Pattern.search, opened, List.isPrefixOf_iff_prefix]
  by_cases here : marker <+: text
  · obtain ⟨rest, rfl⟩ := here
    have letters : ∀ letter ∈ marker, decide (letter ≠ '\n') := by
      intro letter member
      simpa using fun newline : letter = '\n' => plain (newline ▸ member)
    have line : untilNewline (marker ++ rest) = marker ++ rest.takeWhile onLine :=
      List.takeWhile_append_of_pos letters
    rw [if_pos (List.prefix_append _ _), if_pos (List.prefix_append _ _), all_cons, search_next,
      List.drop_left, line]
    apply Pattern.tryLongest_accepted
    simp only [Pattern.all, Pattern.search, isLineBorder_behind, if_true, List.append_nil]
  · rw [if_neg here, if_neg here]

/-- The rest of a fence goes to the first later line that begins with its marker, or is the next
line. -/
theorem search_fenceRest (plain : .of '\n' ∉ marker) (found : Text → Result) :
    (Pattern.all [.perhaps (.group 2 (.next (.shortest fun _ => true) (.word [.of '\n']))),
        .again 1, .longest onLine, .lineStop]).search before text [(1, marker)]
        (fun way => some (found way.taken)) =
      (fenceRest? marker text).map found := by
  rw [all_cons, search_next, Pattern.search, search_group, search_next]
  simp only [Pattern.search, search_word]
  have later (taken rest : Text) (split : text = taken ++ rest) :
      (if [.of '\n'] <+: text.drop taken.length then
        (Pattern.all [.again 1, .longest onLine, .lineStop]).search
          ((taken ++ [Letter.of '\n']).getLast?.or before)
          (text.drop (taken ++ [Letter.of '\n']).length)
          [(2, taken ++ [.of '\n']), (1, marker)]
          (fun later => some (found ((taken ++ [.of '\n']) ++ later.taken)))
      else none) =
      if .of '\n' :: marker <+: rest then
        some (found (taken ++ .of '\n' :: untilNewline (text.drop (taken.length + 1))))
      else none := by
    rw [List.length_append, List.length_singleton, ← List.drop_drop, split, List.drop_left]
    cases rest with
    | nil => rfl
    | cons letter others =>
        by_cases newline : '\n' = letter
        · subst newline
          rw [if_pos ⟨others, rfl⟩, List.drop_succ_cons, List.drop_zero,
            search_fenceClosing rfl plain fun line => found (taken ++ [Letter.of '\n'] ++ line)]
          simp [List.cons_prefix_cons]
        · rw [if_neg (not_isPrefix_cons newline), if_neg (not_isPrefix_cons newline)]
  rw [Pattern.tryShortest_found (List.cons_ne_nil _ _) later,
    search_fenceClosing rfl plain fun line => found ([] ++ line)]
  unfold fenceRest?
  cases sought : Text.firstIndex (.of '\n' :: marker) text with
  | none => simp [apply_ite]
  | some index =>
      obtain ⟨rest, behind⟩ := Text.firstIndex_isPrefix sought
      have within : index < text.length := by
        have size := congrArg List.length behind
        simp only [List.length_append, List.length_cons, List.length_drop] at size
        omega
      have front : text.take index ++ [.of '\n'] = text.take (index + 1) := by
        rw [List.take_add, ← behind]
        rfl
      simp only [Option.map_some, Option.some_or, List.length_take_of_le (Nat.le_of_lt within)]
      rw [← front, List.append_assoc]
      rfl

/-- The first line of a fence is taken to its end, and the rest of the fence begins behind it. -/
theorem search_fenceOpening (plain : .of '\n' ∉ marker) (starts : marker <+: text)
    (found : Text → Result) :
    (Pattern.all [.longest onLine, .word [.of '\n'],
        .perhaps (.group 2 (.next (.shortest fun _ => true) (.word [.of '\n']))),
        .again 1, .longest onLine, .lineStop]).search before (text.drop marker.length)
        [(1, marker)] (fun way => some (found (marker ++ way.taken))) =
      (match text.drop (untilNewline text).length with
        | [] => none
        | newline :: body =>
            (fenceRest? marker body).map fun rest => untilNewline text ++ newline :: rest).map
        found := by
  obtain ⟨rest, rfl⟩ := starts
  have letters : ∀ letter ∈ marker, decide (letter ≠ '\n') := by
    intro letter member
    simpa using fun newline : letter = '\n' => plain (newline ▸ member)
  have line : untilNewline (marker ++ rest) = marker ++ rest.takeWhile onLine :=
    List.takeWhile_append_of_pos letters
  rw [all_cons, search_next, all_cons, line, List.drop_left, List.length_append,
    List.drop_length_add_append, search_longest, Pattern.tryLongest_run]
  · simp only [search_next, search_word]
    cases behind : rest.drop (rest.takeWhile onLine).length with
    | nil => rfl
    | cons letter body =>
        have newline := isLineBorder_behind rest
        rw [behind] at newline
        obtain rfl : letter = '\n' := by simpa [Pattern.isLineBorder] using newline
        rw [if_pos ⟨body, rfl⟩]
        refine (search_fenceRest plain fun others =>
          found (marker ++ (rest.takeWhile onLine ++ ([.of '\n'] ++ others)))).trans ?_
        simp [Option.map_map, Function.comp_def]
  · intro taken letter others split admitted
    rw [search_next, search_word, split, List.drop_left, if_neg]
    apply not_isPrefix_cons
    rintro rfl
    simp [onLine] at admitted

theorem search_fence (found : Text → Result) :
    fence.pattern.search before text [] (fun way => some (found way.taken)) =
      (if Pattern.isLineBorder before then fence? text else none).map found := by
  rw [fence, all_cons, search_next, Pattern.search]
  by_cases border : Pattern.isLineBorder before
  · have apart : [("\x60\x60\x60" : Text), "~~~"].Pairwise fun first second =>
        ¬ first <+: second ∧ ¬ second <+: first := by decide
    rw [if_pos border, if_pos border, all_cons, search_next, search_group, Pattern.search,
      Pattern.findSome?_words apart]
    unfold fence? fenceMarker?
    simp only [List.length_nil, List.drop_zero, List.nil_append]
    cases opened : [("\x60\x60\x60" : Text), "~~~"].find? fun marker => marker.isPrefixOf text with
    | none => rfl
    | some marker =>
        have plain : ∀ marker ∈ [("\x60\x60\x60" : Text), "~~~"], .of '\n' ∉ marker := by decide
        have starts : marker.isPrefixOf text := by simpa using List.find?_some opened
        exact search_fenceOpening (plain marker (List.mem_of_find?_eq_some opened))
          (List.isPrefixOf_iff_prefix.mp starts) found
  · rw [if_neg border, if_neg border]
    rfl

/-- The name of a closer is the run of name letters behind its front, if it is closed. -/
theorem nameAt_eq (text : Text) : Closer.nameAt? text =
    let name := (text.drop 3).takeWhile Tag.isNameLetter
    if [.of '{', .of '{', .of '/'] <+: text ∧ name ≠ [] ∧
      [.of '}', .of '}'] <+: (text.drop 3).drop name.length then some name else none := by
  unfold Closer.nameAt?
  split
  · next rest =>
      simp only [List.drop_succ_cons, List.drop_zero]
      generalize rest.takeWhile Tag.isNameLetter = name
      split
      · simp
      · next tail some_ behind =>
          rw [behind, if_pos ⟨⟨_, rfl⟩, fun empty => some_ empty, ⟨tail, rfl⟩⟩]
      · next some_ other =>
          rw [if_neg]
          rintro ⟨_, _, tail, behind⟩
          exact other tail behind.symm
  · next other =>
      rw [if_neg]
      rintro ⟨⟨rest, rfl⟩, _⟩
      exact other rest rfl

/-- The groups of a closer. -/
def closerGroups (name : Text) : List (Nat × Text) :=
  [(3, [.of '}', .of '}']), (2, name), (1, [.of '{', .of '{', .of '/'])]

theorem search_nameCloser (found : Way → Result) :
    nameCloser.pattern.search before text [] (fun way => some (found way)) =
      (Closer.nameAt? text).map fun name => found ⟨closerForm name, closerGroups name⟩ := by
  simp only [nameCloser, Pattern.all, search_next, search_group, search_word]
  rw [Pattern.search_oneOrMore, nameAt_eq]
  · simp only [List.length_cons, List.length_nil, Nat.reduceAdd]
    generalize (text.drop 3).takeWhile Tag.isNameLetter = name
    by_cases front : [.of '{', .of '{', .of '/'] <+: text
    · by_cases empty : name = []
      · simp [front, empty]
      · by_cases closed : [.of '}', .of '}'] <+: (text.drop 3).drop name.length
        · rw [if_pos front, if_neg empty, if_pos closed, if_pos ⟨front, empty, closed⟩]
          rfl
        · rw [if_pos front, if_neg empty, if_neg closed, if_neg fun all => closed all.2.2]
          rfl
    · rw [if_neg front, if_neg fun all => front all.1]
      rfl
  · intro taken letter others split admitted
    rw [split, List.drop_left, if_neg]
    apply not_isPrefix_cons
    rintro rfl
    cases admitted

/-- Of words that are apart the one that stands at the front is found. -/
theorem find?_word {words : List Text} {word : Text}
    (apart : words.Pairwise fun first second => ¬ first <+: second ∧ ¬ second <+: first)
    (member : word ∈ words) (here : word <+: text) :
    (words.find? fun word => word.isPrefixOf text) = some word := by
  induction words with
  | nil => cases member
  | cons first others inductionHypothesis =>
      obtain ⟨alone, later⟩ := List.pairwise_cons.mp apart
      rcases List.mem_cons.mp member with rfl | among
      · exact List.find?_cons_of_pos (List.isPrefixOf_iff_prefix.mpr here)
      · rw [List.find?_cons_of_neg, inductionHypothesis later among]
        intro there
        rcases List.prefix_or_prefix_of_prefix (List.isPrefixOf_iff_prefix.mp there) here with
          shorter | longer
        · exact (alone word among).1 shorter
        · exact (alone word among).2 longer

theorem spaceNames_apart : spaceNames.Pairwise fun first second =>
    ¬ first <+: second ∧ ¬ second <+: first := by
  decide

theorem mem_spaceNames_iff {word : Text} :
    word ∈ spaceNames ↔ (TagKind.reserved? word).isSome := by
  simp [spaceNames, TagKind.reserved?, List.find?_isSome]

/-- A reserved name is found if it is the run of name letters at the front, provided that nothing
accepts a name letter behind it. -/
theorem search_spaceNames {accept : Way → Option Result}
    (refused : ∀ word letter others, text = word ++ letter :: others → Tag.isNameLetter letter →
      accept ⟨word, groups⟩ = none) :
    (Pattern.oneOf spaceNames).search before text groups accept =
      if (TagKind.reserved? (text.takeWhile Tag.isNameLetter)).isSome then
        accept ⟨text.takeWhile Tag.isNameLetter, groups⟩
      else none := by
  rw [Pattern.search, Pattern.findSome?_words spaceNames_apart]
  split
  · next reserved =>
      rw [find?_word spaceNames_apart (mem_spaceNames_iff.mpr reserved) (List.takeWhile_prefix _)]
      rfl
  · next free =>
      cases sought : spaceNames.find? fun word => word.isPrefixOf text with
      | none => rfl
      | some word =>
          have member := List.mem_of_find?_eq_some sought
          have starts : word.isPrefixOf text := by simpa using List.find?_some sought
          obtain ⟨rest, rfl⟩ := List.isPrefixOf_iff_prefix.mp starts
          obtain ⟨kind, _, rfl⟩ := List.mem_map.mp member
          -- A word at which the run ends would be the run, which is not reserved.
          cases longer : (rest.head?.map Tag.isNameLetter).getD false with
          | false =>
              have run : (kind.name ++ rest).takeWhile Tag.isNameLetter = kind.name :=
                Text.run_eq (Tag.isName_kind kind).2 longer
              rw [run] at free
              exact absurd (mem_spaceNames_iff.mp member) free
          | true =>
              cases rest with
              | nil => cases longer
              | cons letter others => exact refused kind.name letter others rfl longer

/-- The last letter of a reserved name is one of words. -/
theorem isWordLetter_of_reserved {name : Text} (reserved : (TagKind.reserved? name).isSome)
    (before : Option Letter) : (name.getLast?.or before).any isWordLetter = true := by
  obtain ⟨kind, _, rfl⟩ := List.mem_map.mp (mem_spaceNames_iff.mpr reserved)
  cases kind <;> rfl

theorem search_spaceCloser (found : Way → Result) :
    spaceCloser.pattern.search before text [] (fun way => some (found way)) =
      ((Closer.nameAt? text).filter fun name => (TagKind.reserved? name).isSome).map fun name =>
        found ⟨closerForm name, closerGroups name⟩ := by
  simp only [spaceCloser, Pattern.all, search_next, search_group, search_word]
  rw [search_spaceNames, nameAt_eq]
  · simp only [List.length_cons, List.length_nil, Nat.reduceAdd, Pattern.search]
    generalize (text.drop 3).takeWhile Tag.isNameLetter = name
    rw [List.append_nil]
    by_cases front : [.of '{', .of '{', .of '/'] <+: text
    · rw [if_pos front]
      by_cases reserved : (TagKind.reserved? name).isSome
      · have nonempty : name ≠ [] := by
          rintro rfl
          cases reserved
        rw [if_pos reserved, isWordLetter_of_reserved reserved]
        by_cases closed : [.of '}', .of '}'] <+: (text.drop 3).drop name.length
        · have edge : true ≠ ((text.drop 3).drop name.length).head?.any isWordLetter := by
            obtain ⟨others, behind⟩ := closed
            rw [← behind]
            show true ≠ isWordLetter '}'
            decide
          rw [if_pos edge, if_pos closed, if_pos ⟨front, nonempty, closed⟩, Option.filter_some,
            if_pos reserved]
          rfl
        · rw [if_neg closed, ite_self, if_neg fun all => closed all.2.2]
          rfl
      · rw [if_neg reserved]
        split
        · rw [Option.filter_some, if_neg reserved]
          rfl
        · rfl
    · rw [if_neg front, if_neg fun all => front all.1]
      rfl
  · intro word letter others split admitted
    have other : ¬ [.of '}', .of '}'] <+: letter :: others := by
      apply not_isPrefix_cons
      rintro rfl
      cases admitted
    simp only [Pattern.search, List.append_nil, split, List.drop_left, if_neg other, ite_self]

/-- The groups of a head with a namespace. -/
def spaceGroups (space name : Text) : List (Nat × Text) :=
  [(4, name), (3, [.of ':']), (2, space), (1, [.of '{', .of '{'])]

theorem isSome_readSpace_iff : (Tag.readSpace? text).isSome ↔
    (TagKind.reserved? (text.takeWhile Tag.isNameLetter)).isSome ∧
      [.of ':'] <+: text.drop (text.takeWhile Tag.isNameLetter).length := by
  simp only [Tag.readSpace?]
  split
  · next kind others reserved behind => simp [reserved, behind]
  · next other =>
      constructor
      · intro nothing
        cases nothing
      · rintro ⟨reserved, others, behind⟩
        obtain ⟨kind, found⟩ := Option.isSome_iff_exists.mp reserved
        exact absurd behind.symm (other kind others found)

theorem search_spaceHead (found : Way → Result) :
    spaceHead.pattern.search before (.of '{' :: .of '{' :: text) [] (fun way => some (found way)) =
      let space := text.takeWhile Tag.isNameLetter
      let name := ((text.drop space.length).drop 1).takeWhile Tag.isNameLetter
      if (Tag.readSpace? text).isSome ∧ name ≠ [] then
        some (found ⟨[.of '{', .of '{'] ++ (space ++ ([.of ':'] ++ name)), spaceGroups space name⟩)
      else none := by
  simp only [spaceHead, Pattern.all, search_next, search_group, search_word]
  rw [if_pos ⟨text, rfl⟩, search_spaceNames]
  · simp only [List.length_cons, List.length_nil, Nat.reduceAdd, List.drop_succ_cons,
      List.drop_zero, isSome_readSpace_iff, Pattern.search_oneOrMore_found, spaceGroups]
    generalize text.takeWhile Tag.isNameLetter = space
    split
    · next reserved =>
        generalize List.takeWhile _ _ = name
        split
        · next colon => simp [reserved, colon]
        · next other => simp [other]
    · next free => simp [free]
  · intro word letter others split admitted
    rw [split, List.drop_left, if_neg]
    apply not_isPrefix_cons
    rintro rfl
    cases admitted

theorem search_bareHead (found : Way → Result) :
    bareHead.pattern.search before (.of '{' :: .of '{' :: text) [] (fun way => some (found way)) =
      let name := text.takeWhile Tag.isNameLetter
      if name ≠ [] then
        some (found ⟨[.of '{', .of '{'] ++ name, [(2, name), (1, [.of '{', .of '{'])]⟩)
      else none := by
  simp only [bareHead, Pattern.all, search_next, search_group, search_word]
  rw [if_pos ⟨text, rfl⟩, Pattern.search_oneOrMore_found]
  exact (ite_not _ _ _).symm

theorem search_plainRun (found : Text → Result) :
    plainRun.pattern.search before text [] (fun way => some (found way.taken)) =
      if text.takeWhile isPlain = [] then none else some (found (text.takeWhile isPlain)) :=
  Pattern.search_oneOrMore_found

theorem search_parameter (found : Way → Result) :
    parameter.pattern.search before (.of ':' :: text) [] (fun way => some (found way)) =
      let key := text.takeWhile Tag.isNameLetter
      let value := ((text.drop key.length).drop 1).takeWhile fun letter => !Tag.endsValue letter
      if key ≠ [] ∧ [.of '='] <+: text.drop key.length then
        some (found ⟨[.of ':'] ++ (key ++ ([.of '='] ++ value)),
          [(4, value), (3, [.of '=']), (2, key), (1, [.of ':'])]⟩)
      else none := by
  simp only [parameter, Pattern.all, search_next, search_group, search_word, search_longest]
  rw [if_pos ⟨text, rfl⟩, Pattern.search_oneOrMore]
  · simp only [List.length_singleton, List.drop_succ_cons, List.drop_zero]
    generalize text.takeWhile Tag.isNameLetter = key
    by_cases empty : key = []
    · simp [empty]
    · by_cases equals : [.of '='] <+: text.drop key.length
      · rw [if_neg empty, if_pos equals, if_pos ⟨empty, equals⟩]
        exact Pattern.tryLongest_accepted rfl
      · rw [if_neg empty, if_neg equals, if_neg fun all => equals all.2]
  · intro taken letter others split admitted
    rw [List.length_singleton, List.drop_succ_cons, List.drop_zero] at split ⊢
    rw [split, List.drop_left, if_neg]
    apply not_isPrefix_cons
    rintro rfl
    cases admitted

theorem search_argument (found : Way → Result) :
    argument.pattern.search before (.of ':' :: text) [] (fun way => some (found way)) =
      let value := text.takeWhile fun letter => !Tag.endsValue letter && letter ≠ '='
      if value ≠ [] then some (found ⟨[.of ':'] ++ value, [(2, value), (1, [.of ':'])]⟩)
      else none := by
  simp only [argument, Pattern.all, search_next, search_group, search_word]
  rw [if_pos ⟨text, rfl⟩, Pattern.search_oneOrMore_found]
  exact (ite_not _ _ _).symm

end Lexeme.Rule
end Flourish
