/-
This file shows that segments keep their meaning when they are cut and moved. Main statements: a
letter of a cut has the source it had before, and the letters of a cut are those of the document.
-/

import Flourish.Expansion.Segment
import Flourish.Proofs.Text.Search

namespace Flourish.Segment

variable {segments : List Segment} {segment : Segment} {start stop shift position : Int}

theorem sourceOf_append (first second : List Segment) (position : Int) :
    sourceOf? (first ++ second) position =
      (sourceOf? first position).or (sourceOf? second position) := by
  simp only [sourceOf?, List.find?_append]
  cases first.find? fun segment => segment.start ≤ position && position < segment.stop <;> rfl

theorem sourceOf_cons (segment : Segment) (rest : List Segment) (position : Int) :
    sourceOf? (segment :: rest) position =
      if segment.start ≤ position ∧ position < segment.stop then
        some (segment.source + position - segment.start)
      else sourceOf? rest position := by
  by_cases inside : segment.start ≤ position ∧ position < segment.stop
  · simp [sourceOf?, inside]
  · rw [if_neg inside, sourceOf?, List.find?_cons_of_neg (by simpa using inside), sourceOf?]

/-- The source of a letter is told by a segment that it stands in. -/
theorem mem_of_sourceOf {source : Int} (found : sourceOf? segments position = some source) :
    ∃ segment ∈ segments, segment.start ≤ position ∧ position < segment.stop ∧
      source = segment.source + position - segment.start := by
  obtain ⟨segment, sought, rfl⟩ := Option.map_eq_some_iff.mp found
  have inside := List.find?_some sought
  simp only [Bool.and_eq_true, decide_eq_true_eq] at inside
  exact ⟨segment, List.mem_of_find?_eq_some sought, inside.1, inside.2, rfl⟩

/-- A letter of a cut has the source that it had before it was moved. -/
theorem sourceOf_sliced (segments : List Segment) (start stop shift position : Int) :
    sourceOf? (sliced segments start stop shift) position =
      if start ≤ position - shift ∧ position - shift < stop then
        sourceOf? segments (position - shift)
      else none := by
  induction segments with
  | nil => simp [sliced, sourceOf?]
  | cons segment rest inductionHypothesis =>
      by_cases some_ : max segment.start start < min segment.stop stop
      · have cut : sliced (segment :: rest) start stop shift =
            ⟨max segment.start start + shift, min segment.stop stop + shift,
              segment.source + max segment.start start - segment.start⟩ ::
              sliced rest start stop shift := by
          simp only [sliced, List.filterMap_cons, if_pos some_]
        rw [cut, sourceOf_cons, sourceOf_cons, inductionHypothesis]
        simp only
        by_cases between : start ≤ position - shift ∧ position - shift < stop
        · by_cases held : segment.start ≤ position - shift ∧ position - shift < segment.stop
          · rw [if_pos (by omega), if_pos between, if_pos held]
            exact congrArg some (by omega)
          · rw [if_neg (by omega), if_pos between, if_pos between, if_neg held]
        · rw [if_neg (by omega), if_neg between, if_neg between]
      · have cut : sliced (segment :: rest) start stop shift = sliced rest start stop shift := by
          simp only [sliced, List.filterMap_cons, if_neg some_]
        rw [cut, sourceOf_cons, inductionHypothesis]
        by_cases between : start ≤ position - shift ∧ position - shift < stop
        · rw [if_pos between, if_pos between, if_neg (by omega)]
        · rw [if_neg between, if_neg between]

/-- A segment of a cut is what is left of a segment between its bounds. -/
theorem mem_sliced {cut : Segment} :
    cut ∈ sliced segments start stop shift ↔
      ∃ segment ∈ segments, max segment.start start < min segment.stop stop ∧
        cut = ⟨max segment.start start + shift, min segment.stop stop + shift,
          segment.source + max segment.start start - segment.start⟩ := by
  simp only [sliced, List.mem_filterMap, Option.ite_none_right_eq_some, Option.some.injEq]
  exact exists_congr fun segment => and_congr_right fun _ => and_congr_right fun _ => eq_comm

/-- Segments that follow one another without overlap. -/
def Ordered (segments : List Segment) : Prop :=
  segments.Pairwise fun first second => first.stop ≤ second.start

theorem Ordered.sliced (ordered : Ordered segments) (start stop shift : Int) :
    Ordered (sliced segments start stop shift) := by
  refine List.Pairwise.filterMap _ ?_ ordered
  intro first second apart cut cutFirst other cutSecond
  simp only at cutFirst cutSecond
  split at cutFirst
  · split at cutSecond
    · cases cutFirst
      cases cutSecond
      show min first.stop stop + shift ≤ max second.start start + shift
      omega
    · cases cutSecond
  · cases cutFirst

/-- The segments of copies that begin at `starts` of the stretch of `size` letters at
`bodyStart`. -/
def copies (segments : List Segment) (bodyStart size : Nat) (starts : List Nat) : List Segment :=
  starts.flatMap fun (copy : Nat) =>
    sliced segments bodyStart (bodyStart + size) ((copy : Int) - bodyStart)

section Copies

variable {bodyStart size index : Nat} {starts : List Nat}

/-- Copies of a stretch that do not overlap have segments that do not overlap. -/
theorem Ordered.copies (ordered : Ordered segments)
    (spaced : starts.Pairwise fun first second => first + size ≤ second) :
    Ordered (copies segments bodyStart size starts) := by
  refine List.pairwise_flatMap.mpr ⟨fun copy _ => ordered.sliced _ _ _, ?_⟩
  refine spaced.imp fun {first second} apart cut inFirst other inSecond => ?_
  obtain ⟨_, _, _, rfl⟩ := mem_sliced.mp inFirst
  obtain ⟨_, _, _, rfl⟩ := mem_sliced.mp inSecond
  simp only
  omega

theorem sourceOf_copies_cons (copy : Nat) (rest : List Nat) (position : Int) :
    sourceOf? (copies segments bodyStart size (copy :: rest)) position =
      (if copy ≤ position ∧ position < copy + size then
        sourceOf? segments (position - copy + bodyStart)
      else none).or (sourceOf? (copies segments bodyStart size rest) position) := by
  rw [copies, List.flatMap_cons, sourceOf_append, sourceOf_sliced,
    show position - ((copy : Int) - bodyStart) = position - copy + bodyStart by omega]
  congr 1
  simp only [show bodyStart ≤ position - copy + bodyStart ∧
      position - copy + bodyStart < bodyStart + size ↔
        copy ≤ position ∧ position < copy + size by omega]

/-- A letter before all copies has no source. -/
theorem sourceOf_copies_before (before : ∀ copy ∈ starts, position < (copy : Int)) :
    sourceOf? (copies segments bodyStart size starts) position = none := by
  induction starts with
  | nil => rfl
  | cons copy rest inductionHypothesis =>
      have first := before copy List.mem_cons_self
      rw [sourceOf_copies_cons, if_neg (by omega)]
      exact inductionHypothesis fun other member => before other (List.mem_cons_of_mem _ member)

/-- A letter of a copy has the source of the letter that it copies. -/
theorem sourceOf_copies (spaced : starts.Pairwise fun first second => first + size ≤ second)
    {copy : Nat} (member : copy ∈ starts) (within : index < size) :
    sourceOf? (copies segments bodyStart size starts) ((copy + index : Nat) : Int) =
      sourceOf? segments ((bodyStart + index : Nat) : Int) := by
  induction starts with
  | nil => cases member
  | cons first rest inductionHypothesis =>
      obtain ⟨apart, spaced⟩ := List.pairwise_cons.mp spaced
      rw [sourceOf_copies_cons]
      rcases List.mem_cons.mp member with rfl | later
      · have before : ∀ other ∈ rest, ((copy + index : Nat) : Int) < (other : Int) := by
          intro other there
          have := apart other there
          omega
        rw [sourceOf_copies_before before, Option.or_none, if_pos ⟨by omega, by omega⟩]
        exact congrArg _ (by omega)
      · have := apart copy later
        rw [if_neg (by omega)]
        exact inductionHypothesis spaced later

theorem mem_copies {cut : Segment} :
    cut ∈ copies segments bodyStart size starts ↔
      ∃ copy ∈ starts, ∃ segment ∈ segments,
        max segment.start bodyStart < min segment.stop (bodyStart + size) ∧
        cut = ⟨max segment.start bodyStart + (copy - bodyStart),
          min segment.stop (bodyStart + size) + (copy - bodyStart),
          segment.source + max segment.start bodyStart - segment.start⟩ := by
  simp only [copies, List.mem_flatMap, mem_sliced]

/-- The source of a segment lies between two places of the document. -/
def Within (low high : Int) (segment : Segment) : Prop :=
  low ≤ segment.source ∧ segment.source + (segment.stop - segment.start) ≤ high

theorem Within.copies {low high : Int} (within : ∀ segment ∈ segments, segment.Within low high) :
    ∀ cut ∈ copies segments bodyStart size starts, cut.Within low high := by
  intro cut member
  obtain ⟨copy, _, segment, there, _, rfl⟩ := mem_copies.mp member
  obtain ⟨above, below⟩ := within segment there
  simp only [Within]
  omega

/-- The letters of a segment in its text are those at its source in the document. -/
def Faithful (document text : Text) (segment : Segment) : Prop :=
  ∃ start size source : Nat, segment = ⟨start, (start + size : Nat), source⟩ ∧
    start + size ≤ text.length ∧
    Text.slice start (start + size) text = Text.slice source (source + size) document

/-- A segment reaches to the end of its text, or a brace comes after its source. -/
def Bordered (document text : Text) (segment : Segment) : Prop :=
  segment.stop = text.length ∨
    document[(segment.source + (segment.stop - segment.start)).toNat]? = some (.of '{')

variable {document text inner : Text}

theorem Faithful.letter {start size source index : Nat}
    (faithful : Faithful document text ⟨start, (start + size : Nat), source⟩)
    (within : index < size) : text[start + index]? = document[source + index]? := by
  obtain ⟨_, _, _, same, _, letters⟩ := faithful
  simp only [Segment.mk.injEq, Int.natCast_inj] at same
  obtain ⟨rfl, sameStop, rfl⟩ := same
  obtain rfl := Nat.add_left_cancel sameStop
  exact Text.slice_eq_iff.mp letters index within

/-- A stretch of a text that is copied into another takes its segments along. -/
theorem Faithful.copies (faithful : ∀ segment ∈ segments, segment.Faithful document text)
    (fits : bodyStart + size ≤ text.length)
    (written : ∀ copy ∈ starts,
      Text.slice bodyStart (bodyStart + size) text <+: inner.drop copy) :
    ∀ cut ∈ copies segments bodyStart size starts, cut.Faithful document inner := by
  intro cut member
  obtain ⟨copy, there, segment, ofText, nonempty, rfl⟩ := mem_copies.mp member
  have whole := faithful segment ofText
  obtain ⟨start, length, source, rfl, inText, _⟩ := faithful segment ofText
  simp only at nonempty ⊢
  have copied := written copy there
  have copySize := copied.length_le
  rw [Text.length_slice fits, List.length_drop] at copySize
  -- The cut begins `before` letters into the stretch and `skipped` letters into the segment.
  obtain ⟨before, beforeEq⟩ : ∃ before, before = max start bodyStart - bodyStart := ⟨_, rfl⟩
  obtain ⟨skipped, skippedEq⟩ : ∃ skipped, skipped = max start bodyStart - start := ⟨_, rfl⟩
  obtain ⟨left, leftEq⟩ :
      ∃ left, left = min (start + length) (bodyStart + size) - max start bodyStart := ⟨_, rfl⟩
  refine ⟨copy + before, left, source + skipped, ?_, by omega, Text.slice_eq_iff.mpr ?_⟩
  · simp only [Segment.mk.injEq]
    omega
  · intro index small
    have inStretch : before + index < size := by omega
    rw [Nat.add_assoc, Text.getElem?_of_isPrefix copied
      (by rw [Text.length_slice fits]; omega), Text.getElem?_slice, if_pos inStretch,
      show bodyStart + (before + index) = start + (skipped + index) by omega,
      whole.letter (by omega), Nat.add_assoc]

/-- Copies of a stretch that ends before a brace have a brace after their sources. -/
theorem Bordered.copies (bordered : ∀ segment ∈ segments, segment.Bordered document text)
    (faithful : ∀ segment ∈ segments, segment.Faithful document text)
    (brace : text[bodyStart + size]? = some (.of '{')) :
    ∀ cut ∈ copies segments bodyStart size starts, cut.Bordered document inner := by
  intro cut member
  obtain ⟨copy, there, segment, ofText, nonempty, rfl⟩ := mem_copies.mp member
  have whole := faithful segment ofText
  have border := bordered segment ofText
  obtain ⟨start, length, source, rfl, inText, _⟩ := faithful segment ofText
  obtain ⟨short, _⟩ := List.getElem?_eq_some_iff.mp brace
  simp only [Bordered] at nonempty border ⊢
  right
  by_cases later : bodyStart + size < start + length
  · -- The segment goes on behind the stretch, so the brace was copied with it.
    rw [← brace, show bodyStart + size = start + (bodyStart + size - start) by omega,
      whole.letter (by omega)]
    congr 1
    omega
  · rcases border with atEnd | after
    · omega
    · rw [← after]
      congr 2
      omega

end Copies

end Flourish.Segment
