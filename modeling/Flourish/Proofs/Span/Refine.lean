/-
This file divides literal spans at their tags. Main statements: the tags that are marked are the
tokens that begin in no earlier tag, and what remains literal begins no token.
-/

import Flourish.Processor.Run
import Flourish.Proofs.Failure.Ends
import Flourish.Proofs.Region.Cut
import Flourish.Proofs.Span.Local

namespace Flourish

namespace Region

/-- No token begins at a place: none is written there, or the head that is begun is malformed. -/
def Plain (region : Region) (place : Nat) : Prop :=
  region.read place = .ok none ∨
    ∃ fault, region.read place = .error ((Cause.malformedTag fault).placed place)

/-- No token begins from one place up to another. -/
def PlainBetween (region : Region) (start stop : Nat) : Prop :=
  ∀ place, start ≤ place → place < stop → region.Plain place

variable {region : Region} {start position place : Nat}

theorem Plain.not_token {token : Token} (plain : region.Plain place) :
    region.read place ≠ .ok (some token) := by
  intro met
  rcases plain with plain | ⟨fault, malformed⟩
  · cases plain.symm.trans met
  · cases malformed.symm.trans met

namespace PlainBetween

theorem empty (region : Region) (place : Nat) : region.PlainBetween place place :=
  fun _ begins ends => absurd begins (Nat.not_le.mpr ends)

/-- No token begins between where a search for braces begins and where it ends. -/
theorem upto (plain : region.PlainBetween start position)
    (next : ∀ found, region.find? [.of '{', .of '{'] position = some found → place ≤ found) :
    region.PlainBetween start place := by
  intro before begins ends
  rcases Nat.lt_or_ge before position with earlier | later
  · exact plain before begins earlier
  · have absent := not_holds_of_find? later fun found same =>
      Nat.lt_of_lt_of_le ends (next found same)
    exact Or.inl (by rw [read, if_neg absent])

theorem before (plain : region.PlainBetween start position)
    (found : region.find? [.of '{', .of '{'] position = some place) :
    region.PlainBetween start place := by
  refine plain.upto fun other same => ?_
  cases found.symm.trans same
  exact Nat.le_refl place

/-- If no token begins at the braces that are found, none begins up to behind the first of them. -/
theorem past (plain : region.PlainBetween start position)
    (found : region.find? [.of '{', .of '{'] position = some place) (here : region.Plain place) :
    region.PlainBetween start (place + 1) := by
  intro other begins ends
  rcases Nat.lt_succ_iff_lt_or_eq.mp ends with earlier | rfl
  · exact plain.before found other begins earlier
  · exact here

end PlainBetween
end Region

namespace Span

/-- Literal and tag spans of a region from `start` on, divided as its tokens are read. -/
structure Divided (region : Region) (start : Nat) (parts : List Span) : Prop where
  tiles : Tiles start region.limit parts
  kinds : ∀ part ∈ parts, part.kind = .literal ∨ part.kind = .tag
  apart : parts.IsChain fun first second => ¬ (first.kind = .literal ∧ second.kind = .literal)
  tags : ∀ part ∈ parts, part.kind = .tag →
    ∃ token, region.read part.start = .ok (some token) ∧ token.stop = part.stop
  literals : ∀ part ∈ parts, part.kind = .literal → region.PlainBetween part.start part.stop

namespace Divided

variable {region : Region} {start place : Nat} {parts : List Span}

theorem nothing (region : Region) : Divided region region.limit [] where
  tiles := rfl
  kinds := List.forall_mem_nil _
  apart := .nil
  tags := List.forall_mem_nil _
  literals := List.forall_mem_nil _

/-- A token and what is divided behind it. -/
theorem tag {token : Token} (met : region.read place = .ok (some token))
    (later : Divided region token.stop parts) :
    Divided region place (⟨.tag, place, token.stop⟩ :: parts) where
  tiles := ⟨rfl, Region.lt_stop_of_read met, later.tiles⟩
  kinds := List.forall_mem_cons.mpr ⟨Or.inr rfl, later.kinds⟩
  apart := later.apart.cons fun _ _ both => SpanKind.noConfusion both.1
  tags := List.forall_mem_cons.mpr ⟨fun _ => ⟨token, met, rfl⟩, later.tags⟩
  literals := List.forall_mem_cons.mpr ⟨fun same => SpanKind.noConfusion same, later.literals⟩

/-- Letters that begin no token, and what is divided behind them. -/
theorem literal (behind : start ≤ place) (plain : region.PlainBetween start place)
    (later : Divided region place parts) (tagged : ∀ part ∈ parts.head?, part.kind = .tag) :
    Divided region start (literalFrom start place ++ parts) := by
  rcases Nat.eq_or_lt_of_le behind with rfl | before
  · rwa [literalFrom, if_neg (Nat.lt_irrefl start), List.nil_append]
  · rw [literalFrom, if_pos before, List.singleton_append]
    constructor
    · exact ⟨rfl, before, later.tiles⟩
    · exact List.forall_mem_cons.mpr ⟨Or.inl rfl, later.kinds⟩
    · refine later.apart.cons fun part first both => ?_
      cases (tagged part first).symm.trans both.2
    · exact List.forall_mem_cons.mpr ⟨fun same => SpanKind.noConfusion same, later.tags⟩
    · exact List.forall_mem_cons.mpr ⟨fun _ => plain, later.literals⟩

/-- A token is a tag span unless it begins in an earlier one. -/
theorem mem_tag_iff (divided : Divided region start parts) {stop : Nat} (behind : start ≤ place) :
    ⟨.tag, place, stop⟩ ∈ parts ↔
      (∃ token, region.read place = .ok (some token) ∧ token.stop = stop) ∧
        ∀ part ∈ parts, part.kind = .tag → ¬ (part.start < place ∧ place < part.stop) := by
  constructor
  · intro member
    obtain ⟨token, met, rfl⟩ := divided.tags _ member rfl
    refine ⟨⟨token, met, rfl⟩, ?_⟩
    rintro part another - ⟨before, under⟩
    have ahead : place < token.stop := Region.lt_stop_of_read met
    have ends := Region.stop_le_of_read met
    obtain ⟨_, _, _, _, _, alone⟩ := divided.tiles.kindAt behind (by omega)
    have same := alone part another (Nat.le_of_lt before) under
    rw [← alone _ member (Nat.le_refl place) ahead] at same
    rw [same] at before
    exact Nat.lt_irrefl place before
  · rintro ⟨⟨token, met, rfl⟩, outside⟩
    have ahead := Region.lt_stop_of_read met
    have ends := Region.stop_le_of_read met
    obtain ⟨part, member, begins, under, -, -⟩ := divided.tiles.kindAt behind (by omega)
    rcases divided.kinds part member with literal | tag
    · exact absurd met (divided.literals part member literal place begins under).not_token
    · have here : part.start = place := by
        have := outside part member tag
        omega
      obtain ⟨other, same, stops⟩ := divided.tags part member tag
      rw [here] at same
      cases same.symm.trans met
      rw [← here, stops, ← tag]
      exact member

end Divided

section

variable {region : Region} {start position place : Nat}

/-- A literal span is always divided. A head that is malformed is passed over, and reading fails in
no other way. -/
theorem refineFrom_divided (behind : start ≤ position) (inside : start ≤ region.limit)
    (plain : region.PlainBetween start position) :
    Ends (Divided region start) (fun _ => False) (refineFrom region start position) := by
  -- What no token has taken is literal up to the next braces, wherever the search for them is.
  fun_induction refineFrom region start position with
  | case1 start position place found token met inductionHypothesis =>
      have passed := (Region.find?_bounds found).1
      have later := inductionHypothesis (Nat.le_refl _) (Region.stop_le_of_read met) (.empty _ _)
      refine later.map fun parts divided => ?_
      refine .literal (Nat.le_trans behind passed) (plain.before found) (divided.tag met) ?_
      rintro part ⟨⟩
      rfl
  | case2 start position place found met inductionHypothesis =>
      have passed := (Region.find?_bounds found).1
      exact inductionHypothesis (by omega) inside (plain.past found (Or.inl met))
  | case3 start position place found fault offset met inductionHypothesis =>
      have passed := (Region.find?_bounds found).1
      obtain ⟨other, same⟩ := Region.malformed_of_read met
      have here : region.Plain place := Or.inr ⟨other, met.trans (congrArg _ same)⟩
      exact inductionHypothesis (by omega) inside (plain.past found here)
  | case4 start position place found failure other met =>
      exact (Region.false_of_read met other).elim
  | case5 start position absent =>
      have all : region.PlainBetween start region.limit :=
        plain.upto fun found same => by cases absent.symm.trans same
      have divided := Divided.literal inside all (.nothing region) (by simp)
      rw [List.append_nil] at divided
      exact .ok divided

/-- Whatever is to be divided, reading fails in no other way than at malformed heads. -/
theorem refineFrom_total (region : Region) (start position : Nat) :
    Ends (fun _ => True) (fun _ => False) (refineFrom region start position) := by
  fun_induction refineFrom region start position with
  | case1 start position place found token met inductionHypothesis =>
      exact inductionHypothesis.map fun _ _ => trivial
  | case2 start position place found met inductionHypothesis => exact inductionHypothesis
  | case3 start position place found fault offset met inductionHypothesis =>
      exact inductionHypothesis
  | case4 start position place found failure other met =>
      exact (Region.false_of_read met other).elim
  | case5 start position absent => exact .ok trivial

end

/-- What stands for a span: code stays, and a literal span is divided. -/
structure Replaced (document : Text) (span : Span) (parts : List Span) : Prop where
  tiles : Tiles span.start span.stop parts
  code : span.kind = .code → parts = [span]
  literal : span.kind = .literal → Divided ⟨document, span.stop⟩ span.start parts

theorem refineSpan_replaced (document : Text) {span : Span} (nonempty : span.start < span.stop)
    (kind : span.kind = .literal ∨ span.kind = .code) :
    Ends (Replaced document span) (fun _ => False) (refineSpan document span) := by
  rcases kind with literal | code
  · have divided : Ends (Divided ⟨document, span.stop⟩ span.start) (fun _ => False)
        (refineFrom ⟨document, span.stop⟩ span.start span.start) :=
      refineFrom_divided (Nat.le_refl _) (Nat.le_of_lt nonempty) (.empty _ _)
    rw [refineSpan, literal]
    refine divided.mono fun parts divided => ⟨divided.tiles, ?_, fun _ => divided⟩
    exact fun code => by cases literal.symm.trans code
  · rw [refineSpan, code]
    refine .ok ⟨⟨rfl, nonempty, rfl⟩, fun _ => rfl, ?_⟩
    exact fun literal => by cases code.symm.trans literal

theorem refineSpan_total (document : Text) (span : Span) :
    Ends (fun _ => True) (fun _ => False) (refineSpan document span) := by
  unfold refineSpan
  split
  · exact refineFrom_total _ _ _
  · exact .ok trivial

/-- Spans that are replaced one by one lie as the spans did. -/
theorem Tiles.flatten {document : Text} {start stop : Nat} {spans : List Span}
    {pieces : List (List Span)} (tiles : Tiles start stop spans)
    (replaced : List.Forall₂ (Replaced document) spans pieces) :
    Tiles start stop pieces.flatten := by
  induction replaced generalizing start with
  | nil => exact tiles
  | cons first later inductionHypothesis =>
      obtain ⟨rfl, nonempty, others⟩ := tiles
      exact first.tiles.append (inductionHypothesis others)

/-- Spans that cover a document are replaced by spans that cover it. -/
theorem refine_replaced {document : Text} {spans : List Span}
    (tiles : Tiles 0 document.length spans)
    (kinds : ∀ span ∈ spans, span.kind = .literal ∨ span.kind = .code) :
    ∃ pieces, refine document spans = .ok pieces.flatten ∧
      Tiles 0 document.length pieces.flatten ∧
      List.Forall₂ (Replaced document) spans pieces := by
  have each := Ends.mapM spans fun span member =>
    refineSpan_replaced document (tiles.nonempty span member) (kinds span member)
  obtain ⟨pieces, found, replaced⟩ := each.exists_ok
  exact ⟨pieces, by rw [refine, found]; rfl, tiles.flatten replaced, replaced⟩

/-- No document and no spans make the division fail. Spans that cover a document are divided into
spans that cover it: code stays, and the tags in a literal span are the tokens that begin in it and
in no earlier tag. No two of the spans that remain literal touch, and none of their letters begins a
token. -/
theorem refine_complete (document : Text) :
    (∀ spans, ∃ refined, refine document spans = .ok refined) ∧
    ∀ spans, Tiles 0 document.length spans →
      (∀ span ∈ spans, span.kind = .literal ∨ span.kind = .code) →
      ∃ pieces, refine document spans = .ok pieces.flatten ∧
        Tiles 0 document.length pieces.flatten ∧
        List.Forall₂ (fun span parts =>
          (span.kind = .code → parts = [span]) ∧
          (span.kind = .literal →
            let region : Region := ⟨document, span.stop⟩
            Divided region span.start parts ∧
            ∀ place stop, span.start ≤ place →
              (⟨.tag, place, stop⟩ ∈ parts ↔
                (∃ token, region.read place = .ok (some token) ∧ token.stop = stop) ∧
                ∀ part ∈ parts, part.kind = .tag →
                  ¬ (part.start < place ∧ place < part.stop)))) spans pieces := by
  constructor
  · intro spans
    have total := Ends.mapM_all spans fun span _ => refineSpan_total document span
    obtain ⟨pieces, found, _⟩ := total.exists_ok
    exact ⟨pieces.flatten, by rw [refine, found]; rfl⟩
  · intro spans tiles kinds
    obtain ⟨pieces, found, covered, replaced⟩ := refine_replaced tiles kinds
    refine ⟨pieces, found, covered, replaced.imp fun span parts replaced => ?_⟩
    refine ⟨replaced.code, fun literal => ?_⟩
    have divided := replaced.literal literal
    exact ⟨divided, fun place stop behind => divided.mem_tag_iff behind⟩

/-- Of three braces the last two open a tag, and a malformed head stays literal. -/
theorem refine_complete_braces :
    let document : Text := "a{{{b}}}{{x:}} {{c}} "
    let spans : List Span := [⟨.literal, 0, 14⟩, ⟨.code, 14, 21⟩]
    let refined : List Span :=
      [⟨.literal, 0, 2⟩, ⟨.tag, 2, 7⟩, ⟨.literal, 7, 14⟩, ⟨.code, 14, 21⟩]
    Tiles 0 document.length spans ∧ (∀ span ∈ spans, span.kind = .literal ∨ span.kind = .code) ∧
      refine document spans = .ok refined ∧ Tiles 0 document.length refined := by
  intro document spans refined
  have tiles : Tiles 0 document.length spans := ⟨rfl, by decide, rfl, by decide, rfl⟩
  have kinds : ∀ span ∈ spans, span.kind = .literal ∨ span.kind = .code := by decide
  obtain ⟨pieces, found, covered, _⟩ := (refine_complete document).2 spans tiles kinds
  have answer : (refine document spans).toOption = some refined := by decide +kernel
  have same : pieces.flatten = refined := by
    rw [found] at answer
    exact Option.some.inj answer
  rw [same] at found covered
  exact ⟨tiles, kinds, found, covered⟩

end Span

/-- The spans that a processor marks for tools cover the document. -/
theorem Processor.spans_tiles (processor : Processor) (document : Text) :
    ∃ marked, processor.spans document = .ok marked ∧
      Span.Tiles 0 document.length marked := by
  have scanned := Span.scan_tiles processor.settings.codeMarks document
  obtain ⟨pieces, found, tiles, _⟩ :=
    Span.refine_replaced scanned fun span member => Span.scan_kind member
  exact ⟨pieces.flatten, found, tiles⟩

end Flourish
