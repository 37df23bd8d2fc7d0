/-
This file says what becomes of text in which no token begins. Main statement: a document whose
literal text holds no token is its own expansion, and nothing is drawn or counted on the way.
-/

import Flourish.Proofs.Expansion.Code

namespace Flourish

namespace Text

/-- No two braces of a text begin a token. -/
def Untagged (text : Text) : Prop :=
  ∀ position, [.of '{', .of '{'] <+: text.drop position →
    Token.readAt text position text.length = .ok none

variable {text : Text}

theorem read_of_untagged (untagged : text.Untagged) (position : Nat) :
    Token.read position (text.drop position) = .ok none := by
  by_cases braces : [.of '{', .of '{'] <+: text.drop position
  · have read := untagged position braces
    rwa [Token.readAt, slice, List.take_length] at read
  · exact Token.read_plain braces

instance (found : Except Failure (Option Token)) : Decidable (found = .ok none) :=
  match found with
  | .ok none => isTrue rfl
  | .ok (some _) => isFalse (by simp)
  | .error _ => isFalse (by simp)

/-- Braces stand among the letters of a text, so only their places are tried. -/
theorem untagged_iff : text.Untagged ↔ ∀ position < text.length,
    [.of '{', .of '{'] <+: text.drop position →
      Token.readAt text position text.length = .ok none := by
  constructor
  · exact fun untagged position _ => untagged position
  · intro each position braces
    rcases Nat.lt_or_ge position text.length with within | beyond
    · exact each position within braces
    · rw [List.drop_eq_nil_of_le beyond] at braces
      exact absurd (List.prefix_nil.mp braces) (List.cons_ne_nil _ _)

instance (text : Text) : Decidable text.Untagged :=
  decidable_of_iff _ untagged_iff.symm

/-- A stretch of a text without two braces in a row holds no token. -/
theorem untagged_of_braceless (braceless : ¬ [.of '{', .of '{'] <:+: text) (start stop : Nat) :
    (slice start stop text).Untagged := by
  intro position braces
  have within : slice start stop text <:+: text :=
    (List.drop_suffix _ _).isInfix.trans (List.take_prefix _ _).isInfix
  exact absurd (braces.isInfix.trans ((List.drop_suffix _ _).isInfix.trans within)) braceless

end Text

/-- Text that is copied piece by piece is copied whole. -/
theorem Yield.total_copied {Item : Type} (own : Item → Text) (items : List Item) :
    total (items.map fun item => copied (own item)) = copied (items.flatMap own) := by
  induction items with
  | nil => rfl
  | cons item rest inductionHypothesis =>
      rw [List.map_cons, total_cons, inductionHypothesis, copied_andThen_copied, List.flatMap_cons]

namespace Processor

variable {processor : Processor} {document : Text} {span : Span} {output : Output}

/-- The last thing that happens to a document is that its templates and files are counted. -/
theorem getLast?_events (ended : (processor.process document).result = .ok output) :
    (processor.process document).events.getLast? =
      some (.expanded (processor.yield document).expansions output.assets.length) := by
  simp only [process] at ended ⊢
  split at ended
  · cases ended
  · next pieces expanded =>
      cases ended
      simp only [yield, Yield.ofSpans, Run.log, List.getLast?_reverse, List.head?_cons]

/-- A span in which no token begins comes to itself. -/
theorem spanYield_untagged (untagged : span.kind = .literal → (span.textIn document).Untagged)
    (known : span.kind = .literal ∨ span.kind = .code) :
    processor.spanYield document span = .copied (span.textIn document) := by
  rcases known with literal | code
  · have read : ∀ index, Token.read (0 + index) ((span.textIn document).drop index) = .ok none := by
      intro index
      rw [Nat.zero_add]
      exact Text.read_of_untagged (untagged literal) index
    rw [spanYield_literal literal, alone, Machine.yield_finish, Recursion.expand_untagged read]
    rfl
  · exact spanYield_code code

/-- A document is expanded to itself, without files and without templates. -/
structure Keeps (processor : Processor) (document : Text) : Prop where
  result : (processor.process document).result = .ok ⟨document, []⟩
  counted : (processor.process document).events.getLast? = some (.expanded 0 0)

theorem keeps_of_untagged
    (untagged : ∀ span ∈ processor.literals document, (span.textIn document).Untagged) :
    processor.Keeps document := by
  have spans : processor.spansYield document = .copied document := by
    have each : ∀ span ∈ Span.scan processor.settings.codeMarks document,
        processor.spanYield document span = .copied (span.textIn document) := by
      intro span member
      exact spanYield_untagged (fun literal => untagged span (mem_literals.mpr ⟨member, literal⟩))
        (Span.scan_kind member)
    rw [spansYield, List.map_congr_left each, Yield.total_copied, Span.flatMap_textIn_scan]
  have whole : processor.yield document = .copied document := by
    rw [← spans]
    apply yield_eq_spansYield
    left
    rw [spans]
    exact Nat.zero_le _
  have result : (processor.process document).result = .ok ⟨document, []⟩ := by
    rw [process_yield, whole]
    rfl
  refine ⟨result, ?_⟩
  rw [getLast?_events result, whole]
  rfl

/-- A document in whose literal text no two braces begin a token is expanded to itself, without
files and without templates. So is every document without two braces in a row. -/
theorem process_untagged (processor : Processor) :
    (∀ document, (∀ span ∈ processor.literals document, (span.textIn document).Untagged) →
      processor.Keeps document) ∧
    ∀ document, ¬ [.of '{', .of '{'] <:+: document → processor.Keeps document :=
  ⟨fun _ => keeps_of_untagged, fun _ braceless =>
    keeps_of_untagged fun _ _ => Text.untagged_of_braceless braceless _ _⟩

/-- Braces in a row, a closer that breaks off, and a tag in code. -/
def looseBraces : Text :=
  "\x7b\x7b\x7b \x7b\x7b/a\x7d \x60{{ui:a/}}\x60\x7b\x7b"

theorem process_looseBraces : framing.literals looseBraces =
      [⟨.literal, 0, 10⟩, ⟨.literal, 21, 23⟩] ∧
    (∀ span ∈ framing.literals looseBraces, (span.textIn looseBraces).Untagged) ∧
    framing.Keeps looseBraces := by
  have literals : framing.literals looseBraces =
      [⟨.literal, 0, 10⟩, ⟨.literal, 21, 23⟩] := by
    have scanned : Span.scan framing.settings.codeMarks looseBraces =
        [⟨.literal, 0, 10⟩, ⟨.code, 10, 21⟩, ⟨.literal, 21, 23⟩] := by with_unfolding_all rfl
    rw [literals, scanned]
    rfl
  have untagged : ∀ span ∈ framing.literals looseBraces, (span.textIn looseBraces).Untagged := by
    rw [literals]
    decide
  exact ⟨literals, untagged, (process_untagged framing).1 looseBraces untagged⟩

end Processor
end Flourish
