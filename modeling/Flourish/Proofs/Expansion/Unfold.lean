/-
This file takes the recursive expansion apart at its tokens. Main statement: a text is expanded by
what takes the place of its first token and then by the expansion of the rest.
-/

import Flourish.Proofs.Expansion.Recursion
import Flourish.Proofs.Tag.Grammar

namespace Flourish.Recursion

open Machine (Outcome)

/-- The outcome of a text of its own that a tag gives rise to. -/
def opened (processor : Processor) (site : Site) (position : Nat) (opening : Opening)
    (extent : Extent) (text : Text) (contentStarts : List Nat) (finish : Finish) (run : Run) :
    Outcome :=
  if processor.settings.maxExpansionDepth < site.depth + 1 then
    .stopped (tooDeep processor site position) run
  else
    let inner := site.child position extent opening.headStop contentStarts
    (expand processor inner 0 text (entered site opening run)).finished inner finish

/-- The outcome of a tag, once it is decided what becomes of it. -/
def replacement (processor : Processor) (site : Site) (position : Nat) (opening : Opening)
    (extent : Extent) (content : Text) (run : Run) : Move → Outcome
  | .write output => ⟨.ok output, run⟩
  | .draw primitive => drawn processor site position primitive run
  | .expandContent finish => opened processor site position opening extent content [0] finish run
  | .expandTemplate text contentStarts finish =>
      if processor.settings.maxExpansions < (counted run).expansions then
        .stopped (tooMany processor site position) (counted run)
      else
        opened processor site position opening extent text contentStarts finish (counted run)

theorem andThen_after (outcome : Outcome) (text : Text) (next : Run → Outcome) :
    (outcome.andThen next).after text = (outcome.after text).andThen next := by
  rcases outcome with ⟨result, run⟩
  cases result with
  | error stop => rfl
  | ok output => exact Outcome.after_after text output (next run)

theorem andThen_nil (outcome : Outcome) : (outcome.andThen fun run => ⟨.ok [], run⟩) = outcome := by
  rcases outcome with ⟨result, run⟩
  cases result with
  | error stop => rfl
  | ok output => simp [Outcome.andThen, Outcome.after, Except.map]

theorem andThen_ok {outcome : Outcome} {text : Text} (ended : outcome.result = .ok text)
    (next : Run → Outcome) : outcome.andThen next = (next outcome.run).after text := by
  simp only [Outcome.andThen, ended]

theorem andThen_assoc (outcome : Outcome) (second third : Run → Outcome) :
    (outcome.andThen second).andThen third =
      outcome.andThen fun run => (second run).andThen third := by
  rcases outcome with ⟨result, run⟩
  cases result with
  | error stop => rfl
  | ok output => exact (andThen_after (second run) output third).symm

variable {processor : Processor} {site : Site} {position : Nat} {letter : Letter}
  {rest tail : Text} {run : Run} {opening : Opening}

theorem cons_of_braces (braces : [.of '{', .of '{'] <+: letter :: rest) :
    ∃ tail, letter = '{' ∧ rest = .of '{' :: tail := by
  obtain ⟨tail, same⟩ := braces
  exact ⟨tail, List.cons.inj same.symm⟩

theorem expand_error {failure : Failure}
    (read : Token.read position (letter :: rest) = .error failure) :
    expand processor site position (letter :: rest) run =
      .stopped (site.placed position (.failure failure)) run := by
  obtain ⟨tail, rfl, rfl⟩ := cons_of_braces (Token.read_error read).2
  rw [expand]
  simp only [read]

/-- A letter that begins no token is copied. -/
theorem expand_letter (read : Token.read position (letter :: rest) = .ok none) :
    expand processor site position (letter :: rest) run =
      (expand processor site (position + 1) rest run).after [letter] := by
  by_cases braces : [.of '{', .of '{'] <+: letter :: rest
  · obtain ⟨tail, rfl, rfl⟩ := cons_of_braces braces
    rw [expand]
    simp only [read]
  · rw [expand]
    intro tail first others
    exact braces ⟨tail, by rw [first, others]; rfl⟩

theorem expand_closer {closer : Closer}
    (read : Token.read position (letter :: rest) = .ok (some (.closer closer))) :
    expand processor site position (letter :: rest) run =
      .stopped (site.placed position
        (.failure (Cause.mismatchedCloser none closer.name).unplaced)) run := by
  obtain ⟨tail, rfl, rfl⟩ := cons_of_braces (Token.braces_of_read read)
  rw [expand]
  simp only [read]

/-- A tag of which nothing becomes stops the expansion. -/
theorem expand_refused {stop : Stop}
    (read : Token.read position (.of '{' :: .of '{' :: tail) = .ok (some (.opening opening)))
    (decision : (Dispatch.decide processor opening tail).outcome = .error stop) :
    expand processor site position (.of '{' :: .of '{' :: tail) run =
      .stopped (site.placed position stop)
        (decided site position opening (Dispatch.decide processor opening tail) run) := by
  rw [expand]
  simp only [read, decision]

/-- The expansion of a tag comes before that of the text behind it. -/
theorem expand_tag {extent : Extent} {move : Move}
    (read : Token.read position (.of '{' :: .of '{' :: tail) = .ok (some (.opening opening)))
    (decision : (Dispatch.decide processor opening tail).outcome = .ok (extent, move)) :
    expand processor site position (.of '{' :: .of '{' :: tail) run =
      (replacement processor site position opening extent (extent.contentIn tail)
        (decided site position opening (Dispatch.decide processor opening tail) run)
        move).andThen fun run =>
          expand processor site (position + (extent.size + 2)) (tail.drop extent.size) run := by
  rw [expand]
  simp only [read, decision]
  cases move <;> rfl

/-- Letters that are no braces are copied before the text behind them is expanded. -/
theorem expand_append {front : Text} (plain : .of '{' ∉ front) (site : Site) (position : Nat)
    (rest : Text) (run : Run) :
    expand processor site position (front ++ rest) run =
      (expand processor site (position + front.length) rest run).after front := by
  induction front generalizing position with
  | nil => rw [List.nil_append, List.length_nil, Nat.add_zero, Machine.Outcome.after_nil]
  | cons letter others inductionHypothesis =>
      obtain ⟨other, later⟩ := List.ne_and_not_mem_of_not_mem_cons plain
      have read : Token.read position (letter :: (others ++ rest)) = .ok none := by
        refine Token.read_plain fun ⟨tail, braces⟩ => other ?_
        exact (List.cons.inj braces).1
      rw [List.cons_append, expand_letter read, inductionHypothesis later,
        Machine.Outcome.after_after, List.length_cons, List.singleton_append,
        Nat.add_right_comm, Nat.add_assoc]

/-- Text in which no token begins is copied. -/
theorem expand_untagged {text : Text}
    (untagged : ∀ index, Token.read (position + index) (text.drop index) = .ok none)
    (site : Site) (run : Run) : expand processor site position text run = ⟨.ok text, run⟩ := by
  induction text generalizing position with
  | nil => rw [expand]
  | cons letter rest inductionHypothesis =>
      have here : Token.read position (letter :: rest) = .ok none := untagged 0
      have later : ∀ index, Token.read (position + 1 + index) (rest.drop index) = .ok none := by
        intro index
        rw [Nat.add_assoc, Nat.add_comm 1]
        exact untagged (index + 1)
      rw [expand_letter here, inductionHypothesis later]
      rfl

/-- Text without two braces in a row is copied. -/
theorem expand_plain {text : Text} (plain : Text.firstIndex [.of '{', .of '{'] text = none)
    (site : Site) (position : Nat) (run : Run) :
    expand processor site position text run = ⟨.ok text, run⟩ :=
  expand_untagged (fun index => Token.read_plain (Text.absent_of_firstIndex plain index)) site run

end Flourish.Recursion
