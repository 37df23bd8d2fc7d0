/-
This file expands texts before the end of a line. Main statement: a text that can be expanded is
expanded alike if a newline and more text follow, and then these are.
-/

import Flourish.Proofs.Expansion.Reads
import Flourish.Proofs.Expansion.Unfold
import Flourish.Proofs.Tag.Ahead

namespace Flourish

namespace Dispatch

variable {processor : Processor} {opening : Opening} {tail : Text} {position : Nat}

/-- What is decided about a tag that ends within a text is the same if a newline and more text
follow. -/
theorem decide_nextLine {chosen : Extent × Move} (more : Text)
    (read : Token.read position (.of '{' :: .of '{' :: tail) = .ok (some (.opening opening)))
    (outcome : (decide processor opening tail).outcome = .ok chosen) :
    decide processor opening (tail ++ nextLine more) = decide processor opening tail := by
  cases decide_reads processor opening.tag with
  | refused stop unplaced same => rw [same opening _ rfl, same opening tail rfl]
  | chosen choose same =>
      rw [same opening tail rfl] at outcome
      rw [same opening _ rfl, same opening tail rfl]
      cases sized : extent opening tail with
      | error failure =>
          rw [sized] at outcome
          cases outcome
      | ok size =>
          rw [extent_nextLine more read sized]
          simp only [Extent.contentIn_append (extent_fits read sized).size_le]

end Dispatch

namespace Recursion

open Machine (Outcome)

/-- A tag that can be expanded is expanded alike before a newline and more text, if the text behind
the tag is. -/
theorem expand_opening_nextLine {processor : Processor} {site : Site} {position : Nat} {tail : Text}
    {opening : Opening} {run : Run} {output : Text} (more : Text)
    (read : Token.read position (.of '{' :: .of '{' :: tail) = .ok (some (.opening opening)))
    (ended : (expand processor site position (.of '{' :: .of '{' :: tail) run).result = .ok output)
    (outer : ∀ size run output,
      (expand processor site (position + (size + 2)) (tail.drop size) run).result = .ok output →
      expand processor site (position + (size + 2)) (tail.drop size ++ nextLine more) run =
        (expand processor site (position + (size + 2)) (tail.drop size) run).andThen fun run =>
          expand processor site (position + (size + 2) + (tail.drop size).length)
            (nextLine more) run) :
    expand processor site position (.of '{' :: .of '{' :: (tail ++ nextLine more)) run =
      (expand processor site position (.of '{' :: .of '{' :: tail) run).andThen fun run =>
        expand processor site (position + (.of '{' :: .of '{' :: tail).length) (nextLine more)
          run := by
  have later : Token.read position (.of '{' :: .of '{' :: (tail ++ nextLine more)) =
      .ok (some (.opening opening)) := Token.read_nextLine more read
  cases outcome : (Dispatch.decide processor opening tail).outcome with
  | error stop =>
      rw [expand_refused read outcome] at ended
      cases ended
  | ok chosen =>
      obtain ⟨size, move⟩ := chosen
      have sound := Dispatch.decide_sound processor opening tail
      simp only [Decision.Sound, outcome] at sound
      have fits := (Dispatch.extent_fits read sound.1).size_le
      have same := Dispatch.decide_nextLine more read outcome
      rw [expand_tag read outcome] at ended ⊢
      rw [expand_tag later (by rw [same, outcome]), same, Extent.contentIn_append fits,
        List.drop_append_of_le_length fits, andThen_assoc]
      generalize replacement processor site position opening size (size.contentIn tail)
        (decided site position opening (Dispatch.decide processor opening tail) run) move =
          replaced at ended ⊢
      cases result : replaced.result with
      | error stop =>
          simp only [Outcome.andThen, result] at ended
          cases ended
      | ok first =>
          simp only [Outcome.andThen, result] at ended ⊢
          obtain ⟨others, ended, _⟩ := exists_of_map_ok ended
          have place : position + (size.size + 2) + (tail.drop size.size).length =
              position + (.of '{' :: .of '{' :: tail).length := by
            simp only [List.length_drop, List.length_cons]
            omega
          have behind := outer size.size _ _ ended
          rw [place] at behind
          exact congrArg (Outcome.after first) behind

/-- A text that can be expanded is expanded alike if a newline and more text follow, and then these
are. -/
theorem expand_nextLine {processor : Processor} {site : Site} {position : Nat} {text : Text}
    {run : Run} {output : Text} (more : Text)
    (ended : (expand processor site position text run).result = .ok output) :
    expand processor site position (text ++ nextLine more) run =
      (expand processor site position text run).andThen fun run =>
        expand processor site (position + text.length) (nextLine more) run := by
  match whole : text with
  | [] =>
      rw [expand]
      exact (Outcome.after_nil _).symm
  | letter :: rest =>
      cases read : Token.read position (letter :: rest) with
      | error failure =>
          rw [expand_error read] at ended
          cases ended
      | ok found =>
          have later := Token.read_nextLine more read
          rw [List.cons_append] at later ⊢
          rcases found with _ | opening | closer
          · rw [expand_letter read] at ended ⊢
            obtain ⟨_, ended, _⟩ := exists_of_map_ok ended
            rw [expand_letter later, expand_nextLine more ended, andThen_after,
              Nat.add_assoc, List.length_cons, Nat.add_comm 1]
          · have outer (size : Nat) (run : Run) (output : Text)
                (ended : (expand processor site (position + (size + 2)) (rest.drop (size + 1))
                  run).result = .ok output) := expand_nextLine more ended
            obtain ⟨tail, rfl, rfl⟩ := cons_of_braces (Token.braces_of_read read)
            exact expand_opening_nextLine more read ended outer
          · rw [expand_closer read] at ended
            cases ended
termination_by text.length
decreasing_by
  · exact Nat.lt_succ_self _
  · simp only [List.length_drop, List.length_cons]
    omega

/-- A text that can be expanded is followed by the newline and the expansion of the next lines. -/
theorem expand_line {processor : Processor} {site : Site} {position : Nat} {text : Text} {run : Run}
    {output : Text} (more : Text)
    (ended : (expand processor site position text run).result = .ok output) :
    expand processor site position (text ++ nextLine more) run =
      ((expand processor site (position + text.length + 1) more
        (expand processor site position text run).run).after [.of '\n']).after output := by
  have newline : ¬ [.of '{', .of '{'] <+: .of '\n' :: more := by
    rintro ⟨rest, same⟩
    cases same
  rw [expand_nextLine more ended, andThen_ok ended, nextLine,
    expand_letter (Token.read_plain newline)]

end Recursion
end Flourish
