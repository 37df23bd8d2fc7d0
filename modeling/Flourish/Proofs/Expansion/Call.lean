/-
This file follows a tag with arguments and parameters that stands alone. Main statements: its head
is read where it is written, the tag ends with the head or behind its own closer, and a text that is
one tag is expanded to what takes the place of the tag.
-/

import Flourish.Proofs.Expansion.Tree

namespace Flourish

namespace Head

variable {head : Head} {position : Nat} {content rest tail : Text}

/-- The head as it is read where it stands. -/
def opening (head : Head) (position : Nat) : Opening :=
  ⟨head.tag, position, position + head.written.length⟩

theorem read_written (wellFormed : head.WellFormed) (position : Nat) (rest : Text) :
    Token.read position (.of '{' :: .of '{' :: (head.inside ++ rest)) =
      .ok (some (.opening (head.opening position))) :=
  Token.read_opening_iff.mpr ⟨head, wellFormed, List.prefix_append _ _, rfl⟩

theorem headSize_opening (head : Head) (position : Nat) :
    (head.opening position).headStop - (head.opening position).start - 2 = head.inside.length := by
  simp only [opening, written, List.length_cons]
  omega

/-- A tag that closes itself ends with its head. -/
theorem extent_selfClosing (closes : head.selfClosing = true) :
    Dispatch.extent (head.opening position) tail = .ok ⟨head.inside.length, none⟩ := by
  have selfClosing : (head.opening position).tag.selfClosing = true := closes
  simp only [Dispatch.extent, headSize_opening, selfClosing, if_true]

/-- The size of a tag with this content and this name in its closer. -/
def extentAround (head : Head) (content name : Text) : Extent :=
  ⟨head.inside.length, some (content.length, (closerForm name).length)⟩

/-- A tag with a closer of its own ends behind the first one. -/
theorem extent_specific (opens : head.selfClosing = false)
    (policy : head.tag.closerPolicy = .specific)
    (found : Text.firstIndex (closerForm head.tag.closerName)
      (content ++ closerForm head.tag.closerName) = some content.length) :
    Dispatch.extent (head.opening position)
        (head.inside ++ (content ++ closerForm head.tag.closerName)) =
      .ok (head.extentAround content head.tag.closerName) := by
  have selfClosing : (head.opening position).tag.selfClosing = false := opens
  have specific : (head.opening position).tag.closerPolicy = .specific := policy
  have name : (head.opening position).tag.closerName = head.tag.closerName := rfl
  simp only [Dispatch.extent, headSize_opening, selfClosing, Bool.false_eq_true, if_false,
    List.drop_left, specific, Closer.find, Closer.findSpecific, name, found, Closer.named,
    extentAround, Closer.length_closerForm, Except.ok.injEq, Extent.mk.injEq, Option.some.injEq,
    Prod.mk.injEq, true_and]
  omega

theorem contentIn_extentAround (head : Head) (content name rest : Text) :
    (head.extentAround content name).contentIn (head.inside ++ (content ++ rest)) = content := by
  simp only [Extent.contentIn, extentAround, Extent.contentSize, Option.map_some, Option.getD_some,
    List.drop_left, List.take_left]

theorem size_extentAround (head : Head) (content name : Text) :
    (head.extentAround content name).size =
      (head.inside ++ (content ++ closerForm name)).length := by
  simp only [Extent.size, extentAround, Extent.contentSize, Extent.closerSize, Option.map_some,
    Option.getD_some, List.length_append]
  omega

end Head

namespace Recursion

open Machine (Outcome)

variable {processor : Processor} {site : Site} {position : Nat} {head : Head} {rest : Text}
  {run : Run} {extent : Extent} {move : Move} {stop : Stop}

/-- A text that is one tag is expanded to what takes the place of the tag. -/
theorem expand_call (wellFormed : head.WellFormed)
    (decision : (Dispatch.decide processor (head.opening position)
      (head.inside ++ rest)).outcome = .ok (extent, move))
    (whole : extent.size = (head.inside ++ rest).length) :
    expand processor site position (.of '{' :: .of '{' :: (head.inside ++ rest)) run =
      replacement processor site position (head.opening position) extent
        (extent.contentIn (head.inside ++ rest))
        (decided site position (head.opening position)
          (Dispatch.decide processor (head.opening position) (head.inside ++ rest)) run) move := by
  rw [expand_tag (Head.read_written wellFormed position rest) decision, whole, List.drop_length]
  refine Eq.trans ?_ (andThen_nil _)
  congr 1
  funext run
  rw [expand]

/-- A text that is one tag of which nothing becomes stops the expansion. -/
theorem expand_call_refused (wellFormed : head.WellFormed)
    (decision : (Dispatch.decide processor (head.opening position)
      (head.inside ++ rest)).outcome = .error stop) :
    expand processor site position (.of '{' :: .of '{' :: (head.inside ++ rest)) run =
      .stopped (site.placed position stop)
        (decided site position (head.opening position)
          (Dispatch.decide processor (head.opening position) (head.inside ++ rest)) run) :=
  expand_refused (Head.read_written wellFormed position rest) decision

end Recursion

/-- A document that is one tag, which becomes a text or is refused. -/
theorem Processor.process_written {processor : Processor} {head : Head} {rest : Text}
    {extent : Extent} {result : Except Stop Text} (wellFormed : head.WellFormed)
    (decided : (Dispatch.decide processor (head.opening 0) (head.inside ++ rest)).outcome =
      result.map fun output => (extent, .write output))
    (whole : extent.size = (head.inside ++ rest).length) {document : Text}
    (written : document = .of '{' :: .of '{' :: (head.inside ++ rest))
    (scanned : Span.scan processor.settings.codeMarks document =
      [⟨.literal, 0, document.length⟩]) :
    (processor.process document).result =
      (result.mapError ((Site.ofDocument document 0).placed 0)).map
        fun output => ⟨output, []⟩ := by
  rw [process_literal scanned]
  cases result with
  | error stop =>
      simp only [written, Recursion.expand_call_refused wellFormed decided]
      rfl
  | ok output =>
      simp only [written, Recursion.expand_call wellFormed decided whole]
      rfl

end Flourish
