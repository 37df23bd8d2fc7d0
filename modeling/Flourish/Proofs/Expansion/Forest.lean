/-
This file holds documents as trees of tags and what they mean. Main statements: a search for a
closer passes a whole tree, and a tag of a tree ends where its own closer is written.
-/

import Flourish.Expansion.Dispatch
import Flourish.Proofs.Tag.Form

namespace Flourish

/-- A row of trees: letters, style tags around letters, and component and frame tags around rows
of their own. -/
inductive Forest where
  | nil
  | text (letters : Text) (rest : Forest)
  | style (name letters : Text) (rest : Forest)
  | component (name : Text) (children rest : Forest)
  | frame (name : Text) (children rest : Forest)
  deriving DecidableEq, Repr

/-- What names mean: the glyphs of a style, what a component puts before and after its content, and
what a frame does. -/
structure Meaning where
  style : Text → StyleBody
  component : Text → Text × Text
  frame : Text → FrameBody

namespace Forest

/-- A row of trees as it is written. -/
def render : Forest → Text
  | .nil => []
  | .text letters rest => letters ++ rest.render
  | .style name letters rest =>
      openForm name ++ (letters ++ (closerForm name ++ rest.render))
  | .component name children rest =>
      openForm (TagKind.ui.name ++ .of ':' :: name) ++
        (children.render ++ (closerForm TagKind.ui.name ++ rest.render))
  | .frame name children rest =>
      openForm (TagKind.frame.name ++ .of ':' :: name) ++
        (children.render ++ (closerForm TagKind.frame.name ++ rest.render))

/-- The text that a row of trees stands for. -/
def eval (meaning : Meaning) : Forest → Except Defect Text
  | .nil => .ok []
  | .text letters rest => do
      let others ← rest.eval meaning
      pure (letters ++ others)
  | .style name letters rest => do
      let glyphs ← Conversion.convert (meaning.style name) letters
      let others ← rest.eval meaning
      pure (glyphs ++ others)
  | .component name children rest => do
      let content ← children.eval meaning
      let others ← rest.eval meaning
      pure ((meaning.component name).1 ++ content ++ (meaning.component name).2 ++ others)
  | .frame name children rest => do
      let content ← children.eval meaning
      let others ← rest.eval meaning
      pure ((meaning.frame name).before ++ content ++ (meaning.frame name).after ++ others)

/-- How deep component and frame tags are nested. -/
def height : Forest → Nat
  | .nil => 0
  | .text _ rest | .style _ _ rest => rest.height
  | .component _ children rest | .frame _ children rest => max (children.height + 1) rest.height

/-- The number of component tags. -/
def components : Forest → Nat
  | .nil => 0
  | .text _ rest | .style _ _ rest => rest.components
  | .component _ children rest => children.components + 1 + rest.components
  | .frame _ children rest => children.components + rest.components

def Frameless : Forest → Prop
  | .nil => True
  | .text _ rest | .style _ _ rest => rest.Frameless
  | .component _ children rest => children.Frameless ∧ rest.Frameless
  | .frame _ _ _ => False

/-- Letters hold no brace that opens, tags have names that a head may bear, no style has the name
of a namespace, and no frame stands within a frame. -/
def WellFormed : Forest → Prop
  | .nil => True
  | .text letters rest => .of '{' ∉ letters ∧ rest.WellFormed
  | .style name letters rest =>
      Tag.IsName name ∧ TagKind.reserved? name = none ∧ .of '{' ∉ letters ∧ rest.WellFormed
  | .component name children rest => Tag.IsName name ∧ children.WellFormed ∧ rest.WellFormed
  | .frame name children rest =>
      Tag.IsName name ∧ children.Frameless ∧ children.WellFormed ∧ rest.WellFormed

variable {forest : Forest} {name rest : Text}

theorem frame_ne_of_reserved (unreserved : TagKind.reserved? name = none) :
    name ≠ TagKind.frame.name := by
  rintro rfl
  exact absurd unreserved (by decide)

/-- A search for a frame's closer passes a row of trees without frames. -/
theorem passes_render (wellFormed : forest.WellFormed) (frameless : forest.Frameless) :
    Closer.Passes TagKind.frame.name forest.render := by
  induction forest with
  | nil => exact .nil _
  | text letters others inductionHypothesis =>
      exact (Closer.Passes.of_letters wellFormed.1).append
        (inductionHypothesis wellFormed.2 frameless)
  | style name letters others inductionHypothesis =>
      obtain ⟨isName, unreserved, letterOnly, wellFormed⟩ := wellFormed
      have head : Closer.Passes TagKind.frame.name (openForm name) := by
        simpa using Closer.Passes.openForm isName List.not_mem_nil
      exact head.append ((Closer.Passes.of_letters letterOnly).append
        ((Closer.Passes.closerForm (Tag.isName_kind .frame) isName
          (frame_ne_of_reserved unreserved)).append (inductionHypothesis wellFormed frameless)))
  | component name children others first second =>
      obtain ⟨isName, inner, outer⟩ := wellFormed
      have head : Closer.Passes TagKind.frame.name (openForm (TagKind.ui.name ++ .of ':' :: name)) :=
        Closer.Passes.openForm (Tag.isName_kind .ui)
          (by simpa using Tag.not_mem_of_isNameLetter isName.2 rfl)
      exact head.append ((first inner frameless.1).append
        ((Closer.Passes.closerForm (Tag.isName_kind .frame) (Tag.isName_kind .ui)
          (by decide)).append (second outer frameless.2)))
  | frame name children others => exact absurd frameless id

theorem bare_displayName (name : Text) : (Tag.plain none name).displayName = name := rfl

theorem bare_closerName (name : Text) : (Tag.plain none name).closerName = name := rfl

theorem kind_displayName (kind : TagKind) (name : Text) :
    (Tag.plain (some kind) name).displayName = kind.name ++ .of ':' :: name := rfl

theorem kind_closerName (kind : TagKind) (name : Text) :
    (Tag.plain (some kind) name).closerName = kind.name := rfl

theorem ui_reserved : ∀ kind ∈ some TagKind.ui, TagKind.reserved? kind.name = some kind := by
  decide

theorem frame_reserved : ∀ kind ∈ some TagKind.frame, TagKind.reserved? kind.name = some kind := by
  decide

theorem none_reserved : ∀ kind ∈ (none : Option TagKind), TagKind.reserved? kind.name = some kind :=
  fun _ member => nomatch member

/-- A search for a component's closer passes a row of trees. -/
theorem findGenericFrom_render (wellFormed : forest.WellFormed) {outer : Nat} (inner : List Nat)
    (position : Nat) (rest : Text) :
    Closer.findGenericFrom TagKind.ui.name outer inner position (forest.render ++ rest) =
      Closer.findGenericFrom TagKind.ui.name outer inner (position + forest.render.length)
        rest := by
  induction forest generalizing inner position rest with
  | nil => rfl
  | text letters others inductionHypothesis =>
      rw [render, List.append_assoc, Closer.findGenericFrom_letters wellFormed.1,
        inductionHypothesis wellFormed.2, List.length_append, Nat.add_assoc]
  | style name letters others inductionHypothesis =>
      obtain ⟨isName, _, letterOnly, wellFormed⟩ := wellFormed
      simp only [render, List.append_assoc]
      refine (Closer.findGenericFrom_specific isName none_reserved rfl
        (Closer.Passes.of_letters letterOnly)).trans
          ((inductionHypothesis wellFormed _ _ _).trans ?_)
      congr 1
      simp only [List.length_append, bare_displayName, bare_closerName]
      omega
  | component name children others first second =>
      obtain ⟨isName, content, wellFormed⟩ := wellFormed
      simp only [render, List.append_assoc]
      refine (Closer.findGenericFrom_opening isName ui_reserved rfl rfl).trans
        ((first content _ _ _).trans ((Closer.findGenericFrom_closer (Tag.isName_kind .ui) _).trans
          ((second wellFormed _ _ _).trans ?_)))
      congr 1
      simp only [List.length_append, kind_displayName]
      omega
  | frame name children others first second =>
      obtain ⟨isName, frameless, content, wellFormed⟩ := wellFormed
      simp only [render, List.append_assoc]
      refine (Closer.findGenericFrom_specific isName frame_reserved rfl
        (passes_render content frameless)).trans ((second wellFormed _ _ _).trans ?_)
      congr 1
      simp only [List.length_append, kind_displayName, kind_closerName]
      omega

end Forest
end Flourish
