/-
This file decides tags that are written with a plain head, a content and a closer. Main statements:
such a tag ends behind its closer, and what becomes of a style, a frame or a component is known.
-/

import Flourish.Expansion.Dispatch
import Flourish.Proofs.Component
import Flourish.Proofs.Tag.Form

namespace Flourish

namespace Tag

/-- The head of a plain tag that stands at a position. -/
def opened (space : Option TagKind) (name : Text) (position : Nat) : Opening :=
  ⟨plain space name, position, position + (openForm (plain space name).displayName).length⟩

/-- A plain tag around its content. -/
def element (space : Option TagKind) (name content : Text) : Text :=
  openForm (plain space name).displayName ++
    (content ++ closerForm (plain space name).closerName)

/-- What comes after the first two braces of a plain tag. -/
def elementTail (space : Option TagKind) (name content rest : Text) : Text :=
  (plain space name).displayName ++
    .of '}' :: .of '}' :: (content ++ (closerForm (plain space name).closerName ++ rest))

def elementExtent (space : Option TagKind) (name content : Text) : Extent :=
  ⟨(plain space name).displayName.length + 2,
    some (content.length, (closerForm (plain space name).closerName).length)⟩

variable {space : Option TagKind} {name content rest : Text} {position : Nat}

theorem element_append (space : Option TagKind) (name content rest : Text) :
    element space name content ++ rest =
      .of '{' :: .of '{' :: elementTail space name content rest := by
  simp [element, elementTail, openForm]

theorem elementTail_drop (space : Option TagKind) (name content rest : Text) :
    (elementTail space name content rest).drop ((plain space name).displayName.length + 2) =
      content ++ (closerForm (plain space name).closerName ++ rest) := by
  rw [elementTail, ← List.drop_drop, List.drop_left]
  rfl

theorem contentIn_element (space : Option TagKind) (name content rest : Text) :
    (elementExtent space name content).contentIn (elementTail space name content rest) =
      content := by
  simp only [Extent.contentIn, elementExtent, elementTail_drop, Extent.contentSize,
    Option.map_some, Option.getD_some, List.take_left]

theorem drop_element (space : Option TagKind) (name content rest : Text) :
    (elementTail space name content rest).drop (elementExtent space name content).size = rest := by
  simp only [Extent.size, elementExtent, Extent.contentSize, Extent.closerSize, Option.map_some,
    Option.getD_some]
  rw [Nat.add_assoc, ← List.drop_drop, elementTail_drop, ← List.drop_drop, List.drop_left,
    List.drop_left]

theorem size_element (space : Option TagKind) (name content : Text) :
    (elementExtent space name content).size + 2 = (element space name content).length := by
  simp only [Extent.size, elementExtent, Extent.contentSize, Extent.closerSize, Option.map_some,
    Option.getD_some, element, openForm, List.length_append, List.length_cons, List.length_nil]
  omega

/-- The head of a plain tag is read where the tag is written. -/
theorem read_element (isName : IsName name)
    (reserved : ∀ kind ∈ space, TagKind.reserved? kind.name = some kind) (position : Nat)
    (content rest : Text) :
    Token.read position (.of '{' :: .of '{' :: elementTail space name content rest) =
      .ok (some (.opening (opened space name position))) := by
  rw [← element_append, element, List.append_assoc]
  exact Token.read_openForm isName reserved position _

/-- A plain tag whose closer is found behind its content ends behind the closer. -/
theorem extent_element
    (found : Closer.find (plain space name).closerPolicy (opened space name position)
      (content ++ (closerForm (plain space name).closerName ++ rest)) =
        .ok (Closer.named (plain space name).closerName
          ((opened space name position).headStop + content.length))) :
    Dispatch.extent (opened space name position) (elementTail space name content rest) =
      .ok (elementExtent space name content) := by
  have head : (opened space name position).headStop - (opened space name position).start - 2 =
      (plain space name).displayName.length + 2 := by
    simp only [opened, openForm, List.length_append, List.length_cons, List.length_nil]
    omega
  simp only [Dispatch.extent, head, elementTail_drop]
  rw [show (opened space name position).tag = plain space name from rfl, found]
  simp only [show (plain space name).selfClosing = false from rfl, Closer.named, elementExtent,
    Closer.length_closerForm, Bool.false_eq_true, if_false, Except.ok.injEq, Extent.mk.injEq,
    Option.some.injEq, Prod.mk.injEq, true_and]
  omega

end Tag

namespace Dispatch

open Tag (opened elementTail elementExtent)

variable {processor : Processor} {name content rest : Text} {position : Nat}

/-- A style tag becomes the glyphs of its content. -/
theorem style_element {entry : Entry StyleBody}
    (resolved : Registry.resolveIn processor.registry.styles name processor.context =
      .ok (some entry))
    (sized : Dispatch.extent (opened none name position) (elementTail none name content rest) =
      .ok (elementExtent none name content)) :
    (decide processor (opened none name position) (elementTail none name content rest)).outcome =
      match Conversion.convert entry.body content with
      | .error defect => .error (.defect defect)
      | .ok glyphs => .ok (elementExtent none name content, .write glyphs) := by
  have bare : spread processor [] = .ok .plain := rfl
  show (style processor (opened none name position)
    (elementTail none name content rest)).outcome = _
  simp only [style, show (opened none name position).tag = Tag.plain none name from rfl, Tag.plain,
    resolved, List.isEmpty_nil, Bool.not_true, Bool.false_eq_true, if_false, bare, sized,
    Tag.contentIn_element, Conversion.spread]
  cases Conversion.convert entry.body content <;> rfl

/-- A frame tag puts its content into the frame. -/
theorem frame_element {entry : Entry FrameBody}
    (resolved : Registry.require .frame processor.registry.frames name processor.context =
      .ok entry)
    (sized : Dispatch.extent (opened (some .frame) name position)
      (elementTail (some .frame) name content rest) =
        .ok (elementExtent (some .frame) name content)) :
    (decide processor (opened (some .frame) name position)
      (elementTail (some .frame) name content rest)).outcome =
        .ok (elementExtent (some .frame) name content,
          .expandContent (.surround entry.body.before entry.body.after)) := by
  show (frame processor (opened (some .frame) name position)
    (elementTail (some .frame) name content rest)).outcome = _
  simp only [frame, show (opened (some .frame) name position).tag = Tag.plain (some .frame) name
    from rfl, Tag.plain, resolved, Bool.false_eq_true, if_false, sized]
  rfl

/-- The tag of a component that puts letters around its content becomes the content between
them. -/
theorem component_element {entry : Entry ComponentBody} {around : Text × Text}
    (resolved : Registry.require .component processor.registry.components name
      processor.context = .ok entry)
    (wraps : entry.body.Wraps around)
    (sized : Dispatch.extent (opened (some .ui) name position)
      (elementTail (some .ui) name content rest) =
        .ok (elementExtent (some .ui) name content)) :
    ∃ starts, (decide processor (opened (some .ui) name position)
      (elementTail (some .ui) name content rest)).outcome =
        .ok (elementExtent (some .ui) name content,
          .expandTemplate (around.1 ++ (content ++ around.2)) starts .keep) := by
  obtain ⟨parameters, starts, expanded⟩ := Component.expandEntry_wraps wraps processor.registry
    processor.palette (Tag.plain (some .ui) name) rfl rfl content
  have component_ : Component.resolve processor.registry (Tag.plain (some .ui) name)
      processor.context = .ok entry := by
    simp only [Component.resolve, Tag.plain, resolved, wraps.opens, if_true]
  refine ⟨starts, ?_⟩
  show (component processor (opened (some .ui) name position)
    (elementTail (some .ui) name content rest)).outcome = _
  simp only [component, show (opened (some .ui) name position).tag = Tag.plain (some .ui) name
    from rfl, component_, sized, Tag.contentIn_element, expanded]
  rfl

end Dispatch
end Flourish
