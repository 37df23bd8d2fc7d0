/-
This file says when backends fail. Main statement: a backend draws a primitive exactly if all texts
whose octets it needs have some.
-/

import Flourish.Proofs.Table
import Flourish.Proofs.Text.Utf8
import Flourish.Renderer.Backend

namespace Flourish

/-- The backend draws the primitive. -/
def Renderer.Draws (renderer : Renderer) (primitive : Primitive) : Prop :=
  ∃ asset, renderer primitive = .ok asset

namespace Renderer

/-- The texts of a primitive that are escaped in the address of its image. -/
def Shields.addressed : Primitive → List Text
  | .swatch _ _ label => label.toList
  | .tech name _ _ _ => [name]
  | _ => []

/-- The texts of a primitive that are written in its image file. -/
def Svg.written : Primitive → List Text
  | .swatch color _ label => color :: label.toList
  | .tech name background logo _ => [background, name, logo]
  | primitive => primitive.colors

end Renderer

namespace Renderer.Shields

theorem exists_draw_iff {primitive : Primitive} :
    (∃ text, draw primitive = .ok text) ↔ ∀ text ∈ addressed primitive, text.Whole := by
  cases primitive with
  | swatch color style label =>
      rw [draw, exists_map_ok_iff]
      cases label with
      | none => simp [swatchAddress, addressed]
      | some label =>
          cases label with
          | nil => simp [swatchAddress, addressed]
          | cons letter rest =>
              rw [swatchAddress, exists_map_ok_iff, Text.exists_percentEncoded_iff]
              · simp only [addressed, Option.toList_some, List.forall_mem_singleton]
              · exact List.cons_ne_nil letter rest
  | tech name background logo style =>
      rw [draw, exists_map_ok_iff, Text.exists_percentEncoded_iff]
      simp only [addressed, List.forall_mem_singleton]
  | _ => simp [draw, addressed]

end Renderer.Shields

namespace Renderer.Svg

variable {color text : Text} {primitive : Primitive}

theorem whole_rectangles {width index : Nat} {colors : List Text} :
    (rectangles width index colors).Whole ↔ ∀ color ∈ colors, color.Whole := by
  induction colors generalizing index with
  | nil => simp [rectangles]
  | cons color rest inductionHypothesis =>
      simp only [rectangles, Text.whole_append, Text.whole_wording_cons, Text.whole_wording_nil,
        Text.whole_map_of, Text.whole_ofNat, inductionHypothesis, List.forall_mem_cons, true_and,
        and_true]

theorem whole_escapedLetter (letter : Letter) :
    (escapedLetter letter).Whole ↔ letter.isHalf = false := by
  unfold escapedLetter
  split <;> simp [Letter.isHalf]

theorem whole_caption : (caption text color).Whole ↔ text.Whole ∧ color.Whole := by
  have escaped : Text.Whole (text.flatMap escapedLetter) ↔ text.Whole := by
    simp only [Text.whole_flatMap, whole_escapedLetter]
    exact Iff.rfl
  simp only [caption, Text.whole_wording_cons, Text.whole_wording_nil, Text.whole_map_of, escaped,
    true_and, and_true]
  exact and_comm

theorem whole_color (level : Text) : (Status.color level).Whole := by
  have all : ∀ entry ∈ Status.colors, entry.2.Whole := by decide
  unfold Status.color
  cases found : Status.colors.find? level with
  | none => decide
  | some color => exact all _ (Table.mem_of_find? found)

theorem whole_image : (image primitive).Whole ↔ ∀ text ∈ written primitive, text.Whole := by
  have around : (image primitive).Whole ↔ (body primitive).1.Whole := by
    simp only [image, Text.whole_wording_cons, Text.whole_wording_nil, Text.whole_map_of,
      Text.whole_ofNat, true_and, and_true]
  rw [around]
  cases primitive with
  | swatch color style label =>
      cases label with
      | none => simp [body, written, whole_rectangles]
      | some label =>
          cases label with
          | nil => simp [body, written, whole_rectangles]
          | cons letter rest =>
              simp only [body, written, Text.whole_append, whole_rectangles, whole_caption,
                Text.whole_map_of, and_true, Option.toList_some, List.mem_cons, List.not_mem_nil,
                or_false, forall_eq_or_imp, forall_eq]
  | tech name background logo style =>
      simp [body, written, whole_rectangles, whole_caption]
  | status level style =>
      simp [body, written, whole_rectangles, whole_color, Primitive.colors]
  | divider colors style => exact whole_rectangles
  | twoTone left right style => exact whole_rectangles

theorem exists_draw_iff {folder : Text} :
    (∃ asset, draw folder primitive = .ok asset) ↔ ∀ text ∈ written primitive, text.Whole := by
  rw [draw, exists_map_ok_iff, Text.exists_encoded_iff, whole_image]

end Renderer.Svg

namespace Backend

/-- The texts whose octets a backend needs. -/
def encodes : Backend → Primitive → List Text
  | .plaintext, _ => []
  | .shields, primitive => Renderer.Shields.addressed primitive
  | .svg, primitive => Renderer.Svg.written primitive

variable {backend : Backend} {folder : Text} {primitive : Primitive} {asset : Asset}

theorem renderer_eq_ok :
    backend.renderer folder primitive = .ok asset ↔ backend.draw folder primitive = .ok asset := by
  unfold renderer
  cases backend.draw folder primitive with
  | ok drawn => constructor <;> intro same <;> cases same <;> rfl
  | error fault => constructor <;> intro impossible <;> cases impossible

/-- A backend may break down, but it refuses nothing. -/
theorem renderer_ne_refused (failure : Failure) :
    backend.renderer folder primitive ≠ .error (.refused failure) := by
  unfold renderer
  cases backend.draw folder primitive with
  | ok drawn => intro impossible; cases impossible
  | error fault => intro impossible; cases impossible

/-- A backend draws a primitive exactly if all texts whose octets it needs are whole. -/
theorem draws_iff (backend : Backend) (folder : Text) (primitive : Primitive) :
    (backend.renderer folder).Draws primitive ↔
      ∀ text ∈ backend.encodes primitive, text.Whole := by
  simp only [Renderer.Draws, renderer_eq_ok]
  cases backend with
  | plaintext => simp [draw, encodes]
  | shields => exact exists_map_ok_iff.trans Renderer.Shields.exists_draw_iff
  | svg => exact exists_map_ok_iff.trans Renderer.Svg.exists_draw_iff

/-- A backend that does not draw a primitive breaks down over its letters. -/
theorem broken_of_not_draws (undrawn : ¬ (backend.renderer folder).Draws primitive) :
    ∃ fault : Text.EncodingFault, backend.renderer folder primitive =
      .error (.broken "UnicodeEncodeError" fault.message) := by
  cases drawn : backend.draw folder primitive with
  | ok asset => exact absurd ⟨asset, renderer_eq_ok.mpr drawn⟩ undrawn
  | error fault => exact ⟨fault, by rw [renderer, drawn]; rfl⟩

/-- A file that a backend hands back is an image of the primitive. -/
theorem exists_data_of_draws {asset : FileAsset}
    (drawn : backend.renderer folder primitive = .ok (.file asset)) :
    ∃ data, Renderer.Svg.file folder primitive data = asset := by
  rw [renderer_eq_ok] at drawn
  cases backend with
  | plaintext => cases drawn
  | shields =>
      obtain ⟨text, _, other⟩ := exists_of_map_ok drawn
      cases other
  | svg =>
      obtain ⟨file, image, same⟩ := exists_of_map_ok drawn
      cases same
      obtain ⟨data, _, same⟩ := exists_of_map_ok image
      exact ⟨data, same⟩

end Backend
end Flourish
