/-
This file says what a row makes of its images. Main statement: images with white space between them
become a paragraph on one line, and it reads as the same images in order exactly if no letter of
their texts is cut off or replaced by the reader.
-/

import Flourish.Proofs.Image
import Flourish.Transform

namespace Flourish

namespace Transform

variable {text alternative source others : Text} {letter : Letter}

/-- What is read at the front of a text is an image that is written there. -/
theorem eq_markdown_of_imageAt? (found : imageAt? text = some (alternative, source, others)) :
    text = Image.markdown ⟨alternative, source⟩ ++ others := by
  unfold imageAt? at found
  split at found
  · next rest =>
      have front := Text.run_append_drop (· ≠ .of ']') rest
      dsimp only at found
      split at found
      · next after behind =>
          have back := Text.run_append_drop
            (fun letter => letter ≠ .of ')' && !Text.isBlank letter) after
          split at found
          · cases found
          · next closed _ =>
              cases found
              rw [Image.markdown_append, ← closed, back, ← behind, front]
          · cases found
      · cases found
  · cases found

theorem imageAt?_markdown {image : Image} (plain : image.Plain) (rest : Text) :
    imageAt? (image.markdown ++ rest) = some (image.alternative, image.source, rest) := by
  obtain ⟨alternative, source⟩ := image
  have text : (alternative ++ .of ']' :: .of '(' :: (source ++ .of ')' :: rest)).takeWhile
      (· ≠ .of ']') = alternative :=
    Text.run_eq (fun letter member => decide_eq_true fun same => plain.unclosed (same ▸ member)) rfl
  have address : (source ++ .of ')' :: rest).takeWhile
      (fun letter => letter ≠ .of ')' && !Text.isBlank letter) = source :=
    Text.run_eq (fun letter member => by simp [plain.whole letter member]) rfl
  rw [Image.markdown_append, imageAt?]
  simp only [text, List.drop_left, address]
  obtain ⟨first, others, rfl⟩ := List.exists_cons_of_ne_nil plain.sourced
  rfl

/-- An image in a row becomes an element. -/
theorem withElements_markdown {image : Image} (plain : image.Plain) (rest : Text) :
    withElements (image.markdown ++ rest) =
      Html.written "img" image.attributes ++ withElements rest := by
  have element : imageElement image.alternative image.source =
      Html.written "img" image.attributes := by
    simp [imageElement, wording, Html.written, Html.writtenAttributes, Image.attributes]
  have found := imageAt?_markdown plain rest
  obtain ⟨others, split⟩ : ∃ others, image.markdown = .of '!' :: others := ⟨_, rfl⟩
  rw [split, List.cons_append] at found ⊢
  rw [withElements]
  simp [found, element]

theorem withElements_space (rest : Text) :
    withElements (.of ' ' :: rest) = .of ' ' :: withElements rest := by
  rw [withElements]
  rfl

/-- A row only puts the letters of elements into its text. -/
theorem mem_of_mem_withElements (member : letter ∈ withElements text) :
    letter ∈ text ∨ letter ∈ imageElement [] [] := by
  fun_induction withElements text with
  | case1 => cases member
  | case2 first rest alternative source others found inductionHypothesis =>
      have whole := eq_markdown_of_imageAt? found
      rcases List.mem_append.mp member with here | later
      · rw [whole]
        simp only [imageElement, Image.markdown, Renderer.Shields.image, wording,
          List.flatten_cons, List.mem_append] at here ⊢
        grind
      · exact (inductionHypothesis later).imp_left fun among =>
          List.mem_cons_of_mem _ (List.mem_of_mem_drop among)
  | case3 first rest _ inductionHypothesis =>
      rcases List.mem_cons.mp member with rfl | later
      · exact Or.inl List.mem_cons_self
      · exact (inductionHypothesis later).imp_left (List.mem_cons_of_mem _)

/-- A row is on one line: its only white space is spaces. -/
theorem eq_space_of_mem_row {align html : Text} (drawn : row text align = .ok html)
    (member : letter ∈ html) (blank : Text.isBlank letter) : letter = ' ' := by
  have elements : (imageElement [] []).filter Text.isBlank = [.of ' ', .of ' '] := by decide
  have paragraph : ∀ align ∈ alignments,
      (wording ["<p align=\"", align, "\">", "</p>"]).filter Text.isBlank = [.of ' '] := by decide
  rw [row] at drawn
  split at drawn
  · next aligned =>
      cases drawn
      have parts : letter ∈ wording ["<p align=\"", align, "\">", "</p>"] ∨
          letter ∈ withElements (Text.trim (Text.collapseBlanks text)) := by
        simp only [wording, List.flatten_cons, List.mem_append] at member ⊢
        grind
      rcases parts with around | within
      · have space := List.mem_filter.mpr ⟨around, blank⟩
        rw [paragraph align (List.contains_iff_mem.mp aligned)] at space
        exact List.mem_singleton.mp space
      · rcases mem_of_mem_withElements within with kept | drawn
        · exact Text.eq_space_of_mem_collapseBlanks (Text.mem_of_mem_trim kept) blank
        · have spaces := List.mem_filter.mpr ⟨drawn, blank⟩
          rw [elements] at spaces
          simpa using spaces
  · cases drawn

open Image

variable {align : Text} {items : List (Text × Image)} {back : Text}

/-- Images with at most a space before each become elements with the same spaces. -/
theorem withElements_spread (plain : ∀ item ∈ items, item.2.Plain) (spaced : Spaced items) :
    withElements (spread items) = elements items := by
  induction items with
  | nil =>
      show withElements [] = []
      rw [withElements]
  | cons item others inductionHypothesis =>
      have later := inductionHypothesis (fun item among => plain item (.tail _ among)) spaced.tail
      have element := withElements_markdown (plain item List.mem_cons_self)
      rw [spread_cons, elements_cons]
      rcases spaced item List.mem_cons_self with bare | space
      · rw [bare, List.nil_append, List.nil_append, element, later]
      · rw [space, List.singleton_append, List.singleton_append, withElements_space,
          element, later]

/-- Images with white space around them become a paragraph of their elements. -/
theorem row_spread (aligned : align ∈ alignments) (scattered : Scattered items back) :
    row (spread items ++ back) align = .ok (Html.written "p" [("align", align)] ++
      (elements (laidOut items) ++ Html.writtenClosing "p")) := by
  have content := withElements_spread ((forall_mem_laidOut Image.Plain items).mpr scattered.plain)
    (spaced_laidOut items)
  rw [row, if_pos (List.contains_iff_mem.mpr aligned), scattered.trim_collapseBlanks_spread]
  simp only [content]
  simp [wording, Html.written, Html.writtenAttributes, Html.writtenClosing]

/-- Every reader keeps the name of an alignment. -/
theorem keeps_of_mem_alignments (aligned : align ∈ alignments) (resolver : Html.Resolver) :
    resolver.Keeps align := by
  have bare : ∀ align ∈ alignments, ∀ letter ∈ align,
      letter ≠ '"' ∧ letter ≠ '&' ∧ letter ≠ '\x00' := by
    simp [alignments]
  exact resolver.keeps_of_bare (bare align aligned)

/-- A row of images with white space around them is a paragraph on one line. It reads as the same
images with at most single spaces between them exactly if no text of an image has a quote in it and
the reader replaces no letter of one. -/
theorem row_keepsImages (aligned : align ∈ alignments) (scattered : Scattered items back)
    (resolver : Html.Resolver) :
    ∃ html, row (spread items ++ back) align = .ok html ∧
      (∀ letter ∈ html, Text.isBlank letter → letter = ' ') ∧
      (Html.read resolver html =
          some [.element "p" [("align", align)] (nodes (laidOut items))] ↔
        ∀ item ∈ items, item.2.Kept resolver) := by
  have drawn := row_spread aligned scattered
  refine ⟨_, drawn, fun letter => eq_space_of_mem_row drawn, ?_⟩
  rw [read_paragraph_iff (spaced_laidOut items), forall_mem_laidOut (Kept · resolver)]
  exact and_iff_right (keeps_of_mem_alignments aligned resolver)

theorem row_keepsImages_badges :
    let items : List (Text × Image) :=
      [([], ⟨"<C> ![x(", "a(b?c=d&logo=e"⟩), ("\n\t", ⟨"Visual Basic", "v.svg"⟩),
        ([], ⟨[], "y.svg"⟩)]
    ("right" : Text) ∈ alignments ∧ Scattered items "\u2003" ∧
      ∃ html, row (spread items ++ "\u2003") "right" = .ok html ∧
        (∀ letter ∈ html, Text.isBlank letter → letter = ' ') ∧
        Html.read .verbatim html = some [.element "p" [("align", "right")]
          [.element "img" [("alt", "<C> ![x("), ("src", "a(b?c=d&logo=e")] [], .text " ",
            .element "img" [("alt", "Visual Basic"), ("src", "v.svg")] [],
            .element "img" [("alt", []), ("src", "y.svg")] []]] := by
  intro items
  have plain : ∀ item ∈ items, item.2.Plain := by
    simp only [items, List.forall_mem_cons]
    exact ⟨⟨by decide, ⟨["<C>", "![x("], rfl, by simp [Text.isBlank]⟩, by decide,
        by simp [Text.isBlank]⟩,
      ⟨by decide, ⟨["Visual", "Basic"], rfl, by simp [Text.isBlank]⟩, by decide,
        by simp [Text.isBlank]⟩,
      ⟨by decide, ⟨[], rfl, nofun⟩, by decide, by simp [Text.isBlank]⟩, nofun⟩
  have scattered : Scattered items "\u2003" :=
    ⟨plain, by simp [items, Text.isBlank], by simp [Text.isBlank]⟩
  have aligned : ("right" : Text) ∈ alignments := by decide
  obtain ⟨html, drawn, line, reads⟩ := row_keepsImages aligned scattered .verbatim
  exact ⟨aligned, scattered, html, drawn, line, reads.mpr (by decide)⟩

/-- A quote ends the alternative text of an image early. -/
theorem row_not_keepsImages :
    let image : Image := ⟨"say \"hi\"", "x.svg"⟩
    image.Plain ∧ ∃ html, row image.markdown "center" = .ok html ∧
      Html.read .verbatim html = some [.element "p" [("align", "center")]
        [.element "img" [("alt", "say "), ("hi\"\"", []), ("src", "x.svg")] []]] ∧
      Html.read .verbatim html ≠ some [.element "p" [("align", "center")] [image.node]] := by
  intro image
  have reads : Html.read .verbatim
      "<p align=\"center\"><img alt=\"say \"hi\"\" src=\"x.svg\"></p>" =
        some [.element "p" [("align", "center")]
          [.element "img" [("alt", "say "), ("hi\"\"", []), ("src", "x.svg")] []]] := by
    with_unfolding_all rfl
  refine ⟨⟨by decide, ⟨["say", "\"hi\""], rfl, by simp [Text.isBlank]⟩, by decide,
    by simp [image, Text.isBlank]⟩, _, by with_unfolding_all rfl, reads, ?_⟩
  rw [reads]
  intro same
  simp [image, Image.node, Image.attributes] at same

end Transform

end Flourish
