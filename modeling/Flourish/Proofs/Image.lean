/-
This file says how images between white space are written and read. Main statements: collapsing and
trimming white space leaves at most one space between two images, and elements of images read as the
images exactly if a reader keeps their texts.
-/

import Flourish.Proofs.Html.Written
import Flourish.Proofs.Registry.Separator
import Flourish.Proofs.Text.Collapsed
import Flourish.Renderer.Shields

namespace Flourish

/-- An image by its alternative text and its address. -/
structure Image where
  alternative : Text
  source : Text
  deriving DecidableEq, Repr

namespace Image

/-- The image as a backend writes it. -/
def markdown (image : Image) : Text :=
  Renderer.Shields.image image.alternative image.source

def attributes (image : Image) : Table Text :=
  [("alt", image.alternative), ("src", image.source)]

def node (image : Image) : Html.Node :=
  .element "img" image.attributes []

/-- An image that markdown can show in a line: nothing in it ends its text or its address early. -/
structure Plain (image : Image) : Prop where
  unclosed : .of ']' ∉ image.alternative
  spaced : Text.SingleSpaced image.alternative
  sourced : image.source ≠ []
  whole : ∀ letter ∈ image.source, letter ≠ ')' ∧ Text.isBlank letter = false

variable {image : Image} {rest : Text}

theorem markdown_append (image : Image) (rest : Text) : image.markdown ++ rest =
    .of '!' :: .of '[' ::
      (image.alternative ++ .of ']' :: .of '(' :: (image.source ++ .of ')' :: rest)) := by
  simp [markdown, Renderer.Shields.image, wording]

theorem Plain.collapseBlanks_markdown (plain : image.Plain) (rest : Text) :
    Text.collapseBlanks (image.markdown ++ rest) = image.markdown ++ Text.collapseBlanks rest := by
  rw [markdown_append, markdown_append, Text.collapseBlanks_cons rfl, Text.collapseBlanks_cons rfl,
    plain.spaced.collapseBlanks_append rfl, Text.collapseBlanks_cons rfl,
    Text.collapseBlanks_append fun letter member => (plain.whole letter member).2,
    Text.collapseBlanks_cons rfl]

/-- Images that markdown can show, with white space before each and behind the last. -/
structure Scattered (items : List (Text × Image)) (back : Text) : Prop where
  plain : ∀ item ∈ items, item.2.Plain
  blank : ∀ item ∈ items, ∀ letter ∈ item.1, Text.isBlank letter
  last : ∀ letter ∈ back, Text.isBlank letter

/-- At most a space stands before each image. -/
def Spaced (items : List (Text × Image)) : Prop :=
  ∀ item ∈ items, item.1 = [] ∨ item.1 = [.of ' ']

/-- Images in markdown, each behind the letters before it. -/
def spread (items : List (Text × Image)) : Text :=
  items.flatMap fun item => item.1 ++ item.2.markdown

/-- Images with one space for the white space between two of them. -/
def laidOut : List (Text × Image) → List (Text × Image)
  | [] => []
  | (_, image) :: others => ([], image) :: others.map fun item => (Text.spaceFor item.1, item.2)

/-- Images as elements, each behind the letters before it. -/
def elements (items : List (Text × Image)) : Text :=
  items.flatMap fun item => item.1 ++ Html.written "img" item.2.attributes

/-- Images as nodes, each behind a text with the letters before it. -/
def nodes (items : List (Text × Image)) : List Html.Node :=
  items.flatMap fun item =>
    (if item.1.isEmpty then [] else [Html.Node.text item.1]) ++ [item.2.node]

variable {items : List (Text × Image)} {back : Text}

theorem spread_cons (item : Text × Image) (others : List (Text × Image)) :
    spread (item :: others) = item.1 ++ (item.2.markdown ++ spread others) := by
  rw [spread, List.flatMap_cons, List.append_assoc, spread]

theorem elements_cons (item : Text × Image) (others : List (Text × Image)) :
    elements (item :: others) =
      item.1 ++ (Html.written "img" item.2.attributes ++ elements others) := by
  rw [elements, List.flatMap_cons, List.append_assoc, elements]

/-- Images end with a visible letter. -/
theorem getLast?_markdown_spread (image : Image) (items : List (Text × Image)) :
    (image.markdown ++ spread items).getLast? = some (.of ')') := by
  induction items generalizing image with
  | nil =>
      have ends : image.markdown ++ spread [] =
          .of '!' :: .of '[' :: (image.alternative ++ .of ']' :: .of '(' :: image.source) ++
            [.of ')'] := by
        simp [spread, markdown, Renderer.Shields.image, wording]
      rw [ends, List.getLast?_concat]
  | cons item others inductionHypothesis =>
      rw [spread_cons, List.getLast?_append, List.getLast?_append, inductionHypothesis item.2,
        Option.some_or, Option.some_or]

theorem Scattered.tail {item : Text × Image} (scattered : Scattered (item :: items) back) :
    Scattered items back where
  plain := fun item among => scattered.plain item (.tail _ among)
  blank := fun item among => scattered.blank item (.tail _ among)
  last := scattered.last

theorem Spaced.tail {item : Text × Image} (spaced : Spaced (item :: items)) : Spaced items :=
  fun item among => spaced item (.tail _ among)

/-- White space between images is collapsed. -/
theorem Scattered.collapseBlanks_spread (scattered : Scattered items back) :
    Text.collapseBlanks (spread items ++ back) =
      spread (items.map fun item => (Text.spaceFor item.1, item.2)) ++ Text.spaceFor back := by
  induction items with
  | nil =>
      have ended : Text.collapseBlanks (back ++ []) = Text.spaceFor back ++ Text.collapseBlanks [] :=
        Text.collapseBlanks_gap scattered.last nofun
      rwa [List.append_nil, Text.collapseBlanks, List.append_nil] at ended
  | cons item others inductionHypothesis =>
      have later := inductionHypothesis scattered.tail
      have starts : ∀ letter ∈ (item.2.markdown ++ (spread others ++ back)).head?,
          Text.isBlank letter = false := by
        rintro _ ⟨⟩
        rfl
      rw [List.map_cons, spread_cons, spread_cons, List.append_assoc, List.append_assoc,
        Text.collapseBlanks_gap (scattered.blank item List.mem_cons_self) starts,
        (scattered.plain item List.mem_cons_self).collapseBlanks_markdown, later]
      simp only [List.append_assoc]

/-- White space around images is dropped. -/
theorem Scattered.trim_collapseBlanks_spread (scattered : Scattered items back) :
    Text.trim (Text.collapseBlanks (spread items ++ back)) = spread (laidOut items) := by
  rw [scattered.collapseBlanks_spread]
  cases items with
  | nil =>
      have padded : Text.trim ([] ++ [] ++ Text.spaceFor back) = Text.trim [] :=
        Text.trim_padded (List.forall_mem_nil _) (fun _ => Text.isBlank_of_mem_spaceFor) []
      exact padded
  | cons item others =>
      rw [List.map_cons, spread_cons,
        Text.trim_padded (fun _ => Text.isBlank_of_mem_spaceFor)
          (fun _ => Text.isBlank_of_mem_spaceFor),
        Text.trim_of_ends, laidOut, spread_cons, List.nil_append]
      · rintro _ ⟨⟩
        rfl
      · rw [getLast?_markdown_spread]
        rintro _ ⟨⟩
        rfl

theorem spaced_laidOut (items : List (Text × Image)) : Spaced (laidOut items) := by
  intro item member
  cases items with
  | nil => cases member
  | cons first others =>
      rcases List.mem_cons.mp member with rfl | later
      · exact Or.inl rfl
      · obtain ⟨item, _, rfl⟩ := List.mem_map.mp later
        show Text.spaceFor item.1 = [] ∨ Text.spaceFor item.1 = [.of ' ']
        unfold Text.spaceFor
        split
        · exact Or.inl rfl
        · exact Or.inr rfl

/-- Laying images out keeps each of them. -/
theorem forall_mem_laidOut (property : Image → Prop) (items : List (Text × Image)) :
    (∀ item ∈ laidOut items, property item.2) ↔ ∀ item ∈ items, property item.2 := by
  have images : (laidOut items).map Prod.snd = items.map Prod.snd := by
    cases items with
    | nil => rfl
    | cons item others => simp [laidOut]
  have mapped (items : List (Text × Image)) :
      (∀ item ∈ items, property item.2) ↔ ∀ image ∈ items.map Prod.snd, property image :=
    List.forall_mem_map.symm
  rw [mapped, images, ← mapped]

theorem nodes_cons (item : Text × Image) (others : List (Text × Image)) :
    nodes (item :: others) =
      (if item.1.isEmpty then [] else [Html.Node.text item.1]) ++ item.2.node :: nodes others := by
  rw [nodes, List.flatMap_cons, List.append_assoc, List.singleton_append, nodes]

/-- The letters before an image and its tag come before the tokens of the other images. -/
theorem flatMap_tokens_nodes_cons (item : Text × Image) (others : List (Text × Image)) :
    (nodes (item :: others)).flatMap Html.Node.tokens =
      item.1.map Html.Token.letter ++
        .opening "img" item.2.attributes :: (nodes others).flatMap Html.Node.tokens := by
  have tag : item.2.node.tokens = [.opening "img" item.2.attributes] := by
    rw [node, Html.Node.tokens, if_pos (by decide)]
  have letters : (if item.1.isEmpty then [] else [Html.Node.text item.1]).flatMap Html.Node.tokens =
      item.1.map Html.Token.letter := by
    split
    · next none => rw [List.isEmpty_iff.mp none, List.flatMap_nil, List.map_nil]
    · rw [List.flatMap_singleton, Html.Node.tokens]
  rw [nodes_cons, List.flatMap_append, letters, List.flatMap_cons, tag, List.singleton_append]

/-- A reader takes the texts of an image as they are. -/
def Kept (image : Image) (resolver : Html.Resolver) : Prop :=
  resolver.Keeps image.alternative ∧ resolver.Keeps image.source

instance (image : Image) (resolver : Html.Resolver) : Decidable (image.Kept resolver) :=
  inferInstanceAs (Decidable (_ ∧ _))

variable {resolver : Html.Resolver}

/-- The element of an image reads as the image exactly if its texts are kept. -/
theorem tokens?_image_iff (image : Image) (rest : Text) (later : List Html.Token) :
    Html.tokens? resolver (Html.written "img" image.attributes ++ rest) =
        some (.opening "img" image.attributes :: later) ↔
      image.Kept resolver ∧ Html.tokens? resolver rest = some later := by
  have named : ∀ name ∈ image.attributes.names, Html.IsName name := by
    show ∀ name ∈ (["alt", "src"] : List Text), Html.IsName name
    decide
  have distinct : image.attributes.names.Nodup := by
    show (["alt", "src"] : List Text).Nodup
    decide
  rw [Html.tokens?_written_iff (by decide) named distinct, attributes, List.forall_mem_cons,
    List.forall_mem_singleton, Kept]

theorem tokens?_elements_iff (spaced : Spaced items)
    (rest : Text) (later : List Html.Token) :
    Html.tokens? resolver (elements items ++ rest) =
        some ((nodes items).flatMap Html.Node.tokens ++ later) ↔
      (∀ item ∈ items, item.2.Kept resolver) ∧ Html.tokens? resolver rest = some later := by
  induction items with
  | nil => simp [elements, nodes]
  | cons item others inductionHypothesis =>
      have others_iff := inductionHypothesis spaced.tail
      rw [List.forall_mem_cons, and_assoc, ← others_iff, ← tokens?_image_iff, elements_cons,
        flatMap_tokens_nodes_cons]
      simp only [List.append_assoc, List.cons_append]
      rcases spaced item List.mem_cons_self with bare | space
      · rw [bare, List.map_nil, List.nil_append, List.nil_append]
      · rw [space]
        exact Html.tokens?_letter_iff (by decide) _

/-- Nodes of images go behind others that do not end with a text. -/
theorem steps_nodes (spaced : Spaced items)
    (opened : List Html.Opened) (before : List Html.Node)
    (apart : ∀ content earlier, before ≠ .text content :: earlier) :
    ((nodes items).flatMap Html.Node.tokens).foldlM Html.Outline.step ⟨opened, before⟩ =
      some ⟨opened, (nodes items).reverse ++ before⟩ := by
  induction items generalizing before with
  | nil => rfl
  | cons item others inductionHypothesis =>
      have image (before : List Html.Node) :
          (Html.Token.opening "img" item.2.attributes ::
            (nodes others).flatMap Html.Node.tokens).foldlM Html.Outline.step ⟨opened, before⟩ =
              some ⟨opened, (nodes others).reverse ++ item.2.node :: before⟩ := by
        rw [List.foldlM_cons]
        exact inductionHypothesis spaced.tail _ nofun
      rw [flatMap_tokens_nodes_cons, nodes_cons, List.reverse_append, List.reverse_cons]
      rcases spaced item List.mem_cons_self with bare | space
      · rw [bare, List.map_nil, List.nil_append, image]
        simp
      · -- the node before the space is no text, so the space is a text of its own
        have letter : Html.withLetter ' ' before = .text [.of ' '] :: before := by
          unfold Html.withLetter
          split
          · next content earlier => exact absurd rfl (apart content earlier)
          · rfl
        rw [space, List.map_singleton, List.singleton_append, List.foldlM_cons]
        show List.foldlM Html.Outline.step ⟨opened, Html.withLetter ' ' before⟩ _ = _
        rw [letter, image]
        simp

theorem tokens_paragraph (attributes : Table Text) (children : List Html.Node) :
    [Html.Node.element "p" attributes children].flatMap Html.Node.tokens =
      .opening "p" attributes :: (children.flatMap Html.Node.tokens ++ [.closing "p"]) := by
  rw [List.flatMap_singleton, Html.Node.tokens, if_neg (by decide)]

/-- A paragraph of images can be read. -/
theorem nodes?_paragraph (spaced : Spaced items)
    (attributes : Table Text) :
    Html.nodes? ([Html.Node.element "p" attributes (nodes items)].flatMap Html.Node.tokens) =
      some [.element "p" attributes (nodes items)] := by
  let paragraph : Html.Opened := ⟨"p", attributes, [], by decide⟩
  have opened : Html.Outline.step ⟨[], []⟩ (.opening "p" attributes) = some ⟨[paragraph], []⟩ := rfl
  have inside := steps_nodes spaced [paragraph] [] nofun
  have closed (children : List Html.Node) :
      Html.Outline.step ⟨[paragraph], children⟩ (.closing "p") =
        some ⟨[], [.element "p" attributes children.reverse]⟩ := rfl
  rw [Html.nodes?, tokens_paragraph, List.foldlM_cons, opened, Option.bind_eq_bind,
    Option.bind_some, List.foldlM_append, inside, Option.bind_eq_bind, Option.bind_some,
    List.append_nil, List.foldlM_cons, closed, List.reverse_reverse]
  rfl

/-- A paragraph of images reads as the images exactly if its alignment and their texts are kept. -/
theorem read_paragraph_iff (spaced : Spaced items) (align : Text) :
    Html.read resolver (Html.written "p" [("align", align)] ++
        (elements items ++ Html.writtenClosing "p")) =
          some [.element "p" [("align", align)] (nodes items)] ↔
      resolver.Keeps align ∧ ∀ item ∈ items, item.2.Kept resolver := by
  have named : ∀ name ∈ Table.names [(("align" : Text), align)], Html.IsName name := by
    show ∀ name ∈ (["align"] : List Text), Html.IsName name
    decide
  have nothing : Html.tokens? resolver [] = some [] := by rw [Html.tokens?]
  rw [Html.read_eq_some_iff (nodes?_paragraph spaced _), tokens_paragraph,
    Html.tokens?_written_iff (by decide) named (List.pairwise_singleton _ _),
    tokens?_elements_iff spaced, List.forall_mem_singleton,
    ← List.append_nil (Html.writtenClosing "p"), Html.tokens?_closing_iff (by decide)]
  exact ⟨fun read => ⟨read.1, read.2.1⟩, fun kept => ⟨kept.1, kept.2, nothing⟩⟩

end Image

end Flourish
