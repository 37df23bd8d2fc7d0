/-
This file says which colors backends are handed. Main statement: if the palette of a registry file
is written in hexadecimal digits, whatever is drawn in any session has colors of six such digits.
-/

import Flourish.Proofs.Expansion.Drawn
import Flourish.Proofs.Registry.Shape
import Flourish.Proofs.Session
import Flourish.Registry.Standard

namespace Flourish

open Palette (IsColor)

namespace Registry

variable {path : Text} {document : List (Text × Document)} {partials : Table Text}
  {registry : Registry}

/-- The palette of a registry is that of its document in upper case. -/
theorem palette_of_ofMapping
    (loaded : Load.ofMapping path document partials = .ok registry) :
    ∃ colors, Load.plainEntries (Load.field document "palette") = .ok colors ∧
      registry.palette = colors.map fun color => (color.1, Text.uppercase color.2) := by
  suffices Ends (fun registry : Registry => ∃ colors,
      Load.plainEntries (Load.field document "palette") = .ok colors ∧
        registry.palette = colors.map fun color => (color.1, Text.uppercase color.2))
      (fun _ => True) (Load.ofMapping path document partials) by
    rw [loaded] at this
    exact this.holds
  unfold Load.ofMapping
  refine (Ends.self _).bind fun styles _ => (Ends.self _).bind fun frames _ =>
    (Ends.self _).bind fun badges _ => (Ends.self _).bind fun separators _ =>
    (Ends.self _).bind fun components _ => (Ends.self _).bind fun colors read =>
    (Ends.self _).bind fun shields _ => (Ends.self _).bind fun known _ => ?_
  dsimp only
  split
  · exact .error trivial
  · exact .ok ⟨colors, read, rfl⟩

/-- The colors in the palette of a document are written in six hexadecimal digits. -/
def PaletteInHex (document : List (Text × Document)) : Prop :=
  ∀ colors, Load.field document "palette" = .mapping colors →
    ∀ entry ∈ colors, Palette.isHex entry.2.plain

theorem isColor_of_ofMapping (hex : PaletteInHex document)
    (loaded : Load.ofMapping path document partials = .ok registry) :
    ∀ entry ∈ registry.palette, IsColor entry.2 := by
  obtain ⟨colors, read, palette⟩ := palette_of_ofMapping loaded
  rw [palette]
  intro entry member
  obtain ⟨color, among, rfl⟩ := List.mem_map.mp member
  obtain ⟨found, given, rfl⟩ := exists_of_map_ok read
  obtain ⟨written, within, rfl⟩ := List.mem_map.mp among
  have digits := (Load.forall_mapping_iff (fun colors => ∀ entry ∈ colors,
    Palette.isHex entry.2.plain) given fun entry member => nomatch member).mp hex
  obtain ⟨length, digits⟩ := Palette.isHex_iff.mp (digits written within)
  show IsColor (Text.uppercase written.2.plain)
  rw [Palette.uppercase_digits digits]
  exact Palette.isColor_toUpper length digits

theorem Standard.isColor_palette : ∀ entry ∈ Standard.palette, IsColor entry.2 := by
  decide

end Registry

/-- What a palette gives after a session is a color of six digits, unless it was built in. -/
theorem Palette.Records.isColor_or_mem {palette : Palette} {builtin : Table Text}
    {requests : List Request} {color : Text} (records : palette.Records builtin requests)
    (gives : palette.Gives color) : IsColor color ∨ ∃ entry ∈ builtin, entry.2 = color := by
  obtain ⟨name, found⟩ := gives
  rw [Palette.lookup?_eq_some_iff, records.builtin] at found
  rcases found with extended | ⟨_, first | ⟨_, writes⟩⟩
  · exact Or.inl (records.colors _ (Table.mem_of_find? extended))
  · exact Or.inr ⟨_, Table.mem_of_find? first, rfl⟩
  · exact Or.inl writes.isColor

namespace Processor

variable {path : Text} {document : List (Text × Document)} {partials : Table Text}
  {registry : Registry} {primitive : Primitive} {color : Text}

/-- Whatever is drawn after a session has colors of six digits or those of the registry. -/
theorem isColor_or_mem_of_drawn (registry : Registry) (settings : Settings) (renderer : Renderer)
    (context : Context) (requests : List Request) (source : Text)
    (drawn : .rendered primitive ∈
      (((make registry settings renderer context).afterAll requests).process source).events)
    (among : color ∈ primitive.colors) :
    IsColor color ∨ ∃ entry ∈ registry.palette, entry.2 = color :=
  (records_afterAll registry settings renderer context requests).isColor_or_mem
    (coloredBy_of_process drawn color among)

theorem isColor_of_palette (builtin : ∀ entry ∈ registry.palette, IsColor entry.2)
    (settings : Settings) (renderer : Renderer) (context : Context) (requests : List Request)
    (source : Text) (drawn : .rendered primitive ∈
      (((make registry settings renderer context).afterAll requests).process source).events)
    (among : color ∈ primitive.colors) : IsColor color := by
  rcases isColor_or_mem_of_drawn registry settings renderer context requests source drawn among with
    written | ⟨entry, member, rfl⟩
  · exact written
  · exact builtin entry member

/-- If the palette of a registry file is written in hexadecimal digits, whatever is drawn after a
session has colors of six upper case digits. -/
theorem isColor_of_drawn
    (loaded : Registry.ofFile path (.document (.mapping document)) partials = .ok registry)
    (hex : Registry.PaletteInHex document) (settings : Settings) (renderer : Renderer)
    (context : Context) (requests : List Request) (source : Text)
    (drawn : .rendered primitive ∈
      (((make registry settings renderer context).afterAll requests).process source).events) :
    ∀ color ∈ primitive.colors, IsColor color := by
  intro color among
  have builtin := Registry.isColor_of_ofMapping hex loaded
  exact isColor_of_palette builtin settings renderer context requests source drawn among

/-- Whatever is drawn with the registry that comes with the library has colors of six upper case
digits. -/
theorem isColor_of_drawn_standard (settings : Settings) (renderer : Renderer) (context : Context)
    (requests : List Request) (source : Text)
    (drawn : .rendered primitive ∈ (((make (Registry.standard partials) settings renderer
      context).afterAll requests).process source).events) (among : color ∈ primitive.colors) :
    IsColor color :=
  isColor_of_palette Registry.Standard.isColor_palette settings renderer context requests source
    drawn among

/-- A registry document with one color. -/
def accentDocument (value : Text) : List (Text × Document) :=
  [("palette", .mapping [("accent", .text value)])]

def accentRegistry (color : Text) : Registry where
  styles := []
  frames := []
  badges := []
  separators := []
  components := []
  partials := []
  palette := [("accent", color)]
  shieldStyles := []
  defaultShieldStyle := "flat-square"

theorem ofFile_accentDocument (value : Text) :
    Registry.ofFile "registry.yaml" (.document (.mapping (accentDocument value))) [] =
      .ok (accentRegistry (Text.uppercase value)) :=
  rfl

/-- A processor that draws nothing and knows one color. -/
def accenting (color : Text) : Processor :=
  make (accentRegistry color) Settings.standard (fun _ => .ok (.markdown [])) Context.block

/-- A document with one block of the color. -/
def accentBlock : Text :=
  selfClosingForm "shields:block:color=accent"

theorem process_accentBlock (color : Text) : .rendered (.swatch color "flat-square" none) ∈
    ((accenting color).process accentBlock).events := by
  have stepped (run : Run) : Machine.step (accenting color) (Machine.ofDocument accentBlock 0 run) =
      .next ⟨(Job.ofDocument accentBlock 0).advanced [] [] 31, [],
        (run.log (.dispatched "shields:block" 0)).log
          (.rendered (.swatch color "flat-square" none))⟩ := by
    with_unfolding_all rfl
  exact rendered_of_step (by with_unfolding_all rfl) (by with_unfolding_all rfl) stepped

/-- The document is accepted although the value in its palette is written with a number sign, and
the backend is handed this value. -/
theorem drawn_number_sign :
    Registry.ofFile "registry.yaml" (.document (.mapping (accentDocument "#f41c80"))) [] =
        .ok (accentRegistry "#F41C80") ∧
      .rendered (.swatch "#F41C80" "flat-square" none) ∈
        ((accenting "#F41C80").process accentBlock).events ∧
      ¬ IsColor "#F41C80" :=
  ⟨ofFile_accentDocument "#f41c80", process_accentBlock "#F41C80", by decide⟩

theorem drawn_hex :
    Registry.ofFile "registry.yaml" (.document (.mapping (accentDocument "f41c80"))) [] =
        .ok (accentRegistry "F41C80") ∧
      .rendered (.swatch "F41C80" "flat-square" none) ∈
        ((accenting "F41C80").process accentBlock).events ∧
      IsColor "F41C80" := by
  have hex : Registry.PaletteInHex (accentDocument "f41c80") := by
    intro colors given
    cases given
    decide
  have drawn := process_accentBlock "F41C80"
  exact ⟨ofFile_accentDocument "f41c80", drawn, isColor_of_drawn (ofFile_accentDocument "f41c80")
    hex Settings.standard _ Context.block [] accentBlock drawn _ List.mem_cons_self⟩

end Processor
end Flourish
