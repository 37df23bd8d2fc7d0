/-
This file says where the assets of a run are written. Main statement: each asset is written to a
path in the folder of the assets that ends in the name of an image, and the manifest beside them.
-/

import Flourish.Proofs.Command.Stage
import Flourish.Proofs.Expansion.Collected
import Flourish.Proofs.Renderer
import Flourish.Proofs.Text.Fields

namespace Flourish

namespace Text

/-- No letter stands at the ends of a text from which it is stripped. -/
theorem head?_stripLetter (letter : Letter) (text : Text) :
    (stripLetter letter text).head? ≠ some letter := by
  intro starts
  have front : stripLetter letter text <+: text.dropWhile (· = letter) := by
    rw [stripLetter, ← List.reverse_suffix, List.reverse_reverse]
    exact List.dropWhile_suffix _
  obtain ⟨rest, whole⟩ := front
  have head : (text.dropWhile (· = letter)).head? = some letter := by
    rw [← whole, List.head?_append, starts, Option.some_or]
  have fails := List.head?_dropWhile_not (fun other => decide (other = letter)) text
  rw [head] at fails
  simp at fails

theorem slash_not_mem_hexadecimal (width value : Nat) : .of '/' ∉ hexadecimal width value := by
  induction width generalizing value with
  | zero => exact List.not_mem_nil
  | succ width inductionHypothesis =>
      rw [hexadecimal, List.mem_append, List.mem_singleton, not_or]
      refine ⟨inductionHypothesis _, ?_⟩
      have small : value % 16 < 16 := Nat.mod_lt _ (by omega)
      generalize value % 16 = digit at small
      revert digit
      decide

end Text

theorem Digest.slash_not_mem_sha256Text (message : Text.Octets) : .of '/' ∉ sha256Text message := by
  simp only [sha256Text, List.mem_flatMap, not_exists, not_and]
  exact fun octet _ => Text.slash_not_mem_hexadecimal 2 octet.toNat

namespace Path

/-- A name: no separator is in it, and it stands for no folder on the way. -/
structure IsName (name : Text) : Prop where
  plain : .of '/' ∉ name
  nonempty : name ≠ []
  other : name ≠ [.of '.'] ∧ name ≠ above

theorem parts_ofText_slash (folder : Text) {name : Text} (isName : IsName name) :
    (ofText (folder ++ .of '/' :: name)).parts = (ofText folder).parts ++ [name] := by
  simp only [ofText, Text.fields_append, Text.fields_of_not_mem isName.plain, List.filter_append]
  congr 1
  simp [isName.nonempty, isName.other.1]

end Path
namespace Primitive

/-- The kinds that there are. -/
def kinds : List Text :=
  ["swatch", "divider", "tech", "status", "twotone"]

theorem kind_mem (primitive : Primitive) : primitive.kind ∈ kinds := by
  cases primitive with
  | swatch => exact .head _
  | divider => exact .tail _ (.head _)
  | tech => exact .tail _ (.tail _ (.head _))
  | status => exact .tail _ (.tail _ (.tail _ (.head _)))
  | twoTone => exact .tail _ (.tail _ (.tail _ (.tail _ (.head _))))

end Primitive

namespace Renderer.Svg

/-- The name of an image file. -/
def imageName (primitive : Primitive) (data : Text.Octets) : Text :=
  wording [primitive.kind, "_", (Digest.sha256Text data).take 12, ".svg"]

theorem path_file (assetsFolder : Text) (primitive : Primitive) (data : Text.Octets) :
    (file assetsFolder primitive data).path =
      folder assetsFolder ++ .of '/' :: imageName primitive data := by
  simp only [file, imageName, wording, List.flatten_cons]
  rfl

variable {primitive : Primitive} {data : Text.Octets}

/-- The name of an image begins with that of the kind of its primitive. -/
theorem imageName_ne {name : Text} (other : ∀ kind ∈ Primitive.kinds, ¬ kind <+: name) :
    imageName primitive data ≠ name := by
  rintro rfl
  exact other primitive.kind primitive.kind_mem ⟨_, rfl⟩

theorem isName_imageName : Path.IsName (imageName primitive data) := by
  have digest := Digest.slash_not_mem_sha256Text data
  refine ⟨?_, imageName_ne (by decide), imageName_ne (by decide), imageName_ne (by decide)⟩
  intro member
  simp only [imageName, wording, List.flatten_cons, List.flatten_nil, List.mem_append] at member
  obtain kind | line | hash | suffix | last := member
  · have plain : ∀ kind ∈ Primitive.kinds, .of '/' ∉ kind := by decide
    exact plain primitive.kind primitive.kind_mem kind
  · revert line
    decide
  · exact digest (List.mem_of_mem_take hash)
  · revert suffix
    decide
  · cases last

end Renderer.Svg

namespace Command

variable {read : Project.Reader} {request : Request} {settings : Settings} {tree : FileTree}
  {processor : Processor}

/-- The way from the output folder to the folder of the assets. -/
def assetsParts (settings : Settings) : List Text :=
  (Path.ofText (Text.stripLetter '/' settings.assetsFolder)).parts

theorem parts_folder (assetsFolder : Text) :
    (Path.ofText (Renderer.Svg.folder assetsFolder)).parts =
      (Path.ofText (Text.stripLetter '/' assetsFolder)).parts := by
  unfold Renderer.Svg.folder
  split
  · next empty =>
    rw [empty]
    rfl
  · rfl

theorem head?_folder (assetsFolder rest : Text) :
    (Renderer.Svg.folder assetsFolder ++ rest).head? ≠ some (.of '/') := by
  unfold Renderer.Svg.folder
  split
  · simp
  · next nonempty =>
    have head := Text.head?_stripLetter '/' assetsFolder
    cases same : Text.stripLetter '/' assetsFolder with
    | nil => exact absurd same nonempty
    | cons letter others => simpa [same] using head

/-- The path of a name in the folder of the assets. -/
theorem ofText_asset (settings : Settings) {name : Text} (isName : Path.IsName name) :
    Path.ofText (Renderer.Svg.folder settings.assetsFolder ++ .of '/' :: name) =
      ⟨false, assetsParts settings ++ [name]⟩ := by
  have parts := Path.parts_ofText_slash (Renderer.Svg.folder settings.assetsFolder) isName
  rw [parts_folder] at parts
  exact Path.ext (decide_eq_false (head?_folder _ _)) parts

theorem manifestPath_eq (request : Request) (settings : Settings) :
    manifestPath request settings =
      request.output.append ⟨false, assetsParts settings ++ [Manifest.fileName]⟩ := by
  have relative : (Path.ofText (Text.stripLetter '/' settings.assetsFolder)).absolute = false :=
    decide_eq_false (Text.head?_stripLetter _ _)
  rw [manifestPath, show Path.ofText Manifest.fileName = ⟨false, [Manifest.fileName]⟩ from rfl]
  simp only [Path.append, relative, Bool.false_eq_true, if_false, assetsParts, List.append_assoc]

variable {paths : List Path} {expanded : List Expanded} {asset other : FileAsset} {file : NewFile}

/-- An asset lies in the folder of the assets under the name of an image. -/
def Named (settings : Settings) (asset : FileAsset) (name : Text) : Prop :=
  name ≠ Manifest.fileName ∧ name ≠ Path.above ∧
    asset.path = Renderer.Svg.folder settings.assetsFolder ++ .of '/' :: name ∧
    Path.ofText asset.path = ⟨false, assetsParts settings ++ [name]⟩

theorem exists_named_of_drawn {primitive : Primitive}
    (backend : ∃ backend : Backend, processor.renderer = backend.renderer settings.assetsFolder)
    (drawn : processor.renderer primitive = .ok (.file asset)) :
    ∃ name, Named settings asset name := by
  obtain ⟨backend, renders⟩ := backend
  rw [renders] at drawn
  obtain ⟨data, rfl⟩ := Backend.exists_data_of_draws drawn
  have isName := @Renderer.Svg.isName_imageName primitive data
  refine ⟨_, Renderer.Svg.imageName_ne (by decide), isName.other.2, Renderer.Svg.path_file .., ?_⟩
  rw [Renderer.Svg.path_file]
  exact ofText_asset settings isName

/-- An asset is added to others if its path is new, as in the run over one document. -/
theorem merged_singleton (known : List FileAsset) (asset : FileAsset) :
    (if known.any fun other => other.path = asset.path then known else known ++ [asset]) =
      FileAsset.merged known [asset] := by
  have collected := congrArg Run.assets (Run.collect_file ⟨known, 0, []⟩ asset)
  simp only [Run.collect] at collected
  rw [← collected]
  split <;> rfl

theorem foldl_merged (known assets : List FileAsset) :
    assets.foldl (fun known asset =>
        if known.any fun other => other.path = asset.path then known else known ++ [asset]) known =
      FileAsset.merged known (FileAsset.distinct assets) := by
  induction assets generalizing known with
  | nil => rw [List.foldl_nil, FileAsset.distinct, FileAsset.merged_nil]
  | cons asset rest inductionHypothesis =>
      have cons : FileAsset.distinct (asset :: rest) =
          FileAsset.merged [asset] (FileAsset.distinct rest) := FileAsset.distinct_append [asset] rest
      rw [List.foldl_cons, merged_singleton, inductionHypothesis, FileAsset.merged_assoc, cons]

/-- The assets of all sources, one source after another. -/
def collected (expanded : List Expanded) : List FileAsset :=
  expanded.flatMap fun source => source.output.assets

/-- The assets of a run are those of its sources, the first one of each path. -/
theorem distinctAssets_eq (expanded : List Expanded) :
    distinctAssets expanded = FileAsset.distinct (collected expanded) := by
  rw [distinctAssets, foldl_merged, FileAsset.nil_merged, collected]

/-- The first asset of each path is kept. -/
theorem mem_distinct_iff {assets : List FileAsset} :
    asset ∈ FileAsset.distinct assets ↔
      assets.find? (fun other => other.path = asset.path) = some asset := by
  induction assets with
  | nil => simp [FileAsset.distinct]
  | cons first rest inductionHypothesis =>
      rw [FileAsset.distinct, List.mem_cons, List.mem_filter, inductionHypothesis, List.find?_cons]
      by_cases same : first.path = asset.path
      · simp [same, eq_comm]
      · have apart : asset ≠ first := fun equal => same (congrArg FileAsset.path equal).symm
        simp [same, apart, Ne.symm same]

theorem nodup_distinct (assets : List FileAsset) :
    (FileAsset.paths (FileAsset.distinct assets)).Nodup := by
  induction assets with
  | nil => exact List.nodup_nil
  | cons asset rest inductionHypothesis =>
      have others := FileAsset.mem_paths_filter (FileAsset.distinct rest) asset.path
        fun path => decide (path ≠ asset.path)
      rw [FileAsset.distinct, FileAsset.paths, List.map_cons, List.nodup_cons, ← FileAsset.paths,
        others]
      refine ⟨by simp, inductionHypothesis.sublist (List.filter_sublist.map _)⟩

theorem distinct_eq_nil {assets : List FileAsset} :
    FileAsset.distinct assets = [] ↔ assets = [] := by
  cases assets <;> simp [FileAsset.distinct]

/-- Each file of a run is the text of a source, an asset or the manifest. -/
theorem mem_newFiles :
    file ∈ newFiles request settings expanded ↔
      (∃ source ∈ expanded, ⟨request.output.append source.relative,
        Text.encoded source.output.text, .trace⟩ = file) ∨
      (∃ asset ∈ FileAsset.distinct (collected expanded),
        ⟨request.output.append (Path.ofText asset.path), .ok asset.data, .trace⟩ = file) ∨
      collected expanded ≠ [] ∧ ⟨manifestPath request settings,
        Text.encoded (Manifest.ofAssets (FileAsset.distinct (collected expanded))), .debug⟩ =
          file := by
  simp only [newFiles, distinctAssets_eq, List.mem_append, List.mem_map, or_assoc, List.isEmpty_iff,
    distinct_eq_nil]
  split
  · next empty => simp only [List.not_mem_nil, empty, ne_eq, not_true, false_and]
  · next nonempty =>
    simp only [List.mem_singleton, nonempty, ne_eq, not_false_eq_true, true_and, eq_comm]

theorem mem_collected (member : asset ∈ FileAsset.distinct (collected expanded)) :
    asset ∈ collected expanded :=
  List.mem_of_find?_eq_some (mem_distinct_iff.mp member)

theorem exists_named (prepared : (ready read request settings tree).result = .ok processor)
    (alone : List.Forall₂ (Alone request processor tree) paths expanded)
    (member : asset ∈ collected expanded) : ∃ name, Named settings asset name := by
  obtain ⟨source, among, drawn⟩ := List.mem_flatMap.mp member
  obtain ⟨path, _, own⟩ := exists_path alone among
  obtain ⟨text, _, processed⟩ := own.output
  obtain ⟨primitive, drawn⟩ := Processor.exists_drawn_of_process processed drawn
  exact exists_named_of_drawn (exists_backend_of_ready prepared) drawn

/-- The folder of the assets leads to no folder above. -/
def PlainAssets (settings : Settings) : Prop :=
  Path.above ∉ assetsParts settings

instance (settings : Settings) : Decidable (PlainAssets settings) :=
  inferInstanceAs (Decidable (_ ∉ _))

theorem PlainAssets.above_not_mem (plain : PlainAssets settings) {name : Text}
    (other : name ≠ Path.above) : Path.above ∉ assetsParts settings ++ [name] := by
  rw [List.mem_append, List.mem_singleton, not_or]
  exact ⟨plain, other.symm⟩

end Command
end Flourish
