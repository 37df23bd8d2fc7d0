/-
This file says what a whole run of the command leaves. Main statement: a run whose configuration or
one of whose sources is refused changes no file; a run that succeeds writes for each source what
that source expands to on its own, each asset once, and a manifest of the assets if there are any.
-/

import Flourish.Proofs.Command.Assets
import Flourish.Proofs.Command.Writing
import Flourish.Proofs.Expansion.Step
import Flourish.Proofs.Expansion.Recursion
import Flourish.Proofs.Tag.Grammar
import Flourish.Settings.Read
import Mathlib.Data.List.Nodup

namespace Flourish.Command

variable {read : Project.Reader} {request : Request} {settings : Settings} {tree : FileTree}
  {processor : Processor} {sources : List Path} {expanded : List Expanded}

/-- What keeps a run from its end: the configuration is refused, or a source cannot be read or is
refused. All of it is read in the tree in which the output folder has been made. -/
inductive Refused (read : Project.Reader) (request : Request) (settings : Settings)
    (tree : FileTree) : Prop where
  | configuration {reason : Halt}
      (refused : (ready read request settings (tree.makeFolders request.output).tree).result =
        .error reason)
  | unreadable {sources : List Path} {path : Path} {reason : Halt}
      (found : (findSources request tree).result = .ok sources) (chosen : path ∈ sources)
      (refused : (sourceText (tree.makeFolders request.output).tree path).result = .error reason)
  | source {sources : List Path} {path : Path} {processor : Processor} {text : Text} {stop : Stop}
      (found : (findSources request tree).result = .ok sources) (chosen : path ∈ sources)
      (prepared : (ready read request settings (tree.makeFolders request.output).tree).result =
        .ok processor)
      (read : (sourceText (tree.makeFolders request.output).tree path).result = .ok text)
      (refused : (processor.process text).result = .error stop)

/-- The sources of a run of which something is refused are not expanded. -/
theorem Refused.unexpanded (refused : Refused read request settings tree)
    (found : (findSources request tree).result = .ok sources) (expanded : List Expanded) :
    (expand read request settings (tree.makeFolders request.output).tree sources).result ≠
      .ok expanded := by
  intro done
  obtain ⟨processor, prepared, alone⟩ := expand_eq_ok.mp done
  cases refused with
  | configuration refused =>
      rw [prepared] at refused
      cases refused
  | unreadable finding chosen refused =>
      rw [found] at finding
      cases finding
      obtain ⟨source, _, own⟩ := exists_of_forall₂ alone chosen
      obtain ⟨text, read, _⟩ := own.output
      rw [read] at refused
      cases refused
  | source finding chosen ready read refused =>
      rw [found] at finding
      rw [prepared] at ready
      cases finding
      cases ready
      obtain ⟨source, _, own⟩ := exists_of_forall₂ alone chosen
      obtain ⟨text, same, processed⟩ := own.output
      rw [read] at same
      cases same
      rw [processed] at refused
      cases refused

theorem status_of_halt {outcome : Outcome} {reason : Halt} (halt : outcome.halt = some reason) :
    outcome.status = 1 := by
  rw [Outcome.status, halt]
  rfl

theorem status_eq_zero {outcome : Outcome} : outcome.status = 0 ↔ outcome.halt = none := by
  cases halt : outcome.halt with
  | none => simp [Outcome.status, halt]
  | some reason => simp [status_of_halt halt]

/-- A run succeeds if and only if there are sources, the output folder can be made, every source
expands and every file can be written. -/
theorem status_run_eq_zero_iff :
    (run read request settings tree).status = 0 ↔ ∃ sources expanded,
      (findSources request tree).result = .ok sources ∧
      (tree.makeFolders request.output).fault = none ∧
      (expand read request settings (tree.makeFolders request.output).tree sources).result =
        .ok expanded ∧
      (writeFiles (tree.makeFolders request.output).tree
        (newFiles request settings expanded)).fault = none := by
  rw [status_eq_zero]
  constructor
  · intro ended
    cases run_ended read request settings tree with
    | unsourced finding halt same => exact absurd (halt.symm.trans ended) nofun
    | unexpanded finding halt made stopped => exact absurd (halt.symm.trans ended) nofun
    | written finding made expansion written halt =>
        exact ⟨_, _, finding, made, expansion, halt ended⟩
  · rintro ⟨sources, expanded, finding, made, expansion, written⟩
    simp only [run, finding, made, expansion, write, written]

/-- A run of which something is refused leaves all files as they are. -/
theorem gains_of_refused (refused : Refused read request settings tree) :
    (run read request settings tree).status = 1 ∧
      FileTree.Gains (tree.trail request.output) tree (run read request settings tree).tree := by
  cases run_ended read request settings tree with
  | unsourced finding halt same =>
      refine ⟨status_of_halt halt, ?_⟩
      rw [same]
      exact .same _ _
  | unexpanded finding halt made stopped =>
      refine ⟨status_of_halt halt, ?_⟩
      rw [made]
      exact tree.makeFolders_gains request.output
  | written finding made expansion written halt =>
      exact absurd expansion (refused.unexpanded finding _)

/-- The place at which the text of a source is written. -/
def target (request : Request) (tree : FileTree) (source : Expanded) : Place :=
  tree.place (request.output.append source.relative)

/-- The place at which an asset of a path is written. -/
def imagePlace (request : Request) (tree : FileTree) (path : Text) : Place :=
  tree.place (request.output.append (Path.ofText path))

/-- The place at which the manifest of a run is written. -/
def manifestPlace (request : Request) (settings : Settings) (tree : FileTree) : Place :=
  tree.place (manifestPath request settings)

/-- The places at which a run writes, one for each file that it writes. -/
def places (request : Request) (settings : Settings) (tree : FileTree)
    (expanded : List Expanded) : List Place :=
  (newFiles request settings expanded).map fun file => tree.place file.path

/-- What a run writes to different paths goes to different files. No two sources go to one file with
different texts, and none goes to the file of an asset or of the manifest. -/
structure Apart (request : Request) (settings : Settings) (tree : FileTree)
    (expanded : List Expanded) : Prop where
  texts : ∀ source ∈ expanded, ∀ other ∈ expanded,
    tree.Same (target request tree source) (target request tree other) →
      source.output.text = other.output.text
  images : ∀ source ∈ expanded, ∀ asset ∈ collected expanded,
    ¬ tree.Same (target request tree source) (imagePlace request tree asset.path)
  manifest : ∀ source ∈ expanded,
    ¬ tree.Same (target request tree source) (manifestPlace request settings tree)
  assets : ∀ asset ∈ collected expanded, ∀ other ∈ collected expanded,
    tree.Same (imagePlace request tree asset.path) (imagePlace request tree other.path) →
      asset.path = other.path
  listed : ∀ asset ∈ collected expanded,
    ¬ tree.Same (imagePlace request tree asset.path) (manifestPlace request settings tree)

/-- The file at a place holds a text, which can be written. -/
def HoldsText (tree : FileTree) (place : Place) (text : Text) : Prop :=
  text.Whole ∧ tree.contents? place = some text.toUtf8

instance (tree : FileTree) (place : Place) (text : Text) : Decidable (HoldsText tree place text) :=
  inferInstanceAs (Decidable (_ ∧ _))

/-- What a run writes: the text of each source, the first asset of each path, once, and the manifest
of these assets if there are any. -/
structure Written (request : Request) (settings : Settings) (expanded : List Expanded)
    (before after : FileTree) : Prop where
  texts : ∀ source ∈ expanded,
    HoldsText after (target request before source) source.output.text
  images : ∀ asset, (collected expanded).find? (fun other => other.path = asset.path) = some asset →
    after.contents? (imagePlace request before asset.path) = some asset.data ∧
      (places request settings before expanded).countP
        (fun place => before.Same place (imagePlace request before asset.path)) = 1
  manifest : collected expanded ≠ [] →
    HoldsText after (manifestPlace request settings before)
      (Manifest.ofAssets (FileAsset.distinct (collected expanded)))
  manifested : (∃ place ∈ places request settings before expanded,
    before.Same place (manifestPlace request settings before)) ↔ collected expanded ≠ []
  others : ∀ place, (∀ written ∈ places request settings before expanded,
    ¬ before.Same written place) → after.contents? place = before.contents? place

section Places

variable {base : FileTree} {source other : Expanded} {asset another : FileAsset}

/-- Two sources of one path below the input folder are the same. -/
theorem eq_of_relative_eq {first second : Path} (own : Alone request processor tree first source)
    (others : Alone request processor tree second other)
    (same : source.relative.parts = other.relative.parts) : source = other := by
  obtain ⟨_, path⟩ := relativeTo_eq_some own.relative
  obtain ⟨_, pathOther⟩ := relativeTo_eq_some others.relative
  have paths : first = second := by rw [path, pathOther, same]
  subst paths
  obtain ⟨text, read, processed⟩ := own.output
  obtain ⟨textOther, readOther, processedOther⟩ := others.output
  have sameRelative := own.relative.symm.trans others.relative
  have sameText := read.symm.trans readOther
  cases sameText
  have sameOutput := processed.symm.trans processedOther
  rcases source with ⟨relative, output⟩
  rcases other with ⟨relativeOther, outputOther⟩
  cases sameRelative
  cases sameOutput
  rfl

/-- Where no links are in the output folder and no path leads to a folder above, all that a run
writes is apart if the path of no source is that of an asset or of the manifest. -/
theorem Apart.of_plain (prepared : (ready read request settings tree).result = .ok processor)
    (alone : List.Forall₂ (Alone request processor tree) sources expanded)
    (unlinked : base.Unlinked (base.place request.output)) (plainAssets : PlainAssets settings)
    (plain : ∀ source ∈ expanded, Path.above ∉ source.relative.parts)
    (images : ∀ source ∈ expanded, ∀ asset ∈ collected expanded,
      source.relative ≠ Path.ofText asset.path)
    (manifest : ∀ source ∈ expanded,
      source.relative.parts ≠ assetsParts settings ++ [Manifest.fileName]) :
    Apart request settings base expanded := by
  have text {source : Expanded} (chosen : source ∈ expanded) :
      source.relative.absolute = false ∧
        target request base source = base.place request.output ++ source.relative.parts := by
    obtain ⟨_, _, own⟩ := exists_path alone chosen
    have relative := (relativeTo_eq_some own.relative).1
    exact ⟨relative, FileTree.place_append unlinked relative (plain source chosen)⟩
  have image {asset : FileAsset} (member : asset ∈ collected expanded) :
      ∃ name, Named settings asset name ∧ imagePlace request base asset.path =
        base.place request.output ++ (assetsParts settings ++ [name]) := by
    obtain ⟨name, named⟩ := exists_named prepared alone member
    refine ⟨name, named, ?_⟩
    rw [imagePlace, named.2.2.2]
    exact FileTree.place_append unlinked rfl (plainAssets.above_not_mem named.2.1)
  have list : manifestPlace request settings base =
      base.place request.output ++ (assetsParts settings ++ [Manifest.fileName]) := by
    rw [manifestPlace, manifestPath_eq]
    exact FileTree.place_append unlinked rfl (plainAssets.above_not_mem (by decide))
  -- In the output folder the same file is the same place, so the ways from there are the same.
  have ways {first second : List Text} (same : base.Same (base.place request.output ++ first)
      (base.place request.output ++ second)) : first = second :=
    List.append_cancel_left (unlinked.eq_of_same (List.prefix_append ..) same)
  refine ⟨fun source chosen other also same => ?_, fun source chosen asset member same => ?_,
    fun source chosen same => ?_, fun asset member other also same => ?_,
    fun asset member same => ?_⟩
  · rw [(text chosen).2, (text also).2] at same
    obtain ⟨_, _, own⟩ := exists_path alone chosen
    obtain ⟨_, _, others⟩ := exists_path alone also
    rw [eq_of_relative_eq own others (ways same)]
  · obtain ⟨name, named, stands⟩ := image member
    rw [(text chosen).2, stands] at same
    refine images source chosen asset member ?_
    rw [named.2.2.2]
    exact Path.ext (text chosen).1 (ways same)
  · rw [(text chosen).2, list] at same
    exact manifest source chosen (ways same)
  · obtain ⟨name, named, stands⟩ := image member
    obtain ⟨nameOther, namedOther, standsOther⟩ := image also
    rw [stands, standsOther] at same
    rw [named.2.2.1, namedOther.2.2.1,
      List.singleton_inj.mp (List.append_cancel_left (ways same))]
  · obtain ⟨name, named, stands⟩ := image member
    rw [stands, list] at same
    exact named.1 (List.singleton_inj.mp (List.append_cancel_left (ways same)))

variable (apart : Apart request settings base expanded)
include apart

theorem eq_of_imagePlace_same (member : asset ∈ FileAsset.distinct (collected expanded))
    (among : another ∈ FileAsset.distinct (collected expanded))
    (same : base.Same (imagePlace request base asset.path)
      (imagePlace request base another.path)) : asset = another := by
  have first := mem_distinct_iff.mp member
  have second := mem_distinct_iff.mp among
  rw [apart.assets asset (mem_collected member) another (mem_collected among) same, second] at first
  exact (Option.some.inj first).symm

/-- The file of an asset is written once. -/
theorem countP_imagePlace (member : asset ∈ FileAsset.distinct (collected expanded)) :
    (places request settings base expanded).countP
      (fun place => base.Same place (imagePlace request base asset.path)) = 1 := by
  have texts : (expanded.map (target request base)).countP
      (fun place => base.Same place (imagePlace request base asset.path)) = 0 := by
    rw [List.countP_eq_zero]
    intro place among
    obtain ⟨source, chosen, rfl⟩ := List.mem_map.mp among
    simpa using apart.images source chosen asset (mem_collected member)
  have images : ((FileAsset.distinct (collected expanded)).map fun asset =>
      imagePlace request base asset.path).countP
        (fun place => base.Same place (imagePlace request base asset.path)) = 1 := by
    rw [List.countP_map]
    have once : (FileAsset.distinct (collected expanded)).count asset = 1 :=
      List.count_eq_one_of_mem (List.Nodup.of_map _ (nodup_distinct _)) member
    rw [← once, List.count]
    refine List.countP_congr fun another among => ?_
    simp only [Function.comp_apply, decide_eq_true_eq, beq_iff_eq]
    exact ⟨eq_of_imagePlace_same apart among member, fun same => Or.inl (same ▸ rfl)⟩
  have manifest : [manifestPlace request settings base].countP
      (fun place => base.Same place (imagePlace request base asset.path)) = 0 := by
    rw [List.countP_eq_zero]
    intro place here same
    rw [List.mem_singleton.mp here] at same
    exact apart.listed asset (mem_collected member) (of_decide_eq_true same).symm
  have split : places request settings base expanded =
      expanded.map (target request base) ++
        ((FileAsset.distinct (collected expanded)).map fun asset =>
          imagePlace request base asset.path) ++
        if (FileAsset.distinct (collected expanded)).isEmpty then []
        else [manifestPlace request settings base] := by
    simp only [places, newFiles, distinctAssets_eq, List.map_append, List.map_map]
    split <;> rfl
  rw [split, List.countP_append, List.countP_append, texts, images]
  split
  · rfl
  · rw [manifest]

/-- If what is written is apart, then what is written to one file is the same. -/
theorem contents_eq_of_same {first second : NewFile}
    (member : first ∈ newFiles request settings expanded)
    (among : second ∈ newFiles request settings expanded)
    (same : base.Same (base.place second.path) (base.place first.path)) :
    second.contents = first.contents := by
  rw [mem_newFiles] at member among
  obtain ⟨source, chosen, rfl⟩ | ⟨asset, known, rfl⟩ | ⟨nonempty, rfl⟩ := member
  · obtain ⟨other, also, rfl⟩ | ⟨asset, known, rfl⟩ | ⟨_, rfl⟩ := among
    · exact congrArg Text.encoded (apart.texts other also source chosen same)
    · exact absurd same.symm (apart.images source chosen asset (mem_collected known))
    · exact absurd same.symm (apart.manifest source chosen)
  · obtain ⟨other, also, rfl⟩ | ⟨another, also, rfl⟩ | ⟨_, rfl⟩ := among
    · exact absurd same (apart.images other also asset (mem_collected known))
    · exact congrArg (Except.ok ∘ FileAsset.data) (eq_of_imagePlace_same apart also known same)
    · exact absurd same.symm (apart.listed asset (mem_collected known))
  · obtain ⟨other, also, rfl⟩ | ⟨another, also, rfl⟩ | ⟨_, rfl⟩ := among
    · exact absurd same (apart.manifest other also)
    · exact absurd same (apart.listed another (mem_collected also))
    · rfl

/-- The files of sources that are apart are all there once they are written. -/
theorem written_writeFiles
    (done : (writeFiles base (newFiles request settings expanded)).fault = none) :
    Written request settings expanded base
      (writeFiles base (newFiles request settings expanded)).tree := by
  have kept {file : NewFile} {octets : Text.Octets}
      (member : file ∈ newFiles request settings expanded) (encoded : file.contents = .ok octets) :=
    contents?_writeFiles done member encoded (Or.inl rfl) fun _ among =>
      contents_eq_of_same apart member among
  have text {path : Path} {text : Text} {level : Level}
      (member : ⟨path, Text.encoded text, level⟩ ∈ newFiles request settings expanded) :
      HoldsText (writeFiles base (newFiles request settings expanded)).tree (base.place path)
        text := by
    obtain ⟨octets, encoded⟩ := exists_octets_of_writeFiles done member
    have whole := Text.encoded_eq_ok_iff.mp encoded
    exact ⟨whole.1, whole.2 ▸ kept member encoded⟩
  refine ⟨fun source chosen => ?_, fun asset first => ⟨?_, ?_⟩, fun nonempty => ?_, ?_,
    fun place new => ?_⟩
  · exact text (mem_newFiles.mpr (.inl ⟨source, chosen, rfl⟩))
  · exact kept (mem_newFiles.mpr (.inr (.inl ⟨asset, mem_distinct_iff.mpr first, rfl⟩))) rfl
  · exact countP_imagePlace apart (mem_distinct_iff.mpr first)
  · exact text (mem_newFiles.mpr (.inr (.inr ⟨nonempty, rfl⟩)))
  · simp only [places, List.mem_map]
    constructor
    · rintro ⟨_, ⟨file, member, rfl⟩, here⟩
      obtain ⟨source, chosen, rfl⟩ | ⟨asset, known, rfl⟩ | ⟨nonempty, _⟩ := mem_newFiles.mp member
      · exact absurd here (apart.manifest source chosen)
      · exact absurd here (apart.listed asset (mem_collected known))
      · exact nonempty
    · exact fun nonempty =>
        ⟨_, ⟨_, mem_newFiles.mpr (.inr (.inr ⟨nonempty, rfl⟩)), rfl⟩, Or.inl rfl⟩
  · exact contents?_writeFiles_other fun file member =>
      new _ (List.mem_map_of_mem member)

end Places

/-- What is written into a tree that has only gained folders is written into the tree before. -/
theorem Written.before {before after made : FileTree} {gained : List Place}
    (gains : FileTree.Gains gained before made)
    (written : Written request settings expanded made after) :
    Written request settings expanded before after := by
  rcases written with ⟨texts, images, manifest, manifested, others⟩
  simp only [target, imagePlace, manifestPlace, places, gains.kept.place_eq, gains.kept.same_iff]
    at texts images manifest manifested
  simp only [places, gains.kept.place_eq, gains.kept.same_iff, gains.contents] at others
  exact ⟨texts, images, manifest, manifested, others⟩

theorem Apart.after {before made : FileTree} {gained : List Place}
    (gains : FileTree.Gains gained before made) (apart : Apart request settings before expanded) :
    Apart request settings made expanded := by
  rcases apart with ⟨texts, images, manifest, assets, listed⟩
  simp only [target, imagePlace, manifestPlace, ← gains.kept.place_eq, ← gains.kept.same_iff]
    at texts images manifest assets listed
  exact ⟨texts, images, manifest, assets, listed⟩

/-- A run of which something is refused fails and changes the contents of no file. Only the output
folder, with the folders on its way, may be new. A run that succeeds has expanded each source as if
there were no others, all with one processor; if all that it writes is apart, it leaves the text of
each source, each asset once, and the manifest of the assets if there are any. How configurations
are written does not matter. -/
theorem run_allOrNothing (read : Project.Reader) (request : Request) (settings : Settings)
    (tree : FileTree) :
    (Refused read request settings tree →
      (run read request settings tree).status = 1 ∧
      FileTree.Gains (tree.trail request.output) tree (run read request settings tree).tree ∧
      ∀ place, (run read request settings tree).tree.contents? place = tree.contents? place) ∧
    ((run read request settings tree).status = 0 →
      ∃ sources processor expanded,
        (findSources request tree).result = .ok sources ∧
        (ready read request settings (tree.makeFolders request.output).tree).result =
          .ok processor ∧
        List.Forall₂ (Alone request processor (tree.makeFolders request.output).tree) sources
          expanded ∧
        (Apart request settings tree expanded →
          Written request settings expanded tree (run read request settings tree).tree)) := by
  refine ⟨fun refused => ?_, fun success => ?_⟩
  · obtain ⟨status, gains⟩ := gains_of_refused refused
    exact ⟨status, gains, gains.contents⟩
  · have ended := status_eq_zero.mp success
    have gains := tree.makeFolders_gains request.output
    cases run_ended read request settings tree with
    | unsourced finding halt same => exact absurd (halt.symm.trans ended) nofun
    | unexpanded finding halt made stopped => exact absurd (halt.symm.trans ended) nofun
    | written finding made expansion written halt =>
        obtain ⟨processor, prepared, alone⟩ := expand_eq_ok.mp expansion
        refine ⟨_, processor, _, finding, prepared, alone, fun apart => ?_⟩
        rw [written]
        exact (written_writeFiles (apart.after gains) (halt ended)).before gains

section Drawn

open Machine

/-- A tag that draws a block. -/
def blockHead : Head :=
  ⟨some .shields, "block", ["color=F41C80"], true⟩

/-- A request for one file that is to be drawn with files. -/
def drawingRequest : Request :=
  { Request.standard (Path.ofText "in") (Path.ofText "out") with
    inputFile := "a.md", backend := "svg" }

/-- The processor for this request in a folder without a project. -/
def drawing : Processor :=
  Processor.make (Registry.standard []) Settings.standard
    (Backend.svg.renderer Settings.standard.assetsFolder)
    (Settings.standard.context Settings.standard.defaultContext)

/-- The tree in which the output folder of this request has been made. -/
def drawingTree : FileTree :=
  ⟨["work"], [(["work", "in", "a.md"], .file (.fresh (Text.toUtf8 blockHead.written))),
    (["work", "out"], .folder)]⟩

theorem ready_drawingRequest :
    (ready Project.ofText drawingRequest Settings.standard drawingTree).result = .ok drawing := by
  have absent : (project Project.ofText drawingRequest Settings.standard drawingTree).result =
      .ok Project.empty := by
    decide +kernel
  exact Stage.bind_eq_ok.mpr ⟨_, absent, by with_unfolding_all rfl⟩

/-- The file of the block. -/
def blockImage : FileAsset :=
  let block : Primitive := .swatch "F41C80" "flat-square" none
  Renderer.Svg.file Settings.standard.assetsFolder block (Renderer.Svg.image block).toUtf8

theorem process_blockHead :
    (drawing.process blockHead.written).result = .ok ⟨blockImage.reference, [blockImage]⟩ := by
  let run := Run.start.log (.scanned 31 1)
  let rendered := (run.log (.dispatched "shields:block" 0)).log
    (.rendered (.swatch "F41C80" "flat-square" none))
  let drawn : Machine :=
    ⟨(Job.ofDocument blockHead.written 0).advanced blockImage.reference [] 31, [],
      rendered.collect (.file blockImage)⟩
  have read : Token.read 0 blockHead.written = .ok (some (.opening ⟨blockHead.tag, 0, 31⟩)) :=
    Token.read_opening_iff.mpr ⟨blockHead, by decide, List.prefix_refl _, rfl⟩
  have stepped : step drawing (ofDocument blockHead.written 0 run) = .next drawn := by
    rw [step_atTag ⟨rfl, read⟩]
    with_unfolding_all rfl
  have scanned : Span.scan drawing.settings.codeMarks blockHead.written = [⟨.literal, 0, 31⟩] := by
    with_unfolding_all rfl
  have expanded : drawing.expandSpan ⟨.literal, 0, 31⟩ (blockHead.written.take 31) run =
      ⟨.ok blockImage.reference, drawn.run.log (.popped 0 blockImage.reference.length)⟩ := by
    rw [Processor.expandSpan, if_neg (by decide)]
    refine (finish_next stepped).trans (finish_done ?_)
    rfl
  have whole : blockHead.written.length = 31 := by decide
  simp only [Processor.process, scanned, Processor.expandSpans, Span.length, whole,
    List.length_singleton]
  rw [show (31 : Nat) - 0 = 31 from rfl, expanded]
  rfl

/-- A file that may not be read is refused, and so is one that is no text, and nothing is written. A
block is drawn and written with its file and the manifest. -/
theorem run_allOrNothing_drawn :
    let request := drawingRequest
    let locked : FileTree := ⟨["work"], [(["work", "in", "a.md"], .file ⟨[65], false, true, none⟩)]⟩
    let octet : FileTree := ⟨["work"], [(["work", "in", "a.md"], .file (.fresh [255]))]⟩
    let tree := FileTree.ofFiles [(["in", "a.md"], blockHead.written)]
    (∀ unread ∈ [locked, octet], Refused Project.ofText request Settings.standard unread ∧
      (run Project.ofText request Settings.standard unread).tree.contents?
        ["work", "out", "a.md"] = none) ∧
    (run Project.ofText request Settings.standard tree).status = 0 ∧
    ∃ expanded, collected expanded = [blockImage] ∧
      Apart request Settings.standard tree expanded ∧
      Written request Settings.standard expanded tree
        (run Project.ofText request Settings.standard tree).tree := by
  intro request locked octet tree
  refine ⟨fun unread among => ?_, ?_⟩
  · have found : (findSources request unread).result = .ok [Path.ofText "in/a.md"] := by
      rw [result_findSources]
      revert unread
      decide +kernel
    obtain ⟨reason, unreadable⟩ : ∃ reason, (sourceText (unread.makeFolders request.output).tree
        (Path.ofText "in/a.md")).result = .error reason := by
      have stops : (sourceText (unread.makeFolders request.output).tree
          (Path.ofText "in/a.md")).result.isOk = false := by
        revert unread
        decide +kernel
      cases known : (sourceText (unread.makeFolders request.output).tree
          (Path.ofText "in/a.md")).result with
      | error reason => exact ⟨reason, rfl⟩
      | ok text =>
          rw [known] at stops
          cases stops
    have refused : Refused Project.ofText request Settings.standard unread :=
      .unreadable found (List.mem_singleton_self _) unreadable
    obtain ⟨_, _, same⟩ :=
      (run_allOrNothing Project.ofText request Settings.standard unread).1 refused
    refine ⟨refused, ?_⟩
    rw [same]
    rcases List.mem_pair.mp among with rfl | rfl <;> rfl
  · let source : Expanded := ⟨Path.ofText "a.md", ⟨blockImage.reference, [blockImage]⟩⟩
    have found : (findSources request tree).result = .ok [Path.ofText "in/a.md"] := by
      rw [result_findSources]
      decide +kernel
    have making : tree.makeFolders request.output = ⟨drawingTree, none⟩ := by decide +kernel
    have text : (sourceText drawingTree (Path.ofText "in/a.md")).result =
        .ok blockHead.written := by
      decide +kernel
    have alone : List.Forall₂ (Alone request drawing drawingTree) [Path.ofText "in/a.md"]
        [source] :=
      .cons ⟨rfl, blockHead.written, text, process_blockHead⟩ .nil
    have expansion : (expand Project.ofText request Settings.standard drawingTree
        [Path.ofText "in/a.md"]).result = .ok [source] :=
      expand_eq_ok.mpr ⟨drawing, ready_drawingRequest, alone⟩
    have written :
        (writeFiles drawingTree (newFiles request Settings.standard [source])).fault = none := by
      decide +kernel
    have status : (run Project.ofText request Settings.standard tree).status = 0 := by
      refine status_run_eq_zero_iff.mpr ⟨_, [source], found, ?_⟩
      rw [making]
      exact ⟨rfl, expansion, written⟩
    have apart : Apart request Settings.standard tree [source] :=
      .of_plain ready_drawingRequest alone (FileTree.unlinked_ofFiles _ _) (by decide) (by decide)
        (by decide +kernel) (by decide)
    refine ⟨status, [source], rfl, apart, ?_⟩
    obtain ⟨sources, processor, expanded, finding, ready, own, all⟩ :=
      (run_allOrNothing Project.ofText request Settings.standard tree).2 status
    rw [found] at finding
    cases finding
    rw [making] at ready own
    have same := (expand_eq_ok.mpr ⟨processor, ready, own⟩).symm.trans expansion
    cases same
    exact all apart

end Drawn

section Meeting

/-- A run that succeeds without assets, with sources of different paths, and after which the file of
one of them does not hold what that source expands to. -/
def Mixes (request : Request) (tree : FileTree) : Prop :=
  ∃ sources expanded,
    (findSources request tree).result = .ok sources ∧
    (expand Project.ofText request Settings.standard (tree.makeFolders request.output).tree
      sources).result = .ok expanded ∧
    (run Project.ofText request Settings.standard tree).status = 0 ∧
    (expanded.map Expanded.relative).Nodup ∧ collected expanded = [] ∧
    ∃ source ∈ expanded, ¬ HoldsText (run Project.ofText request Settings.standard tree).tree
      (target request tree source) source.output.text

theorem Mixes.of_expansion {request : Request} {tree : FileTree} (expanded : List Expanded)
    (source : Expanded) (finding : (findSources request tree).result = .ok sources)
    (made : (tree.makeFolders request.output).fault = none)
    (expansion : (expand Project.ofText request Settings.standard
      (tree.makeFolders request.output).tree sources).result = .ok expanded)
    (written : (writeFiles (tree.makeFolders request.output).tree
      (newFiles request Settings.standard expanded)).fault = none)
    (different : (expanded.map Expanded.relative).Nodup) (bare : collected expanded = [])
    (member : source ∈ expanded)
    (lost : ¬ HoldsText (writeFiles (tree.makeFolders request.output).tree
      (newFiles request Settings.standard expanded)).tree (target request tree source)
        source.output.text) : Mixes request tree := by
  refine ⟨sources, expanded, finding, expansion, ?_, different, bare, source, member, ?_⟩
  · exact status_run_eq_zero_iff.mpr ⟨sources, expanded, finding, made, expansion, written⟩
  · rwa [tree_run finding made expansion]

/-- Different paths below the input folder may lead to one file below the output folder: through the
folders above it, or through a link that is there. The last text that is written stays. -/
theorem run_meetingTargets :
    let inputs : Path := Path.ofText "in"
    let above : Request :=
      { Request.standard inputs (Path.ofText "p/out") with pattern := "**/../**/x.md" }
    let shallow := FileTree.ofFiles [(["in", "x.md"], "one"), (["out", "x.md"], "two"),
      (["in", "b", "c"], [])]
    let plain := Request.standard inputs (Path.ofText "out")
    let linked : FileTree := ⟨["work"], [(["work", "in", "x.md"], .file (.fresh [49])),
      (["work", "in", "y.md"], .file (.fresh [50])),
      (["work", "out", "x.md"], .link (Path.ofText "y.md"))]⟩
    Mixes above shallow ∧ Mixes plain linked := by
  intro inputs above shallow plain linked
  constructor
  · let sources := [Path.ofText "in/../in/x.md", Path.ofText "in/../out/x.md",
      Path.ofText "in/b/../x.md"]
    let lost : Expanded := ⟨Path.ofText "../out/x.md", ⟨"two", []⟩⟩
    let expanded : List Expanded :=
      [⟨Path.ofText "../in/x.md", ⟨"one", []⟩⟩, lost, ⟨Path.ofText "b/../x.md", ⟨"one", []⟩⟩]
    have found : (findSources above shallow).result = .ok sources :=
      findSources_of_sorted (by decide +kernel) (by decide +kernel) rfl rfl (by decide +kernel)
        (by decide +kernel) (by decide)
    exact .of_expansion expanded lost found (by decide +kernel) (by decide +kernel)
      (by decide +kernel) (by decide) rfl (by decide) (by decide +kernel)
  · let lost : Expanded := ⟨Path.ofText "x.md", ⟨"1", []⟩⟩
    let expanded : List Expanded := [lost, ⟨Path.ofText "y.md", ⟨"2", []⟩⟩]
    have found : (findSources plain linked).result =
        .ok [Path.ofText "in/x.md", Path.ofText "in/y.md"] :=
      findSources_of_sorted (by decide +kernel) (by decide +kernel) rfl rfl (by decide +kernel)
        (by decide +kernel) (by decide)
    exact .of_expansion expanded lost found (by decide +kernel) (by decide +kernel)
      (by decide +kernel) (by decide) rfl (by decide) (by decide +kernel)

end Meeting

end Flourish.Command
