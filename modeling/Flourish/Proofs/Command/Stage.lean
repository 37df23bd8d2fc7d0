/-
This file says what the stages of the command come to. Main statements: the sources that are chosen
are files, each source is expanded on its own, and a run either leaves all files as they are or
writes the files of its expanded sources.
-/

import Flourish.Command.Run
import Flourish.Proofs.FileTree
import Mathlib.Data.List.Forall2

namespace Flourish.Command

namespace Stage

variable {Value Other : Type}

theorem result_bind (stage : Stage Value) (next : Value → Stage Other) :
    (stage >>= next).result = stage.result >>= fun value => (next value).result := by
  rcases stage with ⟨result, events⟩
  cases result <;> rfl

theorem bind_eq_ok {stage : Stage Value} {next : Value → Stage Other} {other : Other} :
    (stage >>= next).result = .ok other ↔
      ∃ value, stage.result = .ok value ∧ (next value).result = .ok other := by
  rw [result_bind]
  constructor
  · intro done
    cases first : stage.result with
    | error reason =>
        rw [first] at done
        cases done
    | ok value =>
        rw [first] at done
        exact ⟨value, rfl, done⟩
  · rintro ⟨value, first, done⟩
    rw [first]
    exact done

/-- What happened before a stage does not matter to what it gives. -/
theorem happened_bind (events : List Event) (next : Unit → Stage Value) :
    (happened events >>= next).result = (next ()).result :=
  rfl

/-- What happens after a stage does not matter to what it gives. -/
theorem bind_happened (stage : Stage Value) (events : Value → List Event) :
    (do
      let value ← stage
      happened (events value)
      pure value).result = stage.result := by
  rcases stage with ⟨result, earlier⟩
  cases result <;> rfl

end Stage

variable {read : Project.Reader} {request : Request} {settings : Settings} {tree : FileTree}
  {processor : Processor}
  {path : Path} {paths : List Path}

theorem result_findSources (request : Request) (tree : FileTree) :
    (findSources request tree).result = (sources request tree).result := by
  rw [findSources, Stage.happened_bind, Stage.bind_happened]

/-- The sources are the file that is asked for, or else files that do not lie in the output
folder. -/
theorem sources_eq_ok (found : (sources request tree).result = .ok paths) :
    if request.inputFile.isEmpty then
      ∀ path ∈ paths, tree.isFileAt path ∧ ¬ tree.place request.output <+: tree.place path
    else
      paths = [request.input.append (Path.ofText request.inputFile)] ∧
        ∀ path ∈ paths, tree.isFileAt path := by
  unfold sources at found
  split at found
  · cases found
  · split
    · next empty =>
      rw [if_pos empty] at found
      obtain ⟨chosen, selects, nonempty⟩ := Stage.bind_eq_ok.mp found
      have same : chosen = paths := by
        split at nonempty
        · cases nonempty
        · exact Except.ok.inj nonempty
      subst same
      intro path member
      unfold selected at selects
      split at selects
      · cases selects
      split at selects
      · cases selects
      · cases selects
        have kept := (List.mem_filter.mp (List.mem_mergeSort.mp member)).2
        simp only [Bool.and_eq_true, Bool.not_eq_true', ← Bool.not_eq_true,
          List.isPrefixOf_iff_prefix] at kept
        exact kept
    · next given =>
      rw [if_neg given] at found
      simp only at found
      split at found
      · next isFile =>
        cases found
        exact ⟨rfl, List.forall_mem_singleton.mpr isFile⟩
      · cases found

/-- The files that a pattern selects outside of the output folder are the sources, in their order if
they stand in it. -/
theorem findSources_of_sorted {found : List Path} (isFolder : tree.isFolderAt request.input)
    (steady : tree.loops request.output = false) (pattern : request.inputFile = [])
    (fits : tree.select request.input request.pattern = .ok found)
    (kept : (found.filter fun path => tree.isFileAt path &&
      !(tree.place request.output).isPrefixOf (tree.place path)) = paths)
    (sorted : paths.Pairwise fun first second => Path.atMost first second)
    (nonempty : paths ≠ []) : (findSources request tree).result = .ok paths := by
  have chosen : selected request tree = .done paths := by
    simp only [selected, steady, fits, kept, List.mergeSort_of_pairwise sorted, Bool.false_eq_true,
      if_false]
  have filled : ¬ paths.isEmpty = true := fun empty => nonempty (List.isEmpty_iff.mp empty)
  rw [result_findSources, sources, chosen, isFolder, pattern]
  simp only [Stage.andThen, Stage.done, if_neg filled]
  rfl

/-- A path as it is seen from a folder is what follows the path of the folder. -/
theorem relativeTo_eq_some {folder relative : Path}
    (seen : path.relativeTo? folder = some relative) :
    relative.absolute = false ∧ path = ⟨folder.absolute, folder.parts ++ relative.parts⟩ := by
  unfold Path.relativeTo? at seen
  split at seen
  · next through =>
    cases seen
    obtain ⟨absolute, front⟩ := Bool.and_eq_true_iff.mp through
    obtain ⟨rest, whole⟩ := List.isPrefixOf_iff_prefix.mp front
    refine ⟨rfl, ?_⟩
    rw [← whole, List.drop_left, whole, ← of_decide_eq_true absolute]
  · cases seen

/-- A source with its path below the input folder and what its text expands to, whatever other
sources there are. -/
structure Alone (request : Request) (processor : Processor) (tree : FileTree) (path : Path)
    (source : Expanded) : Prop where
  relative : path.relativeTo? request.input = some source.relative
  output : ∃ text, (sourceText tree path).result = .ok text ∧
    (processor.process text).result = .ok source.output

theorem exists_of_forall₂ {First Second : Type} {related : First → Second → Prop} {first : First}
    {firsts : List First} {seconds : List Second} (all : List.Forall₂ related firsts seconds)
    (member : first ∈ firsts) : ∃ second ∈ seconds, related first second := by
  induction all with
  | nil => cases member
  | cons both _ inductionHypothesis =>
      rcases List.mem_cons.mp member with rfl | later
      · exact ⟨_, List.mem_cons_self, both⟩
      · obtain ⟨second, among, both⟩ := inductionHypothesis later
        exact ⟨second, List.mem_cons_of_mem _ among, both⟩

theorem exists_path {sources : List Expanded} {source : Expanded}
    (alone : List.Forall₂ (Alone request processor tree) paths sources)
    (member : source ∈ sources) : ∃ path ∈ paths, Alone request processor tree path source :=
  have flipped : List.Forall₂ (fun source path => Alone request processor tree path source)
      sources paths := alone.flip
  exists_of_forall₂ flipped member

theorem result_relativePath {relative : Path} :
    (relativePath request path).result = .ok relative ↔
      path.relativeTo? request.input = some relative := by
  unfold relativePath
  split
  · next found =>
    rw [found]
    exact ⟨fun done => congrArg some (Except.ok.inj done),
      fun same => congrArg _ (Option.some.inj same)⟩
  · next absent =>
    rw [absent]
    exact ⟨nofun, nofun⟩

theorem result_expandedText {relative : Path} {text : Text} {output : Output} :
    (expandedText request processor relative text).result = .ok output ↔
      (processor.process text).result = .ok output := by
  simp only [expandedText]
  cases (processor.process text).result with
  | ok expanded => simp only [Except.ok.injEq]
  | error stop => cases stop <;> exact ⟨nofun, nofun⟩

theorem expandSource_eq_ok {source : Expanded} :
    (expandSource request processor tree path).result = .ok source ↔
      Alone request processor tree path source := by
  simp only [expandSource, Stage.bind_eq_ok, result_relativePath, result_expandedText]
  constructor
  · rintro ⟨relative, seen, text, read, output, expanded, _, _, same⟩
    cases same
    exact ⟨seen, text, read, expanded⟩
  · rintro ⟨seen, text, read, expanded⟩
    exact ⟨source.relative, seen, text, read, source.output, expanded, (), rfl, rfl⟩

/-- The sources are expanded each on its own. -/
theorem expandSources_eq_ok {expanded : List Expanded} :
    (expandSources request processor tree paths).result = .ok expanded ↔
      List.Forall₂ (Alone request processor tree) paths expanded := by
  induction paths generalizing expanded with
  | nil =>
      rw [List.forall₂_nil_left_iff]
      exact ⟨fun done => (Except.ok.inj done).symm, fun same => same ▸ rfl⟩
  | cons path rest inductionHypothesis =>
      simp only [expandSources, Stage.bind_eq_ok, expandSource_eq_ok, inductionHypothesis,
        List.forall₂_cons_left_iff]
      constructor
      · rintro ⟨first, own, others, later, same⟩
        exact ⟨first, others, own, later, (Except.ok.inj same).symm⟩
      · rintro ⟨first, others, own, later, rfl⟩
        exact ⟨first, own, others, later, rfl⟩

theorem expand_eq_ok {expanded : List Expanded} :
    (expand read request settings tree paths).result = .ok expanded ↔
      ∃ processor, (ready read request settings tree).result = .ok processor ∧
        List.Forall₂ (Alone request processor tree) paths expanded := by
  simp only [expand, Stage.bind_eq_ok, expandSources_eq_ok]

theorem result_configured {Value : Type} {result : Except Stop Value} {events : List Event}
    {value : Value} : (configured result events).result = .ok value ↔ result = .ok value := by
  cases result with
  | ok found => simp only [configured, Except.ok.injEq]
  | error stop => cases stop <;> exact ⟨nofun, nofun⟩

theorem renderer_withProjectPalette {plain : Processor} {project : Project}
    (done : (withProjectPalette plain project).result = .ok processor) :
    processor.renderer = plain.renderer := by
  unfold withProjectPalette at done
  split at done
  · cases done
    rfl
  · have extended := result_configured.mp done
    unfold Processor.extendPalette at extended
    split at extended
    · cases extended
    · cases extended
      rfl

/-- The processor of a run draws with a backend of the library. -/
theorem exists_backend_of_ready (done : (ready read request settings tree).result = .ok processor) :
    ∃ backend : Backend, processor.renderer = backend.renderer settings.assetsFolder := by
  simp only [ready, Command.processor, Stage.bind_eq_ok] at done
  obtain ⟨project, _, _, _, _, _, backend, _, kind, _, colored, withPalette, _, _, same⟩ := done
  cases same
  exact ⟨backend, renderer_withProjectPalette withPalette⟩

end Flourish.Command
