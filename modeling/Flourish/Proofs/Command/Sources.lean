/-
This file says which files are sources and what becomes of them. Main statement: what a pattern
selects does not lie in the output folder, and a source that does not lie there is left as it is by
a run that leads out of it neither through folders above nor through links.
-/

import Flourish.Proofs.Command.Assets
import Flourish.Proofs.Command.Writing
import Flourish.Settings.Read

namespace Flourish.Command

variable {read : Project.Reader} {request : Request} {settings : Settings} {tree : FileTree}
  {processor : Processor} {path : Path} {paths : List Path} {expanded : List Expanded}
  {file : NewFile}

/-- All files of a run stand in the output folder if no path leads to a folder above and no link is
there. -/
theorem isPrefix_place_newFiles {base : FileTree}
    (prepared : (ready read request settings tree).result = .ok processor)
    (alone : List.Forall₂ (Alone request processor tree) paths expanded)
    (plain : ∀ path ∈ paths, ∀ relative ∈ path.relativeTo? request.input,
      Path.above ∉ relative.parts)
    (plainAssets : PlainAssets settings) (unlinked : base.Unlinked (base.place request.output))
    (member : file ∈ newFiles request settings expanded) :
    base.place request.output <+: base.place file.path := by
  have below {relative : Path} (onward : relative.absolute = false)
      (down : Path.above ∉ relative.parts) :
      base.place request.output <+: base.place (request.output.append relative) := by
    rw [FileTree.place_append unlinked onward down]
    exact List.prefix_append ..
  obtain ⟨source, among, rfl⟩ | ⟨asset, among, rfl⟩ | ⟨_, rfl⟩ := mem_newFiles.mp member
  · obtain ⟨path, chosen, own⟩ := exists_path alone among
    exact below (relativeTo_eq_some own.relative).1 (plain path chosen _ own.relative)
  · obtain ⟨name, named⟩ := exists_named prepared alone (mem_collected among)
    rw [named.2.2.2]
    exact below rfl (plainAssets.above_not_mem named.2.1)
  · rw [manifestPath_eq]
    exact below rfl (plainAssets.above_not_mem (by decide))

/-- The sources that a pattern selects do not lie in the output folder once all links are followed; a
source that is asked for by its name may. A source outside of that folder is left as it is, if the
sources lead to no folder above the input folder, the assets to none above the output folder, and no
link and no file with other names is in the output folder. -/
theorem sources_kept (read : Project.Reader) (request : Request) (settings : Settings)
    (tree : FileTree) (found : (findSources request tree).result = .ok paths) :
    (request.inputFile = [] →
      ∀ path ∈ paths, ¬ tree.place request.output <+: tree.place path) ∧
    (request.inputFile ≠ [] →
      paths = [request.input.append (Path.ofText request.inputFile)]) ∧
    ((∀ path ∈ paths, ∀ relative ∈ path.relativeTo? request.input,
        Path.above ∉ relative.parts) → PlainAssets settings →
      tree.Unlinked (tree.place request.output) →
      ∀ path ∈ paths, ¬ tree.place request.output <+: tree.place path →
        (run read request settings tree).tree.contents? (tree.place path) =
          tree.contents? (tree.place path)) := by
  rw [result_findSources] at found
  have chosen := sources_eq_ok found
  refine ⟨fun empty path member => ?_, fun given => ?_,
    fun plain plainAssets unlinked path member outside => ?_⟩
  · rw [if_pos (List.isEmpty_iff.mpr empty)] at chosen
    exact (chosen path member).2
  · rw [if_neg (by simpa using given)] at chosen
    exact chosen.1
  · refine contents?_run_other fun sources expanded finding expansion file written same => ?_
    have asked : sources = paths := by
      rw [result_findSources, found] at finding
      exact (Except.ok.inj finding).symm
    subst asked
    obtain ⟨processor, prepared, alone⟩ := expand_eq_ok.mp expansion
    have below := isPrefix_place_newFiles prepared alone plain plainAssets unlinked written
    exact outside (unlinked.eq_of_same below same ▸ below)

/-- Of two files that the pattern fits, the one in the output folder is no source, and the other is
kept. -/
theorem sources_kept_nested :
    let request := Request.standard (Path.ofText "in") (Path.ofText "in/out")
    let tree := FileTree.ofFiles [(["in", "a.md"], "x\r\n"), (["in", "out", "a.md"], "y")]
    (findSources request tree).result = .ok [Path.ofText "in/a.md"] ∧
      ¬ tree.place request.output <+: tree.place (Path.ofText "in/a.md") ∧
      tree.Unlinked (tree.place request.output) ∧
      (run Project.ofText request Settings.standard tree).tree.contents? ["work", "in", "a.md"] =
        tree.contents? ["work", "in", "a.md"] := by
  intro request tree
  have found : (findSources request tree).result = .ok [Path.ofText "in/a.md"] := by
    rw [result_findSources]
    decide +kernel
  obtain ⟨outside, _, kept⟩ := sources_kept Project.ofText request Settings.standard tree found
  have apart := outside rfl _ (List.mem_singleton_self _)
  have unlinked : tree.Unlinked (tree.place request.output) := FileTree.unlinked_ofFiles _ _
  have same := kept (by decide) (by decide) unlinked _ (List.mem_singleton_self _) apart
  have stands : tree.place (Path.ofText "in/a.md") = ["work", "in", "a.md"] := by decide +kernel
  rw [stands] at same
  exact ⟨found, apart, unlinked, same⟩

/-- A run that overwrites a file that it reads as a source. -/
def Overwrites (request : Request) (tree : FileTree) (paths : List Path) (place : Place) : Prop :=
  (findSources request tree).result = .ok paths ∧ (∃ path ∈ paths, tree.place path = place) ∧
    (run Project.ofText request Settings.standard tree).tree.contents? place ≠ tree.contents? place

/-- The file of a name in the input folder is taken although it lies in the output folder, and is
overwritten. So is a file above the input folder that a pattern selects, and one to which a link in
the output folder leads. -/
theorem run_ownSource :
    let inputs : Path := Path.ofText "in"
    let asked : Request := { Request.standard inputs inputs with inputFile := "a.md" }
    let tree := FileTree.ofFiles [(["in", "a.md"], "x\r\n")]
    let above : Request :=
      { Request.standard inputs (Path.ofText "out") with pattern := "../*.md" }
    let shallow := FileTree.ofFiles [(["a.md"], "x\r\n"), (["in", "b"], [])]
    let plain := Request.standard inputs (Path.ofText "out")
    let linked : FileTree := ⟨["work"], [(["work", "in", "a.md"], .file (.fresh [120, 13])),
      (["work", "out", "a.md"], .link (Path.ofText "../in/a.md"))]⟩
    (Overwrites asked tree [Path.ofText "in/a.md"] ["work", "in", "a.md"] ∧
      tree.place asked.output <+: ["work", "in", "a.md"]) ∧
    Overwrites above shallow [Path.ofText "in/../a.md"] ["work", "a.md"] ∧
    Overwrites plain linked [Path.ofText "in/a.md"] ["work", "in", "a.md"] := by
  intro inputs asked tree above shallow plain linked
  refine ⟨⟨⟨?_, ?_, ?_⟩, ?_⟩, ⟨?_, ?_, ?_⟩, ?_, ?_, ?_⟩
  · rw [result_findSources]
    decide +kernel
  · decide +kernel
  · decide +kernel
  · decide +kernel
  · rw [result_findSources]
    decide +kernel
  · decide +kernel
  · decide +kernel
  · rw [result_findSources]
    decide +kernel
  · decide +kernel
  · decide +kernel

end Flourish.Command
