/-
This file says what a run writes. Main statements: a run changes no file but those it writes, and a
file that it writes keeps its contents if nothing else is written to it under any name.
-/

import Flourish.Proofs.Command.Stage

namespace Flourish.Command

variable {read : Project.Reader} {request : Request} {settings : Settings} {tree : FileTree}
  {file : NewFile} {files : List NewFile} {place : Place}

theorem kept_writeFile (tree : FileTree) (file : NewFile) :
    FileTree.Kept tree (writeFile tree file).tree := by
  have gains := tree.makeFolders_gains file.path.folder
  unfold writeFile Change.andThen
  split
  · exact gains.kept
  · exact gains.kept.trans (FileTree.kept_write ..)

theorem contents?_writeFile_other (apart : ¬ tree.Same (tree.place file.path) place) :
    (writeFile tree file).tree.contents? place = tree.contents? place := by
  have gains := tree.makeFolders_gains file.path.folder
  unfold writeFile Change.andThen
  split
  · exact gains.contents place
  · rw [FileTree.contents?_write_other (by rwa [gains.kept.place_eq, gains.kept.same_iff]),
      gains.contents]

theorem contents?_writeFile {octets : Text.Octets} (done : (writeFile tree file).fault = none)
    (encoded : file.contents = .ok octets) (same : tree.Same (tree.place file.path) place) :
    (writeFile tree file).tree.contents? place = some octets := by
  have gains := tree.makeFolders_gains file.path.folder
  simp only [writeFile, Change.andThen, encoded, Except.toOption, Option.getD_some] at done ⊢
  split at done
  · next fault stopped =>
    rw [stopped] at done
    cases done
  · exact FileTree.contents?_write done (by rwa [gains.kept.place_eq, gains.kept.same_iff])

/-- Files that are written leave the others as they are. -/
theorem contents?_writeFiles_other
    (apart : ∀ file ∈ files, ¬ tree.Same (tree.place file.path) place) :
    (writeFiles tree files).tree.contents? place = tree.contents? place := by
  induction files generalizing tree with
  | nil => rfl
  | cons file rest inductionHypothesis =>
      have first := contents?_writeFile_other (apart file List.mem_cons_self)
      have kept := kept_writeFile tree file
      simp only [writeFiles]
      split
      · exact first
      · exact first
      · rw [inductionHypothesis fun other member => ?_]
        · exact first
        · rw [kept.place_eq, kept.same_iff]
          exact apart other (List.mem_cons_of_mem _ member)

/-- All files that are written have octets. -/
theorem exists_octets_of_writeFiles (done : (writeFiles tree files).fault = none)
    (member : file ∈ files) : ∃ octets, file.contents = .ok octets := by
  induction files generalizing tree with
  | nil => cases member
  | cons first rest inductionHypothesis =>
      simp only [writeFiles] at done
      split at done
      · cases done
      · cases done
      · next octets _ encoded =>
        rcases List.mem_cons.mp member with rfl | later
        · exact ⟨octets, encoded⟩
        · exact inductionHypothesis done later

/-- A file that is written keeps its contents if what is written to the same file is the same. -/
theorem contents?_writeFiles {octets : Text.Octets} (done : (writeFiles tree files).fault = none)
    (member : file ∈ files) (encoded : file.contents = .ok octets)
    (stands : tree.Same (tree.place file.path) place)
    (alike : ∀ other ∈ files, tree.Same (tree.place other.path) place →
      other.contents = file.contents) :
    (writeFiles tree files).tree.contents? place = some octets := by
  induction files generalizing tree file with
  | nil => cases member
  | cons first rest inductionHypothesis =>
      have kept := kept_writeFile tree first
      simp only [writeFiles] at done ⊢
      split at done
      · cases done
      · cases done
      · next written _ =>
        by_cases again : ∃ other ∈ rest, tree.Same (tree.place other.path) place
        · -- The last of the rest that is written to this file decides.
          obtain ⟨other, later, here⟩ := again
          have equal := alike other (List.mem_cons_of_mem _ later) here
          refine inductionHypothesis done later (equal.trans encoded) ?_ fun another among same => ?_
          · rwa [kept.place_eq, kept.same_iff]
          · rw [kept.place_eq, kept.same_iff] at same
            rw [equal]
            exact alike another (List.mem_cons_of_mem _ among) same
        · have once : file = first := (List.mem_cons.mp member).resolve_right fun later =>
            again ⟨file, later, stands⟩
          subst once
          rw [contents?_writeFiles_other fun other later here => ?_]
          · exact contents?_writeFile written encoded stands
          · rw [kept.place_eq, kept.same_iff] at here
            exact again ⟨other, later, here⟩

/-- How a run may end: without sources; with sources of which one cannot be expanded; or with files
that are written, as far as they can be. -/
inductive Ended (read : Project.Reader) (request : Request) (settings : Settings) (tree : FileTree)
    (outcome : Outcome) : Prop where
  | unsourced {reason : Halt} (finding : (findSources request tree).result = .error reason)
      (halt : outcome.halt = some reason) (same : outcome.tree = tree)
  | unexpanded {sources : List Path} {reason : Halt}
      (finding : (findSources request tree).result = .ok sources)
      (halt : outcome.halt = some reason)
      (made : outcome.tree = (tree.makeFolders request.output).tree)
      (stopped : (tree.makeFolders request.output).fault = none → ∀ expanded,
        (expand read request settings (tree.makeFolders request.output).tree sources).result ≠
          .ok expanded)
  | written {sources : List Path} {expanded : List Expanded}
      (finding : (findSources request tree).result = .ok sources)
      (made : (tree.makeFolders request.output).fault = none)
      (expansion : (expand read request settings (tree.makeFolders request.output).tree
        sources).result = .ok expanded)
      (written : outcome.tree =
        (writeFiles (tree.makeFolders request.output).tree
          (newFiles request settings expanded)).tree)
      (halt : outcome.halt = none →
        (writeFiles (tree.makeFolders request.output).tree
          (newFiles request settings expanded)).fault = none)

theorem run_ended (read : Project.Reader) (request : Request) (settings : Settings)
    (tree : FileTree) :
    Ended read request settings tree (run read request settings tree) := by
  cases finding : (findSources request tree).result with
  | error reason =>
      simp only [run, finding]
      exact .unsourced finding rfl rfl
  | ok sources =>
      cases making : (tree.makeFolders request.output).fault with
      | some fault =>
          simp only [run, finding, making]
          exact .unexpanded finding rfl rfl (by simp [making])
      | none =>
          cases expansion : (expand read request settings (tree.makeFolders request.output).tree
              sources).result with
          | error reason =>
              simp only [run, finding, making, expansion]
              refine .unexpanded finding rfl rfl fun _ expanded done => ?_
              rw [expansion] at done
              cases done
          | ok expanded =>
              simp only [run, finding, making, expansion, write]
              split
              · exact .written finding making expansion rfl nofun
              · exact .written finding making expansion rfl nofun
              · next written => exact .written finding making expansion rfl fun _ => written

/-- A run whose sources expand leaves the tree that is written. -/
theorem tree_run {sources : List Path} {expanded : List Expanded}
    (finding : (findSources request tree).result = .ok sources)
    (made : (tree.makeFolders request.output).fault = none)
    (expansion : (expand read request settings (tree.makeFolders request.output).tree
      sources).result = .ok expanded) :
    (run read request settings tree).tree =
      (writeFiles (tree.makeFolders request.output).tree
        (newFiles request settings expanded)).tree := by
  simp only [run, finding, made, expansion, write]
  split <;> rfl

/-- A run changes no file but those to which it writes. -/
theorem contents?_run_other
    (apart : ∀ sources expanded, (findSources request tree).result = .ok sources →
      (expand read request settings (tree.makeFolders request.output).tree sources).result =
        .ok expanded →
      ∀ file ∈ newFiles request settings expanded, ¬ tree.Same (tree.place file.path) place) :
    (run read request settings tree).tree.contents? place = tree.contents? place := by
  have gains := tree.makeFolders_gains request.output
  cases run_ended read request settings tree with
  | unsourced finding halt same => rw [same]
  | unexpanded finding halt made stopped => rw [made, gains.contents]
  | written finding made expansion written halt =>
      rw [written, contents?_writeFiles_other fun file member => ?_]
      · exact gains.contents place
      · rw [gains.kept.place_eq, gains.kept.same_iff]
        exact apart _ _ finding expansion file member

end Flourish.Command
