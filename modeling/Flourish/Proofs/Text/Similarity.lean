/-
This file says which texts are found as close matches. Main statement: they are some of the
candidates, each no more often than it is one, and as many as are wanted if every text is alike
enough.
-/

import Flourish.Text.Similarity
import Mathlib.Data.List.Perm.Subperm

namespace Flourish.Text

variable {text word : Text} {texts candidates : List Text} {limit cutoff : Nat}

theorem mem_sorted : text ∈ sorted texts ↔ text ∈ texts :=
  List.mem_mergeSort

theorem mem_sortedDistinct : text ∈ sortedDistinct texts ↔ text ∈ texts :=
  mem_sorted.trans List.mem_eraseDups

theorem nodup_eraseDups (texts : List Text) : texts.eraseDups.Nodup := by
  match texts with
  | [] => exact List.nodup_nil
  | text :: rest =>
      rw [List.eraseDups_cons, List.nodup_cons]
      refine ⟨?_, nodup_eraseDups (rest.filter fun other => !other == text)⟩
      simp [List.mem_eraseDups]
termination_by texts.length
decreasing_by exact Nat.lt_succ_of_le (List.length_filter_le _ _)

theorem nodup_sortedDistinct (texts : List Text) : (sortedDistinct texts).Nodup :=
  (List.mergeSort_perm _ _).nodup_iff.mpr (nodup_eraseDups texts)

/-- The matches are some of the candidates in another order. -/
theorem closeMatches_subperm (word : Text) (candidates : List Text) (limit cutoff : Nat) :
    List.Subperm (closeMatches word candidates limit cutoff) candidates := by
  have rated : (candidates.map fun candidate => (likeness candidate word, candidate)).map
      Prod.snd = candidates := by
    rw [List.map_map]
    exact List.map_id candidates
  have near := List.filter_sublist (p := fun entry : Likeness × Text => entry.1.reaches cutoff)
    (l := candidates.map fun candidate => (likeness candidate word, candidate))
  have chosen := ((List.take_sublist limit _).map Prod.snd).subperm.trans
    (((List.mergeSort_perm _ ranksBefore).map Prod.snd).subperm.trans (near.map Prod.snd).subperm)
  rw [rated] at chosen
  exact chosen

theorem mem_of_closeMatches (found : text ∈ closeMatches word candidates limit cutoff) :
    text ∈ candidates :=
  (closeMatches_subperm word candidates limit cutoff).subset found

/-- Different candidates give different matches. -/
theorem nodup_closeMatches (distinct : candidates.Nodup) :
    (closeMatches word candidates limit cutoff).Nodup := by
  obtain ⟨chosen, same, sublist⟩ := closeMatches_subperm word candidates limit cutoff
  exact same.nodup_iff.mp (distinct.sublist sublist)

/-- If every text is alike enough there are as many matches as are wanted. -/
theorem length_closeMatches (word : Text) (candidates : List Text) (limit : Nat) :
    (closeMatches word candidates limit 0).length = min limit candidates.length := by
  have all : (candidates.map fun candidate => (likeness candidate word, candidate)).filter
      (fun entry => entry.1.reaches 0) =
        candidates.map fun candidate => (likeness candidate word, candidate) := by
    refine List.filter_eq_self.mpr fun entry _ => ?_
    simp [Likeness.reaches]
  simp only [closeMatches, all, List.length_map, List.length_take, List.length_mergeSort]

theorem mem_of_suggestions (found : text ∈ suggestions word candidates limit) :
    text ∈ candidates :=
  mem_sortedDistinct.mp (mem_of_closeMatches found)

end Flourish.Text
