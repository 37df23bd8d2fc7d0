/-
This file says what changes of a tree of files do. Main statements: no change moves what a path
names, making folders only adds folders, on the way of their path, and writing a file changes the
contents of that file alone, under all of its names.
-/

import Flourish.FileTree.Basic

namespace Flourish

def FileNode.contents? : FileNode → Option Text.Octets
  | .folder | .link _ => none
  | .file stored => some stored.contents

namespace FileTree

/-- A tree of files, seen from the folder in which they stand. -/
def ofFiles (files : List (Place × Text)) : FileTree :=
  ⟨["work"], files.map fun entry => ("work" :: entry.1, .file (.fresh (Text.toUtf8 entry.2)))⟩

/-- The contents of the file at a place, if a file is there. -/
def contents? (tree : FileTree) (place : Place) : Option Text.Octets :=
  (tree.node? place).bind FileNode.contents?

variable {tree before between after : FileTree} {path : Path} {place other third : Place}
  {places more : List Place} {octets : Text.Octets} {links : Nat} {parts : List Text}
  {target : Path} {part : Text}

theorem walk_nil (tree : FileTree) (links : Nat) (place : Place) :
    tree.walk links place [] = ⟨[], place, links⟩ := by
  cases links <;> rfl

/-- A name is followed into a folder. -/
theorem walk_name (name : tree.linkAt? place part = none) (links : Nat) (rest : List Text) :
    tree.walk links place (part :: rest) =
      (tree.walk links (follow place part) rest).after place := by
  cases links <;> simp only [walk, walkOn, name]

theorem walk_limit (tree : FileTree) (place : Place) (part : Text) (rest : List Text) :
    tree.walk 0 place (part :: rest) = (tree.walk 0 (follow place part) rest).after place := by
  simp only [walk, walkOn]

/-- A link is followed from its folder. -/
theorem walk_link (link : tree.linkAt? place part = some target) (links : Nat)
    (rest : List Text) :
    tree.walk (links + 1) place (part :: rest) =
      (tree.walk links (if target.absolute then [] else place) (target.parts ++ rest)).after
        place := by
  simp only [walk, walkOn, link]

/-- A walk goes on from where the walk along the first parts ends. -/
theorem walk_append (tree : FileTree) (links : Nat) (place : Place) (parts more : List Text) :
    tree.walk links place (parts ++ more) =
      let first := tree.walk links place parts
      let second := tree.walk first.links first.place more
      ⟨first.stations ++ second.stations, second.place, second.links⟩ := by
  -- A link uses up one that may be followed, and a name one of the parts.
  induction links generalizing place parts with
  | zero =>
      induction parts generalizing place with
      | nil => simp only [List.nil_append, walk_nil]
      | cons part rest inductionHypothesis =>
          rw [List.cons_append, walk_limit, walk_limit, inductionHypothesis]
          rfl
  | succ links outer =>
      induction parts generalizing place with
      | nil => simp only [List.nil_append, walk_nil]
      | cons part rest inductionHypothesis =>
          cases known : tree.linkAt? place part with
          | none =>
              rw [List.cons_append, walk_name known, walk_name known, inductionHypothesis]
              rfl
          | some target =>
              rw [List.cons_append, walk_link known, walk_link known, ← List.append_assoc, outer]
              rfl

/-- A walk depends on the links alone. -/
theorem walk_congr (same : ∀ place, after.link? place = before.link? place) (links : Nat)
    (place : Place) (parts : List Text) :
    after.walk links place parts = before.walk links place parts := by
  have alike (place : Place) (part : Text) :
      after.linkAt? place part = before.linkAt? place part := by
    simp only [linkAt?, same]
  induction links generalizing place parts with
  | zero =>
      induction parts generalizing place with
      | nil => rw [walk_nil, walk_nil]
      | cons part rest inductionHypothesis => rw [walk_limit, walk_limit, inductionHypothesis]
  | succ links outer =>
      induction parts generalizing place with
      | nil => rw [walk_nil, walk_nil]
      | cons part rest inductionHypothesis =>
          cases known : before.linkAt? place part with
          | none =>
              rw [walk_name known, walk_name ((alike place part).trans known),
                inductionHypothesis]
          | some target =>
              rw [walk_link known, walk_link ((alike place part).trans known), outer]

/-- No link, and no file that may have other names, is at a place or below it. -/
def Unlinked (tree : FileTree) (place : Place) : Prop :=
  ∀ below, place <+: below → tree.link? below = none ∧ tree.number? below = none

/-- Where no links are, parts that lead to no folder above are appended to the place. -/
theorem walk_unlinked (unlinked : tree.Unlinked place) (plain : Path.above ∉ parts) (links : Nat) :
    (tree.walk links place parts).place = place ++ parts := by
  induction parts generalizing place with
  | nil => rw [walk_nil, List.append_nil]
  | cons part rest inductionHypothesis =>
      have down : part ≠ Path.above := fun same => plain (same ▸ List.mem_cons_self)
      have name : tree.linkAt? place part = none := by
        rw [linkAt?, if_neg down]
        exact (unlinked _ (List.prefix_append ..)).1
      have below : tree.Unlinked (follow place part) := by
        rw [follow, if_neg down]
        exact fun lower within => unlinked lower ((List.prefix_append ..).trans within)
      rw [walk_name name, Walk.after,
        inductionHypothesis below fun member => plain (List.mem_cons_of_mem _ member), follow,
        if_neg down, List.append_assoc, List.singleton_append]

/-- Where no file has other names, only a place itself is the same as it. -/
theorem Unlinked.eq_of_same (unlinked : tree.Unlinked place) (below : place <+: other)
    (same : tree.Same other third) : other = third := by
  rcases same with equal | ⟨numbered, _⟩
  · exact equal
  · rw [(unlinked other below).2] at numbered
    cases numbered

/-- A path that is relative is followed from the end of the path before it. -/
theorem way_append (tree : FileTree) (first : Path) {second : Path}
    (relative : second.absolute = false) :
    tree.place (first.append second) =
      (tree.walk (tree.way first).links (tree.place first) second.parts).place := by
  simp only [FileTree.place, way, Path.append, relative, Bool.false_eq_true, if_false, start,
    walk_append]

/-- Where no links are below a path, a path from there that leads to no folder above leads below. -/
theorem place_append {first second : Path} (unlinked : tree.Unlinked (tree.place first))
    (relative : second.absolute = false) (plain : Path.above ∉ second.parts) :
    tree.place (first.append second) = tree.place first ++ second.parts := by
  rw [way_append tree first relative, walk_unlinked unlinked plain]

/-- What a change of files leaves as it is: where the links are, and which names are of one file. -/
structure Kept (before after : FileTree) : Prop where
  home : after.home = before.home
  links : ∀ place, after.link? place = before.link? place
  numbers : ∀ place, after.number? place = before.number? place

namespace Kept

theorem refl (tree : FileTree) : Kept tree tree :=
  ⟨rfl, fun _ => rfl, fun _ => rfl⟩

theorem trans (first : Kept before between) (second : Kept between after) : Kept before after :=
  ⟨second.home.trans first.home, fun place => (second.links place).trans (first.links place),
    fun place => (second.numbers place).trans (first.numbers place)⟩

/-- Every path leads where it led. -/
theorem way_eq (kept : Kept before after) (path : Path) : after.way path = before.way path := by
  simp only [FileTree.way, start, kept.home, walk_congr kept.links]

theorem place_eq (kept : Kept before after) (path : Path) :
    after.place path = before.place path := by
  rw [FileTree.place, kept.way_eq, FileTree.place]

theorem same_iff (kept : Kept before after) (first second : Place) :
    after.Same first second ↔ before.Same first second := by
  simp only [Same, kept.numbers]

end Kept

namespace Same

theorem symm (same : tree.Same place other) : tree.Same other place := by
  rcases same with rfl | ⟨numbered, equal⟩
  · exact Or.inl rfl
  · exact Or.inr ⟨equal ▸ numbered, equal.symm⟩

theorem trans (first : tree.Same place other) (second : tree.Same other third) :
    tree.Same place third := by
  rcases first with rfl | ⟨numbered, equal⟩
  · exact second
  · rcases second with rfl | ⟨_, further⟩
    · exact Or.inr ⟨numbered, equal⟩
    · exact Or.inr ⟨numbered, equal.trans further⟩

end Same

theorem lookup_put (place other : Place) (node : FileNode) (nodes : List (Place × FileNode)) :
    ((nodes.filter fun entry => entry.1 ≠ place) ++ [(place, node)]).lookup other =
      if other = place then some node else nodes.lookup other := by
  induction nodes with
  | nil =>
      by_cases same : other = place
      · simp only [same, List.filter_nil, List.nil_append, List.lookup_cons_self, if_true]
      · have apart : (other == place) = false := beq_eq_false_iff_ne.mpr same
        simp only [List.filter_nil, List.nil_append, List.lookup_cons, apart, List.lookup_nil,
          if_neg same]
  | cons entry rest inductionHypothesis =>
      rcases entry with ⟨known, value⟩
      by_cases here : known = place
      · rw [List.filter_cons_of_neg (by simpa using here), inductionHypothesis]
        by_cases same : other = place
        · rw [if_pos same, if_pos same]
        · have apart : (other == known) = false :=
            beq_eq_false_iff_ne.mpr fun equal => same (equal.trans here)
          simp only [if_neg same, List.lookup_cons, apart]
      · rw [List.filter_cons_of_pos (by simpa using here), List.cons_append, List.lookup_cons,
          List.lookup_cons, inductionHypothesis]
        by_cases same : other = known
        · have apart : ¬ other = place := fun equal => here (same.symm.trans equal)
          simp only [if_neg apart]
        · simp only [beq_eq_false_iff_ne.mpr same]

theorem any_isPrefix_put (place other : Place) (node : FileNode)
    (nodes : List (Place × FileNode)) :
    (∃ entry ∈ (nodes.filter fun entry => entry.1 ≠ place) ++ [(place, node)], other <+: entry.1) ↔
      (∃ entry ∈ nodes, other <+: entry.1) ∨ other <+: place := by
  constructor
  · rintro ⟨entry, member, above⟩
    obtain kept | new := List.mem_append.mp member
    · exact Or.inl ⟨entry, (List.mem_filter.mp kept).1, above⟩
    · rw [List.mem_singleton.mp new] at above
      exact Or.inr above
  · rintro (⟨entry, member, above⟩ | above)
    · by_cases here : entry.1 = place
      · exact ⟨(place, node), List.mem_append_right _ List.mem_cons_self, here ▸ above⟩
      · exact ⟨entry, List.mem_append_left _ (List.mem_filter.mpr ⟨member, by simpa using here⟩),
          above⟩
    · exact ⟨(place, node), List.mem_append_right _ List.mem_cons_self, above⟩

theorem node?_eq (tree : FileTree) (place : Place) :
    tree.node? place =
      (tree.nodes.lookup place).or
        (if place <+: tree.home ∨ ∃ entry ∈ tree.nodes, place <+: entry.1 then some .folder
          else none) := by
  unfold node?
  cases tree.nodes.lookup place with
  | some node => rfl
  | none =>
      simp only [Bool.or_eq_true, List.any_eq_true, List.isPrefixOf_iff_prefix, Option.none_or]

/-- A node that is put at a place is there, and folders are above it. -/
theorem node?_put (tree : FileTree) (place other : Place) (node : FileNode) :
    (tree.put place node).node? other =
      if other = place then some node
      else (tree.node? other).or (if other <+: place then some .folder else none) := by
  rw [node?_eq, node?_eq]
  simp only [put, lookup_put, any_isPrefix_put]
  by_cases here : other = place
  · rw [if_pos here, if_pos here, Option.some_or]
  · rw [if_neg here, if_neg here, Option.or_assoc]
    congr 1
    by_cases above : other <+: place
    · simp only [above, or_true, if_true]
      split <;> rfl
    · simp only [above, or_false, if_false, Option.or_none]

/-- What neither a folder nor a listed node has, no node has. -/
theorem bind_node?_eq_none {Value : Type} {part? : FileNode → Option Value}
    (bare : part? .folder = none) (none_ : ∀ entry ∈ tree.nodes, part? entry.2 = none)
    (place : Place) : (tree.node? place).bind part? = none := by
  rw [node?_eq]
  cases known : tree.nodes.lookup place with
  | some node =>
      obtain ⟨before, after, same, _⟩ := List.lookup_eq_some_iff.mp known
      exact none_ (place, node) (same ▸ by simp)
  | none =>
      rw [Option.none_or]
      split
      · exact bare
      · rfl

/-- Files that are listed by themselves are not linked. -/
theorem unlinked_ofFiles (files : List (Place × Text)) (place : Place) :
    (ofFiles files).Unlinked place := by
  refine fun below _ => ⟨bind_node?_eq_none rfl ?_ below, bind_node?_eq_none rfl ?_ below⟩
  · intro entry member
    obtain ⟨file, _, rfl⟩ := List.mem_map.mp member
    rfl
  · intro entry member
    obtain ⟨file, _, rfl⟩ := List.mem_map.mp member
    rfl

/-- What a node has that a folder has not, stays as it is where another node is put. -/
theorem bind_node?_put {Value : Type} {part? : FileNode → Option Value}
    (bare : part? .folder = none) (tree : FileTree) (place other : Place) (node : FileNode) :
    ((tree.put place node).node? other).bind part? =
      if other = place then part? node else (tree.node? other).bind part? := by
  rw [node?_put]
  split
  · rfl
  · cases tree.node? other with
    | some known => rfl
    | none =>
        rw [Option.none_or]
        split
        · exact bare
        · rfl

theorem contents?_put (tree : FileTree) (place other : Place) (node : FileNode) :
    (tree.put place node).contents? other =
      if other = place then node.contents? else tree.contents? other :=
  bind_node?_put rfl tree place other node

/-- A node without a target and a number may be put where nothing was. -/
theorem kept_put {node : FileNode} (absent : tree.node? place = none) (single : node.target? = none)
    (unnumbered : node.number? = none) : Kept tree (tree.put place node) := by
  refine ⟨rfl, fun other => ?_, fun other => ?_⟩
  · rw [link?, bind_node?_put rfl, link?]
    split
    · next here => rw [here, absent, single, Option.bind_none]
    · rfl
  · rw [number?, bind_node?_put rfl, number?]
    split
    · next here => rw [here, absent, unnumbered, Option.bind_none]
    · rfl

theorem lookup_overwrite (change : Place → FileNode → FileNode) (other : Place)
    (nodes : List (Place × FileNode)) :
    (nodes.map fun entry => (entry.1, change entry.1 entry.2)).lookup other =
      (nodes.lookup other).map (change other) := by
  induction nodes with
  | nil => rfl
  | cons entry rest inductionHypothesis =>
      rw [List.map_cons, List.lookup_cons, List.lookup_cons, inductionHypothesis]
      by_cases same : other = entry.1
      · simp only [same, beq_self_eq_true, Option.map_some]
      · simp only [beq_eq_false_iff_ne.mpr same]

/-- The file at a place is overwritten under all of its names. -/
theorem node?_overwrite (tree : FileTree) (place other : Place) (octets : Text.Octets) :
    (tree.overwrite place octets).node? other =
      (tree.node? other).map fun node =>
        if tree.Same place other then node.holding octets else node := by
  let change (known : Place) (node : FileNode) : FileNode :=
    if tree.Same place known then node.holding octets else node
  have nodes : (tree.overwrite place octets).nodes =
      tree.nodes.map fun entry => (entry.1, change entry.1 entry.2) := by
    simp only [overwrite, change]
    refine List.map_congr_left fun entry _ => ?_
    split <;> rfl
  have folder : change other .folder = .folder := ite_self _
  have above : (∃ entry ∈ (tree.overwrite place octets).nodes, other <+: entry.1) ↔
      ∃ entry ∈ tree.nodes, other <+: entry.1 := by
    rw [nodes]
    simp only [List.mem_map]
    constructor
    · rintro ⟨_, ⟨entry, member, rfl⟩, within⟩
      exact ⟨entry, member, within⟩
    · rintro ⟨entry, member, within⟩
      exact ⟨_, ⟨entry, member, rfl⟩, within⟩
  rw [node?_eq, node?_eq]
  simp only [above]
  rw [nodes, lookup_overwrite change]
  cases tree.nodes.lookup other with
  | some node => rfl
  | none =>
      rw [Option.map_none, Option.none_or, Option.none_or]
      by_cases there : other <+: tree.home ∨ ∃ entry ∈ tree.nodes, other <+: entry.1
      · rw [if_pos there]
        exact (if_pos there).trans (congrArg some folder.symm)
      · rw [if_neg there]
        exact if_neg there

theorem kept_overwrite (tree : FileTree) (place : Place) (octets : Text.Octets) :
    Kept tree (tree.overwrite place octets) := by
  refine ⟨rfl, fun other => ?_, fun other => ?_⟩
  · rw [link?, node?_overwrite, link?]
    cases tree.node? other with
    | none => rfl
    | some node =>
        rw [Option.map_some, Option.bind_some, Option.bind_some]
        split
        · cases node <;> rfl
        · rfl
  · rw [number?, node?_overwrite, number?]
    cases tree.node? other with
    | none => rfl
    | some node =>
        rw [Option.map_some, Option.bind_some, Option.bind_some]
        split
        · cases node <;> rfl
        · rfl

/-- The places through which a path leads, and its own. -/
def trail (tree : FileTree) (path : Path) : List Place :=
  (tree.way path).stations ++ [tree.place path]

theorem Kept.trail_eq (kept : Kept before after) (path : Path) :
    after.trail path = before.trail path := by
  simp only [trail, kept.place_eq, kept.way_eq]

/-- A tree that has only gained folders. They are at or above some places. -/
structure Gains (places : List Place) (before after : FileTree) : Prop where
  home : after.home = before.home
  node : ∀ place, after.node? place = before.node? place ∨
    before.node? place = none ∧ after.node? place = some .folder ∧
      ∃ gained ∈ places, place <+: gained

namespace Gains

theorem same (places : List Place) (tree : FileTree) : Gains places tree tree :=
  ⟨rfl, fun _ => Or.inl rfl⟩

theorem trans (first : Gains places before between) (second : Gains places between after) :
    Gains places before after := by
  refine ⟨second.home.trans first.home, fun place => ?_⟩
  obtain kept | ⟨absent, made, gained⟩ := second.node place
  · obtain known | ⟨absent, made, gained⟩ := first.node place
    · exact Or.inl (kept.trans known)
    · exact Or.inr ⟨absent, kept.trans made, gained⟩
  · obtain known | ⟨_, earlier, _⟩ := first.node place
    · exact Or.inr ⟨known.symm.trans absent, made, gained⟩
    · rw [absent] at earlier
      cases earlier

theorem widen (gains : Gains places before after) (within : places ⊆ more) :
    Gains more before after := by
  refine ⟨gains.home, fun place => (gains.node place).imp_right ?_⟩
  rintro ⟨absent, made, gained, member, above⟩
  exact ⟨absent, made, gained, within member, above⟩

/-- What a node has that a folder has not, no place has gained. -/
theorem bind_node? {Value : Type} {part? : FileNode → Option Value} (bare : part? .folder = none)
    (gains : Gains places before after) (place : Place) :
    (after.node? place).bind part? = (before.node? place).bind part? := by
  obtain same | ⟨absent, made, _⟩ := gains.node place
  · rw [same]
  · rw [absent, made]
    exact bare

theorem contents (gains : Gains places before after) (place : Place) :
    after.contents? place = before.contents? place :=
  gains.bind_node? rfl place

theorem kept (gains : Gains places before after) : Kept before after :=
  ⟨gains.home, gains.bind_node? rfl, gains.bind_node? rfl⟩

end Gains

theorem node?_of_look {found : Option FileNode} (look : tree.look path = .ok found) :
    tree.node? (tree.place path) = found := by
  unfold FileTree.look at look
  split at look
  · cases look
  · exact Except.ok.inj look

theorem makeFolder_gains (tree : FileTree) (path : Path) :
    Gains [tree.place path] tree (tree.makeFolder path).tree := by
  unfold makeFolder
  split
  · exact .same _ _
  · exact .same _ _
  · exact .same _ _
  · exact .same _ _
  · next vacant _ =>
    have absent := node?_of_look vacant
    refine ⟨rfl, fun place => ?_⟩
    simp only [node?_put]
    by_cases here : place = tree.place path
    · rw [if_pos here, here]
      exact Or.inr ⟨absent, rfl, tree.place path, List.mem_singleton_self _, List.prefix_rfl⟩
    · rw [if_neg here]
      cases known : tree.node? place with
      | some node => exact Or.inl (Option.some_or ..)
      | none =>
          rw [Option.none_or]
          by_cases above : place <+: tree.place path
          · rw [if_pos above]
            exact Or.inr ⟨rfl, rfl, tree.place path, List.mem_singleton_self _, above⟩
          · exact Or.inl (if_neg above)

/-- A part is followed from where it stands. -/
theorem mem_stations (tree : FileTree) (links : Nat) (place : Place) (part : Text) :
    place ∈ (tree.walk links place [part]).stations := by
  cases links with
  | zero =>
      rw [walk_limit]
      exact List.mem_cons_self
  | succ links =>
      cases known : tree.linkAt? place part with
      | none =>
          rw [walk_name known]
          exact List.mem_cons_self
      | some target =>
          rw [walk_link known]
          exact List.mem_cons_self

/-- A path leads through where the path of its folder leads. -/
theorem trail_folder (nonempty : path.parts ≠ []) : tree.trail path.folder ⊆ tree.trail path := by
  have whole := List.dropLast_concat_getLast nonempty
  generalize path.parts.getLast nonempty = part at whole
  have through : (tree.way path).stations = (tree.way path.folder).stations ++
      (tree.walk (tree.way path.folder).links (tree.place path.folder) [part]).stations := by
    rw [way, ← whole, walk_append]
    rfl
  intro station member
  rw [trail, through, List.append_assoc]
  rcases List.mem_append.mp member with earlier | last
  · exact List.mem_append_left _ earlier
  · rw [List.mem_singleton.mp last]
    exact List.mem_append_right _ (List.mem_append_left _ (mem_stations ..))

theorem makeFolder_gains_trail (tree : FileTree) (path : Path) :
    Gains (tree.trail path) tree (tree.makeFolder path).tree := by
  refine (makeFolder_gains tree path).widen fun place member => ?_
  rw [List.mem_singleton.mp member]
  exact List.mem_append_right _ (List.mem_singleton_self _)

/-- Making folders adds folders, on the way of their path. -/
theorem makeFolders_gains (tree : FileTree) (path : Path) :
    Gains (tree.trail path) tree (tree.makeFolders path).tree := by
  fun_induction makeFolders tree path with
  | case1 path made missing stands empty => exact makeFolder_gains_trail tree path
  | case2 path made missing stands nonempty inductionHypothesis =>
      have above := inductionHypothesis.widen (trail_folder nonempty)
      unfold Change.andThen
      split
      · exact above
      · have below := makeFolder_gains_trail (tree.makeFolders path.folder).tree path
        rw [above.kept.trail_eq] at below
        exact above.trans below
  | case3 path made other => exact makeFolder_gains_trail tree path

/-- Writing a file changes no other file. -/
theorem contents?_write_other (apart : ¬ tree.Same (tree.place path) other) :
    (tree.write path octets).tree.contents? other = tree.contents? other := by
  unfold write
  split
  · rfl
  · rfl
  · rfl
  · split
    · rw [contents?, node?_overwrite, contents?]
      simp only [if_neg apart, Option.map_id']
    · rfl
  · exact (contents?_put ..).trans (if_neg fun here => apart (Or.inl here.symm))

/-- A file that is written has its contents under all of its names. -/
theorem contents?_write (done : (tree.write path octets).fault = none)
    (same : tree.Same (tree.place path) other) :
    (tree.write path octets).tree.contents? other = some octets := by
  unfold write at done ⊢
  split at done
  · cases done
  · cases done
  · cases done
  · next file found =>
    split at done
    · next writable =>
      simp only [if_pos writable]
      have stored : ∃ file, tree.node? other = some (.file file) := by
        rcases same with rfl | ⟨numbered, equal⟩
        · exact ⟨file, node?_of_look found⟩
        · rw [equal, number?] at numbered
          cases known : tree.node? other with
          | none => simp [known] at numbered
          | some node => cases node <;> simp_all [FileNode.number?]
      obtain ⟨file, known⟩ := stored
      rw [contents?, node?_overwrite, known, Option.map_some, if_pos same]
      rfl
    · cases done
  · next vacant =>
    have here : other = tree.place path := by
      rcases same with rfl | ⟨numbered, _⟩
      · rfl
      · rw [number?, node?_of_look vacant] at numbered
        cases numbered
    exact (contents?_put ..).trans (if_pos here)

theorem kept_write (tree : FileTree) (path : Path) (octets : Text.Octets) :
    Kept tree (tree.write path octets).tree := by
  unfold write
  split
  · exact .refl tree
  · exact .refl tree
  · exact .refl tree
  · split
    · exact kept_overwrite ..
    · exact .refl tree
  · next vacant => exact kept_put (node?_of_look vacant) rfl rfl

end FileTree
end Flourish
