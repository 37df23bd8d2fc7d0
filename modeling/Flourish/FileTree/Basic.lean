/-
This file holds trees of files and the faults of working with them.
-/

import Flourish.FileTree.Path
import Flourish.Text.Quoted
import Flourish.Text.Utf8

namespace Flourish

inductive FileFaultKind where
  | missing
  | denied
  | exists
  | notFolder
  | isFolder
  | looped
  deriving DecidableEq, Repr

/-- What went wrong with the file at a path. -/
structure FileFault where
  kind : FileFaultKind
  path : Path
  deriving DecidableEq, Repr

namespace FileFault

def reason : FileFaultKind → Text
  | .missing => "[Errno 2] No such file or directory: "
  | .denied => "[Errno 13] Permission denied: "
  | .exists => "[Errno 17] File exists: "
  | .notFolder => "[Errno 20] Not a directory: "
  | .isFolder => "[Errno 21] Is a directory: "
  | .looped => "[Errno 40] Too many levels of symbolic links: "

def message (fault : FileFault) : Text :=
  reason fault.kind ++ Text.quoted fault.path.toText

end FileFault

/-- A file and what may be done with it. The names of one file share a number; a file of one name
needs none. -/
structure File where
  contents : Text.Octets
  readable : Bool
  writable : Bool
  number : Option Nat
  deriving DecidableEq, Repr

/-- A file as it is when it is made. -/
def File.fresh (contents : Text.Octets) : File :=
  ⟨contents, true, true, none⟩

/-- What stands at a place. A link leads on from its folder. -/
inductive FileNode where
  | folder
  | file (file : File)
  | link (target : Path)
  deriving DecidableEq, Repr

namespace FileNode

/-- Where a link leads. -/
def target? : FileNode → Option Path
  | .link target => some target
  | .folder | .file _ => none

/-- The number of a file that may have other names. -/
def number? : FileNode → Option Nat
  | .file stored => stored.number
  | .folder | .link _ => none

/-- A node with other contents, if it is a file. -/
def holding (contents : Text.Octets) : FileNode → FileNode
  | .file stored => .file { stored with contents := contents }
  | .folder => .folder
  | .link target => .link target

end FileNode

/-- A place is the names on the way to it from the root. -/
abbrev Place := List Text

/-- A tree of files, seen from the folder `home`. A node's folders need not be listed. -/
structure FileTree where
  home : Place
  nodes : List (Place × FileNode)
  deriving DecidableEq, Repr

/-- Where parts of a path lead: the places before each part is followed, the place at their end, and
how many links may still be followed. -/
structure Walk where
  stations : List Place
  place : Place
  links : Nat
  deriving DecidableEq, Repr

def Walk.after (walk : Walk) (station : Place) : Walk :=
  { walk with stations := station :: walk.stations }

namespace FileTree

/-- A part of a path leads into a folder or back to the one above. -/
def follow (place : Place) (part : Text) : Place :=
  if part = Path.above then place.dropLast else place ++ [part]

def start (tree : FileTree) (path : Path) : Place :=
  if path.absolute then [] else tree.home

/-- The node at a place. The folders above the home and above every node are there too. -/
def node? (tree : FileTree) (place : Place) : Option FileNode :=
  match tree.nodes.lookup place with
  | some node => some node
  | none =>
      if place.isPrefixOf tree.home || tree.nodes.any fun entry => place.isPrefixOf entry.1 then
        some .folder
      else none

def isFolder (tree : FileTree) (place : Place) : Bool :=
  tree.node? place = some .folder

/-- Where the link at a place leads, if a link is there. -/
def link? (tree : FileTree) (place : Place) : Option Path :=
  (tree.node? place).bind FileNode.target?

/-- Where the link of a name in a folder leads. The folder above is no link. -/
def linkAt? (tree : FileTree) (place : Place) (part : Text) : Option Path :=
  if part = Path.above then none else tree.link? (place ++ [part])

/-- The walk along parts up to the first link, from which it goes on as it is told. Where no more
links may be followed, a link counts as a name. -/
def walkOn (tree : FileTree) (links : Nat) (onward : Place → List Text → Walk) (place : Place) :
    List Text → Walk
  | [] => ⟨[], place, links⟩
  | part :: rest =>
      match links, tree.linkAt? place part with
      | _ + 1, some target =>
          (onward (if target.absolute then [] else place) (target.parts ++ rest)).after place
      | _, _ => (tree.walkOn links onward (follow place part) rest).after place

/-- The walk along parts, on which at most this many links are followed, each from its folder. -/
def walk (tree : FileTree) : Nat → Place → List Text → Walk
  | 0 => tree.walkOn 0 fun place _ => ⟨[], place, 0⟩
  | links + 1 => tree.walkOn (links + 1) (tree.walk links)

/-- The number of links that may be followed on the way along one path. -/
def linkLimit : Nat :=
  40

def way (tree : FileTree) (path : Path) : Walk :=
  tree.walk linkLimit (tree.start path) path.parts

/-- The place that a path names, its links followed. -/
def place (tree : FileTree) (path : Path) : Place :=
  (tree.way path).place

/-- Why a part cannot be followed from a node. -/
def blocked? : Option FileNode → Option FileFaultKind
  | some .folder => none
  | some (.file _) => some .notFolder
  | some (.link _) => some .looped
  | none => some .missing

/-- Why one of these places is no folder, of the first that is none. -/
def blockedAt? (tree : FileTree) (stations : List Place) : Option FileFaultKind :=
  stations.findSome? fun station => blocked? (tree.node? station)

/-- What stands at the end of a path, its links followed. The path must pass through folders. Where
a link is found, too many were followed. -/
def look (tree : FileTree) (path : Path) : Except FileFault (Option FileNode) :=
  match tree.blockedAt? (tree.way path).stations with
  | some kind => .error ⟨kind, path⟩
  | none => .ok (tree.node? (tree.place path))

def isFileAt (tree : FileTree) (path : Path) : Bool :=
  match tree.look path with
  | .ok (some (.file _)) => true
  | _ => false

def isFolderAt (tree : FileTree) (path : Path) : Bool :=
  match tree.look path with
  | .ok (some .folder) => true
  | _ => false

/-- A path on which too many links are followed. -/
def loops (tree : FileTree) (path : Path) : Bool :=
  match tree.look path with
  | .error fault => fault.kind = .looped
  | .ok (some (.link _)) => true
  | .ok _ => false

/-- The last part of a path is a link, wherever that leads. -/
def endsInLink (tree : FileTree) (path : Path) : Bool :=
  match path.parts.getLast? with
  | none => false
  | some part =>
      tree.isFolderAt path.folder && (tree.linkAt? (tree.place path.folder) part).isSome

/-- The number of the file at a place, if it may have other names. -/
def number? (tree : FileTree) (place : Place) : Option Nat :=
  (tree.node? place).bind FileNode.number?

/-- What stands at two places is the same: they are one, or two names of one file. -/
def Same (tree : FileTree) (first second : Place) : Prop :=
  first = second ∨ (tree.number? first).isSome ∧ tree.number? first = tree.number? second

instance (tree : FileTree) (first second : Place) : Decidable (tree.Same first second) :=
  inferInstanceAs (Decidable (_ ∨ _))

def read (tree : FileTree) (path : Path) : Except FileFault Text.Octets :=
  match tree.look path with
  | .error fault => .error fault
  | .ok (some (.file file)) =>
      if file.readable then .ok file.contents else .error ⟨.denied, path⟩
  | .ok (some .folder) => .error ⟨.isFolder, path⟩
  | .ok (some (.link _)) => .error ⟨.looped, path⟩
  | .ok none => .error ⟨.missing, path⟩

def put (tree : FileTree) (place : Place) (node : FileNode) : FileTree :=
  let others := tree.nodes.filter fun entry => entry.1 ≠ place
  { tree with nodes := others ++ [(place, node)] }

/-- The tree with other contents in the file at a place, under each of its names. -/
def overwrite (tree : FileTree) (place : Place) (contents : Text.Octets) : FileTree :=
  { tree with
    nodes := tree.nodes.map fun entry =>
      if tree.Same place entry.1 then (entry.1, entry.2.holding contents) else entry }

/-- The folders from the root down to a place. -/
def downward (place : Place) : List Place :=
  (List.range (place.length + 1)).map fun count => place.take count

/-- The folders from a place up to the root. -/
def upward (place : Place) : List Place :=
  (downward place).reverse

end FileTree

/-- The tree that a change leaves, and what went wrong with the change. -/
structure Change where
  tree : FileTree
  fault : Option FileFault
  deriving DecidableEq

/-- A change and what follows it if nothing went wrong. -/
def Change.andThen (change : Change) (next : FileTree → Change) : Change :=
  match change.fault with
  | some _ => change
  | none => next change.tree

namespace FileTree

/-- The change that writes a file into a folder that is there. A link leads to what is written. -/
def write (tree : FileTree) (path : Path) (contents : Text.Octets) : Change :=
  match tree.look path with
  | .error fault => ⟨tree, some fault⟩
  | .ok (some .folder) => ⟨tree, some ⟨.isFolder, path⟩⟩
  | .ok (some (.link _)) => ⟨tree, some ⟨.looped, path⟩⟩
  | .ok (some (.file file)) =>
      if file.writable then ⟨tree.overwrite (tree.place path) contents, none⟩
      else ⟨tree, some ⟨.denied, path⟩⟩
  | .ok none => ⟨tree.put (tree.place path) (.file (.fresh contents)), none⟩

/-- The change that makes a folder in a folder that is there. None is made where a link leads. -/
def makeFolder (tree : FileTree) (path : Path) : Change :=
  match tree.look path, tree.endsInLink path with
  | .ok (some .folder), _ => ⟨tree, none⟩
  | _, true => ⟨tree, some ⟨.exists, path⟩⟩
  | .error fault, false => ⟨tree, some fault⟩
  | .ok (some _), false => ⟨tree, some ⟨.exists, path⟩⟩
  | .ok none, false => ⟨tree.put (tree.place path) .folder, none⟩

/-- The change that makes a folder and, where they are missing, the folders on its path. -/
def makeFolders (tree : FileTree) (path : Path) : Change :=
  let made := tree.makeFolder path
  match made.fault with
  | some ⟨.missing, _⟩ =>
      if path.parts = [] then made
      else (tree.makeFolders path.folder).andThen fun above => above.makeFolder path
  | _ => made
termination_by path.parts.length
decreasing_by
  have nonempty := List.length_pos_iff.mpr (by assumption)
  simp only [Path.folder, List.length_dropLast]
  omega

end FileTree
end Flourish
