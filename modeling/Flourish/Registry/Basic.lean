/-
This file holds registries and the look-up of names in them.
-/

import Flourish.Failure
import Flourish.Registry.Definition
import Flourish.Text.Similarity

namespace Flourish

/-- A registry never changes once it is made. -/
structure Registry where
  styles : List (Entry StyleBody)
  frames : List (Entry FrameBody)
  badges : List (Entry BadgeBody)
  separators : List (Entry SeparatorBody)
  components : List (Entry ComponentBody)
  partials : List (Entry PartialBody)
  palette : Table Text
  shieldStyles : Table (List Text)
  defaultShieldStyle : Text

namespace Registry

/-- The table of a kind. -/
def entries (registry : Registry) : (kind : RenderableKind) → List (Entry kind.Body)
  | .style => registry.styles
  | .frame => registry.frames
  | .badge => registry.badges
  | .separator => registry.separators
  | .component => registry.components
  | .partials => registry.partials

/-- A table without what is particular to its kind. -/
def summaries (registry : Registry) (kind : RenderableKind) : List (Entry Unit) :=
  (registry.entries kind).map Entry.summary

def size (registry : Registry) (kind : RenderableKind) : Nat :=
  (registry.summaries kind).length

def names (registry : Registry) (kind : RenderableKind) : List Text :=
  Entry.names (registry.summaries kind)

/-- The ids of one kind, or of all kinds, that may be used in a context. -/
def usable (registry : Registry) (context : Context) : Option RenderableKind → List Text
  | some kind => Entry.usableIds (registry.summaries kind) context
  | none =>
      Text.sortedDistinct (RenderableKind.all.flatMap fun kind =>
        Entry.usableIds (registry.summaries kind) context)

/-- At most five usable ids of a table, the closest to a name first. -/
def alternativesIn {Body : Type} (table : List (Entry Body)) (name : Text) (context : Context) :
    List Text :=
  Text.closeMatches name (Entry.usableIds table context) 5 0

def mismatch {Body : Type} (table : List (Entry Body)) (entry : Entry Body) (name : Text)
    (context : Context) : Failure :=
  (Cause.contextMismatch name entry.contextNames context.toText
    (alternativesIn table name context)).unplaced

/-- The entry of a name in one table. It fails if the name is there but not for this context. -/
def resolveIn {Body : Type} (table : List (Entry Body)) (name : Text) (context : Context) :
    Except Failure (Option (Entry Body)) :=
  match Entry.find? table name with
  | none => .ok none
  | some entry =>
      if context.admits entry.contexts then .ok (some entry)
      else .error (mismatch table entry name context)

/-- The entries of a name in all tables, with their kinds. -/
def candidates (registry : Registry) (name : Text) : List (RenderableKind × Entry Unit) :=
  RenderableKind.all.filterMap fun kind =>
    (Entry.find? (registry.summaries kind) name).map (kind, ·)

/-- The first entry of a name, in the order of the kinds, that may be used in a context. It fails
if there are entries and none of them may. -/
def resolve (registry : Registry) (name : Text) (context : Context) :
    Except Failure (Option (RenderableKind × Entry Unit)) :=
  let found := registry.candidates name
  match found.find? fun candidate => context.admits candidate.2.contexts with
  | some candidate => .ok (some candidate)
  | none =>
      match found with
      | [] => .ok none
      | (kind, entry) :: _ => .error (mismatch (registry.summaries kind) entry name context)

/-- The failure of a name that no entry of a table has. -/
def unknownIn {Body : Type} (subject : Subject) (table : List (Entry Body)) (name : Text) :
    Failure :=
  (Cause.unknown subject name (Text.suggestions name (Entry.names table) 3)).unplaced

/-- The entry of a name in one table, which must be there. -/
def require {Body : Type} (subject : Subject) (table : List (Entry Body)) (name : Text)
    (context : Context) : Except Failure (Entry Body) :=
  match resolveIn table name context with
  | .error failure => .error failure
  | .ok (some entry) => .ok entry
  | .ok none => .error (unknownIn subject table name)

/-- The id of a shield style: the first style that has the name as its id or lists it. No name
and the empty name stand for the default. -/
def shieldStyle (registry : Registry) : Option Text → Except Failure Text
  | none | some [] => .ok registry.defaultShieldStyle
  | some name =>
      match List.find? (fun style => style.1 = name || style.2.contains name)
          registry.shieldStyles with
      | some style => .ok style.1
      | none =>
          .error (Cause.invalidParameter "style" name
            (.unknownShieldStyle (Text.sorted registry.shieldStyles.names))).unplaced

/-- The sizes of the tables. -/
def toText (registry : Registry) : Text :=
  wording ["Registry(", Text.commaSeparated (RenderableKind.all.map fun kind =>
    wording [kind.name, "=", Text.ofNat (registry.size kind)]), ")"]

end Registry
end Flourish
