/-
This file holds the definitions that a registry is made of.
-/

import Flourish.Context
import Flourish.Document.Basic
import Flourish.Table

namespace Flourish

/-- The tables of a registry, in the order in which a name is looked up in them. -/
inductive RenderableKind where
  | style
  | frame
  | badge
  | separator
  | component
  | partials
  deriving DecidableEq, Repr

namespace RenderableKind

def name : RenderableKind → Text
  | .style => "style"
  | .frame => "frame"
  | .badge => "badge"
  | .separator => "separator"
  | .component => "component"
  | .partials => "partial"

def all : List RenderableKind :=
  [.style, .frame, .badge, .separator, .component, .partials]

def ofName? (name : Text) : Option RenderableKind :=
  all.find? fun kind => kind.name = name

end RenderableKind

/-- An entry of a registry table: its name, its other names, the places where it may be used, and
what it is. -/
structure Entry (Body : Type) where
  id : Text
  aliases : List Text
  contexts : List ContextKind
  description : Document
  body : Body

/-- The glyphs of a style. A glyph is meant to be a text; other values count once they are used. -/
structure StyleBody where
  category : Document
  upper : Table Document
  lower : Table Document
  digits : Table Document
  extra : Table Document

/-- What a frame puts before and after its content. -/
structure FrameBody where
  before : Text
  after : Text

/-- The enclosed form of single letters. -/
structure BadgeBody where
  glyphs : List (Letter × Letter)

structure SeparatorBody where
  text : Text

/-- The transforms of a component's expansion. -/
inductive TransformKind where
  | blockquote
  | row
  deriving DecidableEq, Repr

namespace TransformKind

def name : TransformKind → Text
  | .blockquote => "blockquote"
  | .row => "row"

def ofName? (name : Text) : Option TransformKind :=
  [TransformKind.blockquote, .row].find? fun kind => kind.name = name

end TransformKind

/-- A transform is applied to the substituted template, or to what has become of it. -/
inductive Timing where
  | preExpand
  | postExpand
  deriving DecidableEq, Repr

namespace Timing

def name : Timing → Text
  | .preExpand => "pre_expand"
  | .postExpand => "post_expand"

def ofName? (name : Text) : Option Timing :=
  [Timing.preExpand, .postExpand].find? fun timing => timing.name = name

end Timing

structure PostProcess where
  kind : TransformKind
  timing : Timing
  deriving DecidableEq, Repr

/-- A component is drawn by a handler if it is native, and else has a template. -/
structure ComponentBody where
  selfClosing : Bool
  native : Bool
  template : Text
  arguments : List Text
  defaults : Table Text
  parameters : Table Text
  postProcess : Option PostProcess
  deriving DecidableEq, Repr

structure PartialBody where
  template : Text

/-- What is particular to the entries of a kind. -/
def RenderableKind.Body : RenderableKind → Type
  | .style => StyleBody
  | .frame => FrameBody
  | .badge => BadgeBody
  | .separator => SeparatorBody
  | .component => ComponentBody
  | .partials => PartialBody

namespace Entry

variable {Body : Type}

/-- An entry without what is particular to its kind. -/
def summary (entry : Entry Body) : Entry Unit :=
  ⟨entry.id, entry.aliases, entry.contexts, entry.description, ()⟩

def contextNames (entry : Entry Body) : List Text :=
  (ContextKind.listed entry.contexts).map ContextKind.name

/-- Entries under their ids: one that has the id of an earlier one takes its place. -/
def keyed (entries : List (Entry Body)) : List (Entry Body) :=
  (Table.ofEntries (entries.map fun entry => (entry.id, entry))).map Prod.snd

/-- The names of a table with the ids that they stand for. All ids go in first, then the other
names of the entries in order; a name that is there already goes in no more. -/
def index (table : List (Entry Body)) : Table Text :=
  let ids := Table.insertAllNew [] (table.map fun entry => (entry.id, entry.id))
  ids.insertAllNew (table.flatMap fun entry => entry.aliases.map fun name => (name, entry.id))

/-- The entry of a name, by way of the id that the name stands for. -/
def find? (table : List (Entry Body)) (name : Text) : Option (Entry Body) :=
  ((index table).find? name).bind fun id => table.find? fun entry => entry.id = id

/-- All ids and other names of a table. -/
def names (table : List (Entry Body)) : List Text :=
  Text.sorted (index table).names

/-- The ids of a table that may be used in a context. -/
def usableIds (table : List (Entry Body)) (context : Context) : List Text :=
  Text.sortedDistinct ((table.filter fun entry => context.admits entry.contexts).map Entry.id)

end Entry
end Flourish
