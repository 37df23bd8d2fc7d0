/-
This file holds tags: what a head says, and where its content and its closer are.
-/

import Flourish.Table

namespace Flourish

/-- The ways a tag is handled, in the order in which they are tried. -/
inductive TagKind where
  | ui
  | frame
  | badge
  | shields
  | style
  | partials
  deriving DecidableEq, Repr

namespace TagKind

def name : TagKind → Text
  | .ui => "ui"
  | .frame => "frame"
  | .badge => "badge"
  | .shields => "shields"
  | .style => "style"
  | .partials => "partial"

def all : List TagKind :=
  [.ui, .frame, .badge, .shields, .style, .partials]

/-- The kinds that a head names before a colon. A bare name is always a style. -/
def reserved : List TagKind :=
  [.ui, .frame, .badge, .shields, .partials]

def ofName? (name : Text) : Option TagKind :=
  all.find? fun kind => kind.name = name

def reserved? (name : Text) : Option TagKind :=
  reserved.find? fun kind => kind.name = name

end TagKind

/-- How an open tag finds its closer: through the tags opened after it, or as the first exact
closer that follows. -/
inductive CloserPolicy where
  | generic
  | specific
  deriving DecidableEq, Repr

/-- One unit of template text. `space` is the namespace written before the name. -/
structure Tag where
  space : Option TagKind
  name : Text
  arguments : List Text
  parameters : Table Text
  selfClosing : Bool
  body : Option (Nat × Nat)
  deriving DecidableEq, Repr

namespace Tag

def kind (tag : Tag) : TagKind :=
  tag.space.getD .style

def closerPolicy (tag : Tag) : CloserPolicy :=
  match tag.space with
  | some .ui => .generic
  | _ => .specific

/-- The name inside the closer: the namespace if there is one, else the name of the style. -/
def closerName (tag : Tag) : Text :=
  match tag.space with
  | some kind => kind.name
  | none => tag.name

def displayName (tag : Tag) : Text :=
  match tag.space with
  | some kind => kind.name ++ .of ':' :: tag.name
  | none => tag.name

/-- A tag with the given parts. A tag that closes itself has no content. -/
def make? (space : Option TagKind) (name : Text) (selfClosing : Bool)
    (body : Option (Nat × Nat)) : Option Tag :=
  if selfClosing && body.isSome then none
  else some ⟨space, name, [], [], selfClosing, body⟩

end Tag

/-- An opening or self-closing head from `start` up to `headStop`. -/
structure Opening where
  tag : Tag
  start : Nat
  headStop : Nat
  deriving DecidableEq, Repr

/-- A closer from `start` up to `stop`. -/
structure Closer where
  name : Text
  start : Nat
  stop : Nat
  deriving DecidableEq, Repr

inductive Token where
  | opening (opening : Opening)
  | closer (closer : Closer)
  deriving DecidableEq, Repr

namespace Token

def stop : Token → Nat
  | .opening head => head.headStop
  | .closer found => found.stop

end Token
end Flourish
