/-
This file holds the places where a renderable may be used and the promotion between them.
-/

import Flourish.Text.Basic

namespace Flourish

inductive ContextKind where
  | block
  | frameChrome
  | inline
  deriving DecidableEq, Repr

namespace ContextKind

def name : ContextKind → Text
  | .block => "block"
  | .frameChrome => "frame_chrome"
  | .inline => "inline"

/-- All kinds in the order of their names. -/
def all : List ContextKind :=
  [.block, .frameChrome, .inline]

def ofName? (name : Text) : Option ContextKind :=
  all.find? fun kind => kind.name = name

/-- What is valid in one place is valid in another: in the same place always, and from a line or
a frame's edge everywhere. -/
def promotesTo (source target : ContextKind) : Bool :=
  source = target || source = .inline || source = .frameChrome

/-- The given kinds, each once, in the order of their names. -/
def listed (kinds : List ContextKind) : List ContextKind :=
  all.filter fun kind => kinds.contains kind

end ContextKind

/-- A place of use with its limit of size, if it has one. -/
structure Context where
  kind : ContextKind
  limit : Option Int
  deriving DecidableEq, Repr

namespace Context

def inline (maximumClusters : Int) : Context :=
  ⟨.inline, some maximumClusters⟩

def block : Context :=
  ⟨.block, none⟩

def frameChrome (maximumLength : Int) : Context :=
  ⟨.frameChrome, some maximumLength⟩

/-- The context of a kind with the limit that belongs to the kind. -/
def ofKind (kind : ContextKind) (maximumClusters maximumLength : Int) : Context :=
  match kind with
  | .inline => inline maximumClusters
  | .frameChrome => frameChrome maximumLength
  | .block => block

/-- Something declared for these kinds may be used here. -/
def admits (context : Context) (declared : List ContextKind) : Bool :=
  declared.any fun kind => kind.promotesTo context.kind

def toText (context : Context) : Text :=
  match context.limit with
  | none => context.kind.name
  | some limit => context.kind.name ++ .of '(' :: Text.ofInt limit ++ [.of ')']

end Context
end Flourish
