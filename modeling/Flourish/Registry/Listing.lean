/-
This file lists the definitions of a registry as documents, for tools that show them.
-/

import Flourish.Registry.Basic

namespace Flourish

namespace Document

def texts (values : List Text) : Document :=
  .list (values.map .text)

def table (entries : Table Text) : Document :=
  .mapping (entries.map fun entry => (entry.1, .text entry.2))

end Document

def PostProcess.document (post : PostProcess) : Document :=
  Document.texts [post.kind.name, post.timing.name]

namespace StyleBody

def fields (style : StyleBody) : List (Text × Document) :=
  [("category", style.category), ("upper", .mapping style.upper), ("lower", .mapping style.lower),
    ("digits", .mapping style.digits), ("extra", .mapping style.extra)]

end StyleBody

namespace FrameBody

def fields (frame : FrameBody) : List (Text × Document) :=
  [("prefix", .text frame.before), ("suffix", .text frame.after)]

end FrameBody

namespace BadgeBody

def fields (badge : BadgeBody) : List (Text × Document) :=
  [("chars", Document.table (badge.glyphs.map fun entry => ([entry.1], [entry.2])))]

end BadgeBody

namespace SeparatorBody

def fields (separator : SeparatorBody) : List (Text × Document) :=
  [("char", .text separator.text)]

end SeparatorBody

namespace ComponentBody

def fields (component : ComponentBody) : List (Text × Document) :=
  [("self_closing", .flag component.selfClosing), ("native", .flag component.native),
    ("template", .text component.template), ("args", Document.texts component.arguments),
    ("defaults", Document.table component.defaults),
    ("params", Document.table component.parameters),
    ("post_process", (component.postProcess.map PostProcess.document).getD .absent)]

end ComponentBody

namespace PartialBody

def fields (body : PartialBody) : List (Text × Document) :=
  [("template", .text body.template)]

end PartialBody

namespace Entry

/-- An entry under its id, with the fields of its kind. -/
def listed {Body : Type} (fields : Body → List (Text × Document)) (entry : Entry Body) :
    Text × Document :=
  let common : List (Text × Document) :=
    [("id", .text entry.id), ("aliases", Document.texts entry.aliases),
      ("contexts", Document.texts entry.contextNames), ("description", entry.description)]
  (entry.id, .mapping (common ++ fields entry.body))

end Entry

namespace Registry

/-- The definitions of one kind under their ids. -/
def listing (registry : Registry) : RenderableKind → List (Text × Document)
  | .style => registry.styles.map (Entry.listed StyleBody.fields)
  | .frame => registry.frames.map (Entry.listed FrameBody.fields)
  | .badge => registry.badges.map (Entry.listed BadgeBody.fields)
  | .separator => registry.separators.map (Entry.listed SeparatorBody.fields)
  | .component => registry.components.map (Entry.listed ComponentBody.fields)
  | .partials => registry.partials.map (Entry.listed PartialBody.fields)

/-- The definition that a name of one kind stands for. -/
def definition? (registry : Registry) (kind : RenderableKind) (name : Text) : Option Document :=
  (Entry.find? (registry.summaries kind) name).bind fun entry =>
    (registry.listing kind).lookup entry.id

end Registry
end Flourish
