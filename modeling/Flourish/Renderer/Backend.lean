/-
This file names the backends that the library offers.
-/

import Flourish.Renderer.Plain
import Flourish.Renderer.Shields
import Flourish.Renderer.Svg

namespace Flourish

inductive Backend where
  | shields
  | plaintext
  | svg
  deriving DecidableEq, Repr

namespace Backend

def name : Backend → Text
  | .shields => "shields"
  | .plaintext => "plaintext"
  | .svg => "svg"

def all : List Backend :=
  [.shields, .plaintext, .svg]

def ofName? (name : Text) : Option Backend :=
  all.find? fun backend => backend.name = name

/-- The backend of a name, or the complaint about a name that no backend has. -/
def ofName (name : Text) : Except Stop Backend :=
  match ofName? name with
  | some backend => .ok backend
  | none =>
      .error (.defect (.badValue (wording ["unknown backend '", name, "' (expected one of ",
        Text.commaSeparated (all.map Backend.name), ")"])))

/-- What a backend makes of a primitive, unless it needs the octets of a text that has none. -/
def draw (backend : Backend) (assetsFolder : Text) (primitive : Primitive) :
    Except Text.EncodingFault Asset :=
  match backend with
  | .shields => (Renderer.Shields.draw primitive).map .markdown
  | .plaintext => .ok (.markdown (Renderer.Plain.draw primitive))
  | .svg => (Renderer.Svg.draw assetsFolder primitive).map .file

/-- The renderer of a backend. It breaks down where it cannot encode a text. -/
def renderer (backend : Backend) (assetsFolder : Text) : Renderer := fun primitive =>
  (backend.draw assetsFolder primitive).mapError fun fault =>
    .broken "UnicodeEncodeError" fault.message

end Backend
end Flourish
