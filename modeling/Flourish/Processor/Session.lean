/-
This file holds sessions: one processor takes on more colors and expands documents, in any order.
-/

import Flourish.Processor.Run

namespace Flourish

/-- What a processor is asked to do. -/
inductive Request where
  | extend (overrides : List (Text × Text))
  | process (document : Text)
  deriving DecidableEq, Repr

namespace Processor

/-- The processor after a request. Colors that are refused leave it as it is, and so does every
document. -/
def after (processor : Processor) : Request → Processor
  | .extend overrides =>
      match (processor.extendPalette overrides).result with
      | .ok extended => extended
      | .error _ => processor
  | .process _ => processor

/-- The processor after the requests of a session, the first of which comes first. -/
def afterAll (processor : Processor) (requests : List Request) : Processor :=
  requests.foldl after processor

end Processor
end Flourish
