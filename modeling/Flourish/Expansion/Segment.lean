/-
This file tells where the letters of an expanded text stood in the document.
-/

import Flourish.Text.Basic

namespace Flourish

/-- The letters from `start` up to `stop` were taken from the document at `source`. -/
structure Segment where
  start : Int
  stop : Int
  source : Int
  deriving DecidableEq, Repr

namespace Segment

/-- The parts of segments from `start` up to `stop`, moved by `shift`. -/
def sliced (segments : List Segment) (start stop shift : Int) : List Segment :=
  segments.filterMap fun segment =>
    let low := max segment.start start
    let high := min segment.stop stop
    if low < high then
      some ⟨low + shift, high + shift, segment.source + low - segment.start⟩
    else none

/-- The place in the document of a letter that was taken from it. -/
def sourceOf? (segments : List Segment) (position : Int) : Option Int :=
  (segments.find? fun segment => segment.start ≤ position && position < segment.stop).map
    fun segment => segment.source + position - segment.start

end Segment
end Flourish
