/-
This file hands an argument on from component to component. Main statement: a call that goes through
a chain of components is drawn, or refused, as a call of the last one with the same argument.
-/

import Flourish.Proofs.Expansion.Call
import Flourish.Proofs.Expansion.Drawn
import Flourish.Proofs.Expansion.Visible
import Flourish.Proofs.Forwarding
import Flourish.Proofs.Span.Line

namespace Flourish

/-- A call of the name is handed on so many times until it is a call of the target. -/
inductive Processor.ForwardsTo (processor : Processor) (target : Text) : Nat → Text → Prop
  | here (isName : Tag.IsName target) : ForwardsTo processor target 0 target
  | forward {count : Nat} {name next : Text} {entry : Entry ComponentBody}
      (isName : Tag.IsName name)
      (known : Registry.require .component processor.registry.components name processor.context =
        .ok entry)
      (forwards : entry.body.Forwards next)
      (later : ForwardsTo processor target count next) :
      ForwardsTo processor target (count + 1) name

namespace Processor.ForwardsTo

variable {processor : Processor} {target name : Text} {count : Nat}

theorem isName (reaches : processor.ForwardsTo target count name) : Tag.IsName name := by
  cases reaches with
  | here isName => exact isName
  | forward isName => exact isName

theorem target_isName (reaches : processor.ForwardsTo target count name) : Tag.IsName target := by
  induction reaches with
  | here isName => exact isName
  | forward _ _ _ _ inductionHypothesis => exact inductionHypothesis

end Processor.ForwardsTo

namespace Component

/-- No primitive is drawn before what becomes of a call is known. -/
theorem expand_silent (registry : Registry) (palette : Palette) (tag : Tag) (content : Text)
    (context : Context) :
    (expand registry palette tag content context).events.filterMap Event.primitive? = [] := by
  unfold expand
  split
  · rfl
  · unfold expandEntry
    split <;> rfl

end Component

namespace Dispatch

/-- A tag that closes itself and calls a component becomes what the component does. -/
theorem decide_call (processor : Processor) (name argument : Text) (plain : .of '=' ∉ argument)
    (position : Nat) (tail : Text) :
    let head := Head.ofCall name argument
    let expansion := Component.expand processor.registry processor.palette
      (Tag.call name argument) [] processor.context
    decide processor (head.opening position) tail =
      ⟨expansion.events, expansion.result.map fun output =>
        (⟨head.inside.length, none⟩, componentMove output)⟩ := by
  intro head expansion
  have tag : (head.opening position).tag = Tag.call name argument := Head.tag_ofCall plain
  have sized : extent (head.opening position) tail = .ok ⟨head.inside.length, none⟩ :=
    Head.extent_selfClosing rfl
  show decide processor (head.opening position) tail = _
  simp only [decide, tag, Tag.kind, Tag.call, Option.getD_some, component, sized, expansion,
    Component.expand]
  cases Component.resolve processor.registry _ processor.context <;> rfl

end Dispatch
namespace Recursion

variable {processor : Processor} {site otherSite : Site} {position otherPosition : Nat}
  {run other : Run} {name target argument : Text}

section Call

variable (isName : Tag.IsName name) (positional : Tag.IsPositional argument)
include isName positional

/-- A call of which nothing becomes stops the expansion before anything is drawn. -/
theorem expand_callForm_refused {stop : Stop} (site : Site) (position : Nat) (run : Run)
    (refused : (Component.expand processor.registry processor.palette (Tag.call name argument) []
      processor.context).result = .error stop) :
    (expand processor site position (callForm name argument) run).visible =
      (.error stop.unplaced, run.drawings) := by
  obtain ⟨isSegment, plain⟩ := Tag.isPositional_iff.mp positional
  have decision := Dispatch.decide_call processor name argument plain position
    ((Head.ofCall name argument).inside ++ [])
  rw [Head.callForm_eq, expand_call_refused (Head.ofCall_wellFormed isName isSegment)
    (by rw [decision, refused]; rfl), visible_stopped, decision,
    drawings_decided (Component.expand_silent _ _ _ _ _)]

/-- What a call becomes takes its place, and nothing was drawn before. -/
theorem expand_callForm {output : ComponentOutput} (site : Site) (position : Nat) (run : Run)
    (becomes : (Component.expand processor.registry processor.palette (Tag.call name argument) []
      processor.context).result = .ok output) :
    ∃ opening extent later, later.drawings = run.drawings ∧ later.expansions = run.expansions ∧
      expand processor site position (callForm name argument) run =
        replacement processor site position opening extent [] later
          (Dispatch.componentMove output) := by
  obtain ⟨isSegment, plain⟩ := Tag.isPositional_iff.mp positional
  let opening := (Head.ofCall name argument).opening position
  let tail := (Head.ofCall name argument).inside ++ []
  have decision : Dispatch.decide processor opening tail = _ :=
    Dispatch.decide_call processor name argument plain position tail
  refine ⟨opening, ⟨(Head.ofCall name argument).inside.length, none⟩,
    decided site position opening (Dispatch.decide processor opening tail) run, ?_, rfl, ?_⟩
  · rw [decision]
    exact drawings_decided (Component.expand_silent _ _ _ _ _)
  · rw [Head.callForm_eq, expand_call (Head.ofCall_wellFormed isName isSegment)
      (by rw [decision, becomes]; rfl)
      (by simp [Extent.size, Extent.contentSize, Extent.closerSize])]
    rfl

end Call

section Target

variable {entry : Entry ComponentBody} {first second : Text}
  (found : Entry.find? processor.registry.components target = some entry)
  (native : entry.body.native = true)
include found native

/-- Two calls of a component without a template are drawn alike if their arguments are resolved
alike. -/
theorem visible_target (isName : Tag.IsName target) (positional : Tag.IsPositional first)
    (otherPositional : Tag.IsPositional second)
    (same : processor.palette.resolved first = processor.palette.resolved second)
    (drawings : run.drawings = other.drawings) :
    (expand processor site position (callForm target first) run).visible =
      (expand processor otherSite otherPosition (callForm target second) other).visible := by
  have alike : Component.expand processor.registry processor.palette (Tag.call target first) []
      processor.context = _ := Component.expand_resolved same target [] processor.context
  cases becomes : (Component.expand processor.registry processor.palette (Tag.call target second) []
      processor.context).result with
  | error stop =>
      rw [expand_callForm_refused isName positional site position run (by rw [alike, becomes]),
        expand_callForm_refused isName otherPositional otherSite otherPosition other becomes,
        drawings]
  | ok output =>
      obtain ⟨primitive, rfl⟩ := Component.expand_native found native second [] _ becomes
      obtain ⟨_, _, later, kept, _, expanded⟩ :=
        expand_callForm isName positional site position run (by rw [alike, becomes])
      obtain ⟨_, _, otherLater, otherKept, _, otherExpanded⟩ :=
        expand_callForm isName otherPositional otherSite otherPosition other becomes
      rw [expanded, otherExpanded]
      exact visible_drawn (kept.trans (drawings.trans otherKept.symm)) primitive

/-- A call that is handed on is drawn as a call of the target, if no limit is in the way. -/
theorem visible_forwarded (settled : processor.palette.Settled) {count : Nat}
    (reaches : processor.ForwardsTo target count name)
    (positional : Tag.IsPositional first) (otherPositional : Tag.IsPositional second)
    (same : processor.palette.resolved first = processor.palette.resolved second)
    (shallow : site.depth + count ≤ processor.settings.maxExpansionDepth)
    (few : run.expansions + count ≤ processor.settings.maxExpansions)
    (drawings : run.drawings = other.drawings) :
    (expand processor site position (callForm name first) run).visible =
      (expand processor otherSite otherPosition (callForm target second) other).visible := by
  -- Behind each link the argument is a resolved one, so the induction is for all arguments that
  -- are resolved alike.
  induction reaches generalizing first site position run with
  | here isName => exact visible_target found native isName positional otherPositional same drawings
  | @forward count name next entry nameIsName known forwards later inductionHypothesis =>
      obtain ⟨opening, extent, decided, kept, counts, expanded⟩ :=
        expand_callForm nameIsName positional site position run
          (Component.expand_forwards known forwards later.isName [])
      let inner := site.child position extent opening.headStop []
      have within : ¬ processor.settings.maxExpansions < (counted decided).expansions := by
        simp only [counted, counts]
        omega
      have above : ¬ processor.settings.maxExpansionDepth < site.depth + 1 := by omega
      have opens : expand processor site position (callForm name first) run =
          (expand processor inner 0 (callForm next (processor.palette.resolved first))
            (entered site opening (counted decided))).finished inner .keep := by
        rw [expanded, Dispatch.componentMove, replacement, if_neg within, opened, if_neg above]
        rfl
      rw [opens, visible_finished]
      refine inductionHypothesis (settled.isPositional positional) ?_ ?_ ?_ ?_
      · rw [settled.resolved_resolved, same]
      · show site.depth + 1 + count ≤ _
        omega
      · show decided.expansions + 1 + count ≤ _
        omega
      · rw [entered, Run.drawings_log rfl]
        exact kept.trans drawings

end Target

end Recursion

namespace Processor

variable {processor : Processor} {target argument : Text}

theorem scan_callForm (marks : processor.settings.codeMarks = CodeMarks.standard) {name : Text}
    (isName : Tag.IsName name) (positional : Tag.IsPositional argument)
    (bare : .of '\x60' ∉ argument) :
    Span.scan processor.settings.codeMarks (callForm name argument) =
      [⟨.literal, 0, (callForm name argument).length⟩] := by
  have single : .of '\n' ∉ argument := fun member =>
    ((Tag.isPositional_iff.mp positional).1.letters _ member).2.2.2.2 rfl
  have nameSingle : .of '\n' ∉ name := Tag.not_mem_of_isNameLetter isName.2 rfl
  have nameBare : .of '\x60' ∉ name := Tag.not_mem_of_isNameLetter isName.2 rfl
  have form : callForm name argument =
      .of '{' :: (.of '{' :: (("ui:" : Text) ++ (name ++ .of ':' :: argument)) ++
        [.of '/', .of '}', .of '}']) := rfl
  rw [marks, form]
  exact Span.scan_braces (by simp [single, nameSingle]) (by simp [bare, nameBare])

/-- A call that is handed on is drawn, or refused, as a call of the target. -/
theorem drawnAlike_forwarded {entry : Entry ComponentBody} (settled : processor.palette.Settled)
    (marks : processor.settings.codeMarks = CodeMarks.standard)
    (found : Entry.find? processor.registry.components target = some entry)
    (native : entry.body.native = true) (positional : Tag.IsPositional argument)
    (bare : .of '\x60' ∉ argument) {count : Nat} {name : Text}
    (reaches : processor.ForwardsTo target count name)
    (shallow : count ≤ processor.settings.maxExpansionDepth)
    (few : count ≤ processor.settings.maxExpansions) :
    (processor.process (callForm name argument)).DrawnAlike
      (processor.process (callForm target argument)) := by
  obtain ⟨run, drawings, none, result, primitives⟩ :=
    process_visible (scan_callForm marks reaches.isName positional bare) rfl
  obtain ⟨other, otherDrawings, _, otherResult, otherPrimitives⟩ :=
    process_visible (scan_callForm marks reaches.target_isName positional bare) rfl
  have visible :
      (Recursion.expand processor (Site.ofDocument (callForm name argument) 0) 0
        (callForm name argument) run).visible =
      (Recursion.expand processor (Site.ofDocument (callForm target argument) 0) 0
        (callForm target argument) other).visible :=
    Recursion.visible_forwarded found native settled reaches positional positional rfl
      (by rwa [Site.ofDocument, Nat.zero_add]) (by rwa [none, Nat.zero_add])
      (drawings.trans otherDrawings.symm)
  constructor
  · rw [result, otherResult, visible]
  · rw [primitives, otherPrimitives, visible]

/-- In a settled palette an argument survives that is handed on from component to component: what is
drawn, or why nothing is, does not depend on how many of them it goes through. At each of them what
the argument is resolved to is written into the call of the next one, is read there as the only
argument, and is not changed by being resolved again. -/
theorem process_forwarded (processor : Processor) (settled : processor.palette.Settled)
    (marks : processor.settings.codeMarks = CodeMarks.standard) (target : Text)
    (entry : Entry ComponentBody)
    (found : Entry.find? processor.registry.components target = some entry)
    (native : entry.body.native = true) (argument : Text) (positional : Tag.IsPositional argument)
    (bare : .of '\x60' ∉ argument) :
    let resolved := processor.palette.resolved argument
    (∀ count name, processor.ForwardsTo target count name →
      count ≤ processor.settings.maxExpansionDepth → count ≤ processor.settings.maxExpansions →
      (processor.process (callForm name argument)).DrawnAlike
        (processor.process (callForm target argument))) ∧
    (∀ count name, processor.ForwardsTo target (count + 1) name →
      ∃ next parameters, processor.ForwardsTo target count next ∧ ∀ given ∈ [argument, resolved],
        (Component.expand processor.registry processor.palette (Tag.call name given) []
          processor.context).result =
            .ok (.template (callForm next resolved) none parameters [])) ∧
    (∀ name, Tag.IsName name → ∀ position rest,
      Token.read position (callForm name resolved ++ rest) = .ok (some (.opening
        ⟨Tag.call name resolved, position, position + (callForm name resolved).length⟩))) ∧
    processor.palette.resolved resolved = resolved := by
  intro resolved
  have again : processor.palette.resolved resolved = resolved :=
    settled.resolved_resolved argument
  refine ⟨fun count name => drawnAlike_forwarded settled marks found native positional bare, ?_,
    fun name => (settled.isPositional positional).read_callForm, again⟩
  intro count name reaches
  cases reaches with
  | @forward _ _ next entry _ known forwards later =>
      refine ⟨next, entry.body.parameters, later, ?_⟩
      have written (given : Text) (same : processor.palette.resolved given = resolved) :
          (Component.expand processor.registry processor.palette (Tag.call name given) []
            processor.context).result =
              .ok (.template (callForm next resolved) none entry.body.parameters []) := by
        rw [Component.expand_forwards known forwards later.isName, same]
      exact List.forall_mem_cons.mpr ⟨written argument rfl,
        List.forall_mem_singleton.mpr (written resolved again)⟩

/-- A component that hands its argument on to another one. -/
def forwarder (id next : Text) : Entry ComponentBody :=
  ⟨id, [], [.inline], .absent, ⟨true, false, callForm next "$1", ["color"], [], [], none⟩⟩

def colorSwatch : Entry ComponentBody :=
  ⟨"swatch", [], [.inline], .absent, ⟨true, true, [], ["color"], [], [], none⟩⟩

/-- A processor with a swatch behind two components that hand on. -/
def forwarding : Processor where
  registry := ⟨[], [], [], [], [forwarder "outer" "inner", forwarder "inner" "swatch", colorSwatch],
    [], [], [], "flat-square"⟩
  palette := ⟨[("accent", "F41C80")], []⟩
  settings := Settings.standard
  renderer := fun _ => .ok (.markdown [])
  context := Context.block

theorem forwardsTo_swatch : forwarding.ForwardsTo "swatch" 2 "outer" :=
  .forward (by decide) rfl ⟨rfl, rfl, rfl, rfl⟩
    (.forward (by decide) rfl ⟨rfl, rfl, rfl, rfl⟩ (.here (by decide)))

theorem process_forwarded_accent :
    forwarding.palette.Settled ∧ Tag.IsPositional "accent" ∧
      forwarding.ForwardsTo "swatch" 2 "outer" ∧
      .swatch "F41C80" "flat-square" none ∈
        (forwarding.process (callForm "outer" "accent")).events.filterMap Event.primitive? := by
  have settled : forwarding.palette.Settled := ⟨by decide, by decide⟩
  have positional : Tag.IsPositional "accent" :=
    Tag.IsName.isPositional (show Tag.IsName "accent" by decide)
  have stepped (run : Run) : Machine.step forwarding
      (Machine.ofDocument (callForm "swatch" "accent") 0 run) =
        .next ⟨(Job.ofDocument (callForm "swatch" "accent") 0).advanced [] [] 21, [],
          ((run.log (.dispatched "ui:swatch" 0)).log (.nativeCalled "swatch" ["F41C80"])).log
            (.rendered (.swatch "F41C80" "flat-square" none))⟩ := by
    with_unfolding_all rfl
  have drawn := rendered_of_step (by with_unfolding_all rfl) (by with_unfolding_all rfl) stepped
  refine ⟨settled, positional, forwardsTo_swatch, ?_⟩
  obtain ⟨alike, _⟩ := process_forwarded forwarding settled rfl "swatch" colorSwatch rfl rfl
    "accent" positional (by decide)
  rw [(alike 2 "outer" forwardsTo_swatch (by decide) (by decide)).primitives]
  exact List.mem_filterMap.mpr ⟨_, drawn, rfl⟩

end Processor
end Flourish
